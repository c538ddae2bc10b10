import Keychord.Proofs.Minutes
import Keychord.Proofs.Timer.Accounting

namespace Keychord.Timer

variable {κ : Type}

def Call.selection : Call κ → Schedule κ → List (Pending κ)
  | .force, s => s.pending
  | .process (.ok now), s => s.due now
  | _, _ => []

def Call.Passes (c : Call κ) : Prop := c = .force ∨ ∃ now, c = .process (.ok now)

-- A call under way: the schedule in which it was made, what had been seen before, the timers that it has let go off, the
-- latest first, and how the latest callback has failed.
structure Pass (κ : Type) where
  call : Call κ
  state : Schedule κ
  before : Past κ
  fired : List (Pending κ) := []
  failed : Option Failure := none

def Pass.selection (pass : Pass κ) : List (Pending κ) := pass.call.selection pass.state

-- The minutes of calls. A timer has been let go off by the call that asked for its callback to be called.
def passes (κ : Type) : Minutes (Schedule.surroundings κ) (Schedule κ) (Call κ) (Answer κ) (Pass κ) where
  start c s h := { call := c, state := s, before := h }
  note
    | .asked _ s, h, pass => { pass with fired := gone (Past.latest h) s ++ pass.fired }
    | .answered _ (.error f), _, pass => { pass with failed := some f }
    | _, _, pass => pass

def Past.Over (h : Past κ) (timer : Pending κ) : Prop := timer ∈ Past.invoked h ∨ timer ∈ Past.cancelled h

structure Orderly (h : Past κ) (s : Schedule κ) : Prop extends Accounts h s where
  ordered : s.pending.reverse.Sublist (Past.created h)
  falling : (Past.created h).Pairwise (·.number > ·.number)

structure Pass.Begun (pass : Pass κ) (h : Past κ) : Prop where
  made    : .called pass.call pass.state :: pass.before <:+ h
  created : pass.selection.reverse.Sublist (Past.created pass.before)
  rising  : pass.selection.Pairwise (·.number < ·.number)

-- It is the turn of a timer: it comes after those that the pass has let go off, and no other that comes before it waits.
structure Pass.Turn (pass : Pass κ) (timer : Pending κ) (before : Past κ) : Prop where
  begun   : pass.Begun before
  calm    : pass.failed = none
  ordered : (timer :: pass.fired).reverse.Sublist pass.selection
  earlier : ∀ other ∈ pass.selection, other.number < timer.number → Past.Over before other

-- A timer at which a pass broke off is gone, and those that come after it wait, except for those that others have let
-- go off or cancelled.
structure Pass.BrokenAt (pass : Pass κ) (timer : Pending κ) (s : Schedule κ) (before : Past κ) : Prop where
  latest  : pass.fired.head? = some timer
  gone    : ¬s.waits timer.number
  earlier : ∀ other ∈ pass.selection, other.number ≤ timer.number → Past.Over before other
  later   : ∀ other ∈ pass.selection, timer.number < other.number → other ∉ pass.fired ∧
    (¬Past.Over before other → other ∈ s.pending)

-- A pass that comes to its end has let go off a part of its selection. Unless a callback has failed, nothing of it waits.
structure Pass.Left (pass : Pass κ) (s : Schedule κ) (before : Past κ) : Prop where
  begun    : pass.Begun before
  ordered  : pass.fired.reverse.Sublist pass.selection
  finished : pass.failed = none → ∀ timer ∈ pass.selection, Past.Over before timer
  broken   : ∀ f, pass.failed = some f → ∃ timer, pass.BrokenAt timer s before

def Pass.outcome (pass : Pass κ) : Except Failure Nat := pass.failed.elim (.ok pass.fired.length) .error

def inOrder (κ : Type) : Pledge (Schedule.surroundings κ) (Schedule κ) (Call κ) (Answer κ) (Pass κ) where
  inv s h := Orderly h s
  asks pass callback s before := ∃ timer, GoesOff pass.call callback s before timer ∧ pass.Turn timer before
  ends c pass outcome s before := pass.call = c ∧
    (c.Passes → outcome = pass.outcome.map .fired ∧ pass.Left s before)

section Over

variable {h h' : Past κ} {s : Schedule κ} {timer : Pending κ}

theorem Past.Over.later (ended : Past.Over h timer) (hs : h <:+ h') : Past.Over h' timer := by
  refine ended.imp (fun ht => (sublist_of_suffix (fun sight h => ?_) hs).subset ht)
    (fun ht => (sublist_of_suffix (fun sight h => ?_) hs).subset ht)
  case refine_1 =>
    cases sight with
    | asked callback s => exact List.sublist_append_right _ _
    | _ => exact .refl _
  case refine_2 =>
    obtain ⟨_ | _ | number | _ | _, s⟩ | _ | _ | _ := sight
    case called.cancel => exact List.sublist_append_right _ _
    all_goals exact .refl _

theorem Accounts.not_waits (accounts : Accounts h s) (ended : Past.Over h timer) : ¬s.waits timer.number := by
  intro waits
  have ⟨other, waiting, same⟩ := Schedule.waits_iff.mp waits
  exact accounts.disjoint waiting (same ▸ List.mem_map_of_mem (List.mem_append.mpr ended))

theorem Accounts.ended (accounts : Accounts h s) (created : timer ∈ Past.created h) (left : timer ∉ s.pending) :
    Past.Over h timer :=
  List.mem_append.mp ((List.mem_append.mp (accounts.balance.symm.subset created)).resolve_left left)

theorem Accounts.mem_pending (accounts : Accounts h s) (created : timer ∈ Past.created h) (waits : s.waits timer.number) :
    timer ∈ s.pending := by
  have ⟨other, waiting, same⟩ := Schedule.waits_iff.mp waits
  exact accounts.distinct.eq (accounts.created_of_pending waiting) created same ▸ waiting

end Over

theorem Call.selection_sublist (c : Call κ) (s : Schedule κ) : (c.selection s).Sublist s.pending :=
  match c with
  | .force => .refl _
  | .process (.ok _) => List.filter_sublist
  | .process (.error _) | .later .. | .cancel _ => List.nil_sublist _

theorem Call.mem_selection {c : Call κ} {s : Schedule κ} {timer : Pending κ} :
    timer ∈ c.selection s ↔ timer ∈ s.pending ∧ c.Allows timer := by
  match c with
  | .force => simp [Call.selection, Call.Allows]
  | .process (.ok now) => simp [Call.selection, Call.Allows, Schedule.due]
  | .process (.error _) | .later .. | .cancel _ => simp [Call.selection, Call.Allows]

namespace Orderly

variable {h h' : Past κ} {s s' : Schedule κ}

theorem new : Orderly ([] : Past κ) {} := { Accounts.new with ordered := .refl _, falling := .nil }

theorem keep (orderly : Orderly h s) (accounts : Accounts h' s') (same : Past.created h' = Past.created h)
    (kept : s'.pending.Sublist s.pending) : Orderly h' s' :=
  { accounts with
    ordered := same ▸ kept.reverse.trans orderly.ordered
    falling := same ▸ orderly.falling }

theorem rising (orderly : Orderly h s) : s.pending.Pairwise (·.number < ·.number) :=
  List.pairwise_reverse.mp (orderly.falling.sublist orderly.ordered)

theorem begun (orderly : Orderly h s) (c : Call κ) :
    Pass.Begun { call := c, state := s, before := h } (.called c s :: h) where
  made := List.suffix_refl _
  created := (c.selection_sublist s).reverse.trans orderly.ordered
  rising := orderly.rising.sublist (c.selection_sublist s)

theorem later (orderly : Orderly h s) (reading : Except Failure Float) (delay : Delay) (callback : κ) (deadline : Float) :
    Orderly (.returned (.later reading delay callback) (.ok (.made ⟨s.made + 1, deadline, callback⟩))
        ⟨s.pending ++ [⟨s.made + 1, deadline, callback⟩], s.made + 1⟩ :: .called (.later reading delay callback) s :: h)
      ⟨s.pending ++ [⟨s.made + 1, deadline, callback⟩], s.made + 1⟩ :=
  { orderly.toAccounts.later reading delay callback deadline with
    ordered := by
      rw [List.reverse_append]
      exact orderly.ordered.cons_cons _
    falling := List.pairwise_cons.mpr ⟨fun timer ht => Nat.lt_succ_of_le (orderly.numbered timer ht), orderly.falling⟩ }

theorem goesOff {timer : Pending κ} (orderly : Orderly h s) (waiting : timer ∈ s.pending) :
    gone (Past.latest h) (s.disarm timer.number) = [timer] ∧
      Orderly (.asked timer.callback (s.disarm timer.number) :: h) (s.disarm timer.number) ∧
      Past.Over (.asked timer.callback (s.disarm timer.number) :: h) timer := by
  have taken : gone (Past.latest h) (s.disarm timer.number) = [timer] := by
    rw [orderly.latest, gone_disarm orderly.pending_distinct waiting]
  refine ⟨taken, orderly.keep (orderly.toAccounts.goesOff waiting) rfl List.filter_sublist, ?_⟩
  exact .inl (List.mem_append_left _ (taken ▸ List.mem_singleton_self timer))

end Orderly

namespace Pass

variable {pass : Pass κ} {h h' : Past κ} {s : Schedule κ} {timer : Pending κ} {done rest : List (Pending κ)}

theorem Begun.later (begun : pass.Begun h) (hs : h <:+ h') : pass.Begun h' :=
  { begun with made := begun.made.trans hs }

theorem Begun.mem_created (begun : pass.Begun h) (ht : timer ∈ pass.selection) : timer ∈ Past.created h :=
  created_of_suffix ((List.suffix_cons _ _).trans begun.made) (begun.created.subset (List.mem_reverse.mpr ht))

theorem Begun.around (begun : pass.Begun h) (parts : pass.selection = done ++ timer :: rest) :
    (∀ other ∈ done, other.number < timer.number) ∧ ∀ other ∈ rest, timer.number < other.number := by
  have ⟨_, behind, across⟩ := List.pairwise_append.mp (parts ▸ begun.rising)
  exact ⟨fun other ho => across other ho timer List.mem_cons_self, (List.pairwise_cons.mp behind).left⟩

structure Going (pass : Pass κ) (done rest : List (Pending κ)) (h : Past κ) : Prop where
  begun : pass.Begun h
  calm  : pass.failed = none
  parts : pass.selection = done ++ rest
  fired : pass.fired.reverse.Sublist done
  ended : ∀ timer ∈ done, Past.Over h timer

namespace Going

theorem later (going : pass.Going done rest h) (hs : h <:+ h') : pass.Going done rest h' :=
  { going with begun := going.begun.later hs, ended := fun timer ht => (going.ended timer ht).later hs }

theorem mem_created (going : pass.Going done (timer :: rest) h) : timer ∈ Past.created h :=
  going.begun.mem_created (by simp [going.parts])

theorem passOver (going : pass.Going done (timer :: rest) h) (ended : Past.Over h timer) :
    pass.Going (done ++ [timer]) rest h where
  begun := going.begun
  calm := going.calm
  parts := by simp [going.parts]
  fired := going.fired.trans (List.sublist_append_left done [timer])
  ended other ho := by
    cases List.mem_append.mp ho with
    | inl ho => exact going.ended other ho
    | inr ho => exact List.mem_singleton.mp ho ▸ ended

theorem fire (going : pass.Going done (timer :: rest) h) (ended : Past.Over h' timer) (hs : h <:+ h') :
    Going { pass with fired := timer :: pass.fired } (done ++ [timer]) rest h' where
  begun := { (going.later hs).begun with }
  calm := going.calm
  parts := show pass.selection = _ by simp [going.parts]
  fired := by simpa using going.fired.append (List.Sublist.refl [timer])
  ended := ((going.later hs).passOver ended).ended

theorem turn (going : pass.Going done (timer :: rest) h) : pass.Turn timer h where
  begun := going.begun
  calm := going.calm
  ordered := by
    rw [going.parts, List.reverse_cons]
    exact going.fired.append (List.singleton_sublist.mpr List.mem_cons_self)
  earlier other ho less := by
    rw [going.parts] at ho
    cases List.mem_append.mp ho with
    | inl ho => exact going.ended other ho
    | inr ho =>
      cases List.mem_cons.mp ho with
      | inl same => exact absurd (same ▸ less) (Nat.lt_irrefl _)
      | inr ho => exact absurd less (Nat.lt_asymm ((going.begun.around going.parts).right other ho))

theorem left (going : pass.Going done [] h) : pass.Left s h where
  begun := going.begun
  ordered := by simpa [going.parts] using going.fired
  finished _ timer ht := going.ended timer (by simpa [going.parts] using ht)
  broken f failed := by simp [going.calm] at failed

theorem broken (going : pass.Going (done ++ [timer]) rest h) (accounts : Accounts h s)
    (latest : pass.fired.head? = some timer)
    (f : Failure) : Left { pass with failed := some f } s h where
  begun := { going.begun with }
  ordered := by
    show pass.fired.reverse.Sublist pass.selection
    rw [going.parts]
    exact going.fired.trans (List.sublist_append_left _ _)
  finished failed := by simp at failed
  broken _ _ := by
    have ⟨before, after⟩ := going.begun.around (show pass.selection = done ++ timer :: rest by simp [going.parts])
    refine ⟨timer, latest, ?_, fun other ho less => ?_, fun other ho less => ⟨fun hf => ?_, fun left => ?_⟩⟩
    case refine_1 => exact accounts.not_waits (going.ended timer (by simp))
    case refine_2 =>
      have ho : other ∈ (done ++ [timer]) ++ rest := going.parts ▸ ho
      cases List.mem_append.mp ho with
      | inl ho => exact going.ended other ho
      | inr ho => exact absurd (after other ho) (Nat.not_lt.mpr less)
    case refine_3 =>
      have ho : other ∈ done ++ [timer] := going.fired.subset (List.mem_reverse.mpr hf)
      cases List.mem_append.mp ho with
      | inl ho => exact absurd less (Nat.lt_asymm (before other ho))
      | inr ho => exact absurd less (List.mem_singleton.mp ho ▸ Nat.lt_irrefl _)
    case refine_4 =>
      exact Classical.not_not.mp fun missing => left (accounts.ended (going.begun.mem_created ho) missing)

end Going

end Pass

section Loop

variable {pass : Pass κ} {h : Past κ} {s : Schedule κ} {timer : Pending κ} {done rest timers : List (Pending κ)} {c : Call κ}

def counted (outcome : Except Failure Nat) : Program (Schedule.surroundings κ) (Schedule κ) Nat :=
  fun s => .finished (outcome.map (· + 1)) s

-- A timer that waits is taken out and its callback is called. Then the others have their turn, unless that has failed.
theorem fire_cons (rest : List (Pending κ)) (waits : s.waits timer.number) : ∃ resume,
    Schedule.fire (timer :: rest) s = .waiting timer.callback (s.disarm timer.number) resume ∧
      (∀ reply s, resume (.ok reply) s = (Schedule.fire rest s).andThen counted) ∧
      ∀ f s, resume (.error f) s = .finished (.error f) s := by
  refine ⟨_, congrFun (if_pos waits) s, fun _ s => ?_, fun f s => rfl⟩
  refine congrArg (Run.andThen · (Schedule.fire rest s)) (funext fun outcome => ?_)
  cases outcome <;> rfl

structure Pass.Comes (pass after : Pass κ) (outcome : Except Failure Nat) (s : Schedule κ) (h : Past κ) : Prop where
  orderly : Orderly h s
  call    : after.call = pass.call
  outcome : outcome.map (· + pass.fired.length) = after.outcome
  left    : after.Left s h

-- The timers of a selection have their turns one after the other.
theorem honours_fire (going : pass.Going done timers h) (orderly : Orderly h s) :
    (Schedule.fire timers s).Honours (anyone κ) (passes κ) (inOrder κ) pass.Comes pass h := by
  -- What the pass has done with the timers before is in its account, so the induction is on those that are left.
  induction timers generalizing pass done s h with
  | nil => exact ⟨orderly, rfl, by simp [Pass.outcome, going.calm, Except.map], going.left⟩
  | cons timer rest ih =>
    by_cases waits : s.waits timer.number
    case neg =>
      have ended : Past.Over h timer :=
        orderly.ended going.mem_created fun waiting => waits (Schedule.waits_iff.mpr ⟨timer, waiting, rfl⟩)
      rw [fire_of_not_waits waits]
      exact ih (going.passOver ended) orderly
    case pos =>
      have waiting : timer ∈ s.pending := orderly.mem_pending going.mem_created waits
      have apart : ¬Past.Over h timer := fun ended => orderly.not_waits ended waits
      have chosen : timer ∈ pass.selection := going.parts ▸ List.mem_append_right _ List.mem_cons_self
      have ⟨taken, orderly', ended⟩ := orderly.goesOff waiting
      have ⟨resume, fires, goesOn, fails⟩ := fire_cons rest waits
      rw [fires]
      refine ⟨⟨timer, ?_, going.turn⟩, orderly', fun reply s' h' _ grown orderly' => ?_⟩
      case refine_1 =>
        exact ⟨taken, rfl, going.mem_created, fun hi => apart (.inl hi), fun hc => apart (.inr hc),
          (Call.mem_selection.mp chosen).right⟩
      case refine_2 =>
        have noted : (passes κ).note (.asked timer.callback (s.disarm timer.number)) h pass =
            { pass with fired := timer :: pass.fired } := by
          show { pass with fired := gone (Past.latest h) _ ++ pass.fired } = _
          rw [taken, List.singleton_append]
        have seen := grown.trans (List.suffix_cons (.answered timer.callback reply) h')
        have going' := going.fire (ended.later seen) ((List.suffix_cons _ _).trans seen)
        have orderly'' : Orderly (.answered timer.callback reply :: h') s' :=
          orderly'.keep (orderly'.answered timer.callback reply) rfl (.refl _)
        rw [noted]
        cases reply with
        | error f =>
          rw [fails]
          exact ⟨orderly'', rfl, rfl, going'.broken orderly''.toAccounts rfl f⟩
        | ok _ =>
          rw [goesOn, Run.honours_andThen]
          refine (ih going' orderly'').mono fun after outcome s h comes => ⟨comes.orderly, comes.call, ?_, comes.left⟩
          rw [← comes.outcome]
          cases outcome with
          | error f => rfl
          | ok count => exact congrArg Except.ok (by simp; omega)

theorem honours_pass (orderly : Orderly h s) (hc : ∀ number, c ≠ .cancel number) :
    ((do return .fired (← Schedule.fire (c.selection s)) : Program (Schedule.surroundings κ) (Schedule κ) (Answer κ))
      s).Honours (anyone κ) (passes κ) (inOrder κ) ((inOrder κ).Returns c) ((passes κ).start c s h) (.called c s :: h) := by
  have begins : Pass.Going { call := c, state := s, before := h } [] (c.selection s) (.called c s :: h) :=
    ⟨orderly.begun c, rfl, rfl, .refl _, by simp⟩
  have orderly' : Orderly (.called c s :: h) s := orderly.keep (orderly.called hc) rfl (.refl _)
  refine Run.honours_andThen.mpr ((honours_fire begins orderly').mono fun after outcome s h comes => ?_)
  have ⟨orderly, call, same, left⟩ := comes
  have same : outcome = after.outcome := same ▸ (by cases outcome <;> rfl)
  cases outcome with
  | error f => exact ⟨⟨call, fun _ => ⟨same ▸ rfl, left⟩⟩, orderly.keep (orderly.returned c (by simp)) rfl (.refl _)⟩
  | ok count => exact ⟨⟨call, fun _ => ⟨same ▸ rfl, left⟩⟩, orderly.keep (orderly.returned c (by simp)) rfl (.refl _)⟩

end Loop

theorem inOrder_kept : (inOrder κ).Kept (passes κ) Call.operate (anyone κ) where
  honours := by
    intro c s h orderly
    match c with
    | .later (.error f) delay callback =>
      exact ⟨⟨rfl, by simp [Call.Passes]⟩, orderly.keep (orderly.missed _ _ _ f) rfl (.refl _)⟩
    | .later (.ok now) delay callback =>
      show (inOrder κ).Returns _ _ ((Schedule.arm now delay callback s).1.map .made) (Schedule.arm now delay callback s).2 _
      cases hd : delay.seconds with
      | error f =>
        rw [Schedule.arm_error hd]
        exact ⟨⟨rfl, by simp [Call.Passes]⟩, orderly.keep (orderly.missed _ _ _ f) rfl (.refl _)⟩
      | ok seconds =>
        rw [Schedule.arm_ok hd]
        exact ⟨⟨rfl, by simp [Call.Passes]⟩, orderly.later _ _ _ _⟩
    | .cancel number =>
      exact ⟨⟨rfl, by simp [Call.Passes]⟩, orderly.keep (orderly.cancel number) rfl List.filter_sublist⟩
    | .process (.error f) =>
      exact ⟨⟨rfl, by simp [Call.Passes]⟩, orderly.keep ((orderly.called (by simp)).returned _ (by simp)) rfl (.refl _)⟩
    | .process (.ok now) => exact honours_pass orderly (by simp)
    | .force => exact honours_pass orderly (by simp)
  drifts := fun _ _ _ drifts => drifts.elim

section Later

def calm (request : (Schedule.surroundings κ).Request) : Except Failure ((Schedule.surroundings κ).Answer request) := .ok ()

theorem Schedule.waits_disarm {s : Schedule κ} {n number : Nat} (waits : (s.disarm n).waits number) :
    s.waits number ∧ n ≠ number := by
  have ⟨timer, ht, same⟩ := Schedule.waits_iff.mp waits
  have ⟨ht, differs⟩ := Schedule.mem_disarm.mp ht
  exact ⟨Schedule.waits_iff.mpr ⟨timer, ht, same⟩, fun he => differs (same.trans he.symm)⟩

theorem fire_answerAll (timers : List (Pending κ)) (s : Schedule κ) (h : Past κ) : ∃ count s' h',
    (Schedule.fire timers s).answerAll calm h = (.ok count, s', h') ∧ Past.cancelled h' = Past.cancelled h ∧
      ∀ number, s'.waits number → s.waits number ∧ ∀ timer ∈ timers, timer.number ≠ number := by
  induction timers generalizing s h with
  | nil => exact ⟨0, s, h, rfl, rfl, fun number waits => ⟨waits, by simp⟩⟩
  | cons timer rest ih =>
    by_cases waits : s.waits timer.number
    case neg =>
      have ⟨count, s', h', ends, same, left⟩ := ih s h
      rw [fire_of_not_waits waits]
      refine ⟨count, s', h', ends, same, fun number waits' => ?_⟩
      have ⟨still, others⟩ := left number waits'
      exact ⟨still, List.forall_mem_cons.mpr ⟨fun he => waits (he ▸ still), others⟩⟩
    case pos =>
      have ⟨resume, fires, goesOn, _⟩ := fire_cons rest waits
      have ⟨count, s', h', ends, same, left⟩ := ih (s.disarm timer.number)
        (.answered timer.callback (.ok ()) :: .asked timer.callback (s.disarm timer.number) :: h)
      have counts := Run.answerAll_andThen calm (Schedule.fire rest (s.disarm timer.number)) counted
        (.answered timer.callback (.ok ()) :: .asked timer.callback (s.disarm timer.number) :: h)
      rw [ends] at counts
      refine ⟨count + 1, s', h', ?_, same, fun number waits' => ?_⟩
      case refine_1 =>
        rw [fires]
        exact (congrArg (fun run => Run.answerAll calm run _) (goesOn () _)).trans counts
      case refine_2 =>
        have ⟨still, others⟩ := left number waits'
        have ⟨still, differs⟩ := Schedule.waits_disarm still
        exact ⟨still, List.forall_mem_cons.mpr ⟨differs, others⟩⟩

theorem exists_pass {M : Ticking κ} (minuted : Machine.Minuted (anyone κ) (passes κ) (inOrder κ) M) {timer : Pending κ}
    (waiting : timer ∈ M.state.pending) {c : Call κ} (allowed : c.Allows timer) : ∃ M' count s before,
    Machine.Reaches Call.operate (anyone κ) M M' ∧ M'.frames = M.frames ∧
      M'.history = .returned c (.ok (.fired count)) s :: before ∧ timer ∈ Past.invoked M'.history := by
  have spared : Past.cancelled (.called c M.state :: M.history) = Past.cancelled M.history := by
    obtain rfl | ⟨now, rfl, -⟩ := allowed <;> rfl
  have whole : c.operate M.state = ((do return .fired (← Schedule.fire (c.selection M.state)) :
      Program (Schedule.surroundings κ) (Schedule κ) (Answer κ)) M.state) := by
    obtain rfl | ⟨now, rfl, -⟩ := allowed <;> rfl
  have ⟨count, s, before, ends, same, left⟩ :=
    fire_answerAll (c.selection M.state) M.state (.called c M.state :: M.history)
  have all : (c.operate M.state).answerAll calm (.called c M.state :: M.history) = (.ok (.fired count), s, before) := by
    rw [whole]
    refine (Run.answerAll_andThen calm (Schedule.fire (c.selection M.state) M.state) _ _).trans ?_
    rw [ends]
    rfl
  have reaches : Machine.Reaches Call.operate (anyone κ) M ⟨s, M.frames, .returned c (.ok (.fired count)) s :: before⟩ := by
    have returns : Machine.Reaches Call.operate (anyone κ) _ _ := Machine.reaches_answerAll
      (show ∀ request, (anyone κ).answers request (calm request) from fun _ => trivial) c M.frames (c.operate M.state)
      (.called c M.state :: M.history)
    rw [all] at returns
    exact .head (.call (fun _ _ => trivial) trivial) returns
  refine ⟨_, count, s, before, reaches, rfl, rfl, ?_⟩
  have orderly : Orderly M.history M.state := minuted.inv
  have orderly' : Orderly (.returned c (.ok (.fired count)) s :: before) s := (reaches.minuted inOrder_kept minuted).inv
  have created := created_of_suffix reaches.history_suffix (orderly.created_of_pending waiting)
  have gone : timer ∉ s.pending := fun still =>
    (left timer.number (Schedule.waits_iff.mpr ⟨timer, still, rfl⟩)).right timer
    (Call.mem_selection.mpr ⟨waiting, allowed⟩) rfl
  cases orderly'.ended created gone with
  | inl invoked => exact invoked
  | inr cancelled =>
    have cancelled : timer ∈ Past.cancelled M.history := by rw [← spared, ← same]; exact cancelled
    exact absurd (List.mem_map_of_mem (List.mem_append_right _ cancelled)) (orderly.disjoint waiting)

end Later

-- Whenever a callback is called, the innermost call has let its timer go off: a timer that it selected, that has not
-- gone off and has not been cancelled, and whose turn it is. Whenever a pass returns, it has let go off a part of its
-- selection, in order, and says how many, or fails as a callback has failed. In the one case nothing of its selection
-- waits; in the other the timer at which it broke off is gone, and what comes after it waits unless others have seen to
-- it. And any timer that waits goes off in a later pass.
theorem pass_in_order {M : Ticking κ} (reaches : Machine.Reaches Call.operate (anyone κ) ⟨{}, [], []⟩ M) :
    (∀ callback s before, .asked callback s :: before <:+ M.history → ∃ pass rest timer,
      (passes κ).underWay before = pass :: rest ∧ GoesOff pass.call callback s before timer ∧ pass.Turn timer before) ∧
    (∀ c outcome s before, c.Passes → .returned c outcome s :: before <:+ M.history → ∃ pass rest,
      (passes κ).underWay before = pass :: rest ∧ pass.call = c ∧ outcome = pass.outcome.map .fired ∧ pass.Left s before) ∧
    ∀ timer ∈ M.state.pending, ∀ c : Call κ, c.Allows timer → ∃ M' count s before,
      Machine.Reaches Call.operate (anyone κ) M M' ∧ M'.frames = M.frames ∧
        M'.history = .returned c (.ok (.fired count)) s :: before ∧ timer ∈ Past.invoked M'.history := by
  have minuted := reaches.minuted inOrder_kept (.start .new)
  refine ⟨fun callback s before hs => ?_, fun c outcome s before passes hs => ?_, fun timer waiting c allowed => ?_⟩
  case refine_1 =>
    have ⟨pass, rest, underWay, timer, goes, turn⟩ := minuted.seen _ _ hs
    exact ⟨pass, rest, timer, underWay, goes, turn⟩
  case refine_2 =>
    have ⟨pass, rest, underWay, call, ends⟩ := minuted.seen _ _ hs
    exact ⟨pass, rest, underWay, call, ends passes⟩
  case refine_3 => exact exists_pass minuted waiting allowed

def ragged : Ticking String :=
  ((called ⟨{}, [], []⟩ [.later (.ok 10) (.whole 100) "first", .later (.ok 10) (.whole 200) "second",
    .later (.ok 10) (.whole 300) "third", .later (.ok 10) (.whole 400) "fourth", .force, .cancel 2,
    .later (.ok 10) (.whole 0) "fifth"]).answer fun _ => .ok ()).answer fun _ => .error (.raised "RuntimeError" "")

theorem reaches_ragged : Machine.Reaches Call.operate (anyone String) ⟨{}, [], []⟩ ragged :=
  .answer (fun _ => trivial) (.answer (fun _ => trivial) (reaches_called _ _))

theorem pass_in_order_ragged : Machine.Reaches Call.operate (anyone String) ⟨{}, [], []⟩ ragged ∧
    ((passes String).underWay ragged.history.tail).map (·.fired.map (·.callback)) = [["third", "first"]] ∧
    ragged.state.pending.map (·.callback) = ["fourth", "fifth"] ∧
    ∀ timer ∈ ragged.state.pending, ∃ M, Machine.Reaches Call.operate (anyone String) ragged M ∧
      timer ∈ Past.invoked M.history := by
  refine ⟨reaches_ragged, by decide +kernel, by decide +kernel, fun timer waiting => ?_⟩
  have ⟨M, _, _, _, reaches, _, _, invoked⟩ := (pass_in_order reaches_ragged).right.right timer waiting .force (.inl rfl)
  exact ⟨M, reaches, invoked⟩

end Keychord.Timer
