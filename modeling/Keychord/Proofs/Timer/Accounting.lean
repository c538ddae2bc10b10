import Keychord.Timer
import Keychord.Proofs.UnderWay
import Mathlib.Data.List.Nodup
import Mathlib.Data.List.Perm.Basic

namespace Keychord.Timer

-- What can be done with timers. The clock is read to make one and for a pass over those that are due, and may fail.
inductive Call (κ : Type)
  | later (reading : Except Failure Float) (delay : Delay) (callback : κ)
  | cancel (number : Nat)
  | process (reading : Except Failure Float)
  | force

inductive Answer (κ : Type)
  | made (timer : Pending κ)
  | done
  | fired (count : Nat)

variable {κ : Type}

def Call.operate : Call κ → Program (Schedule.surroundings κ) (Schedule κ) (Answer κ)
  | .later (.ok now) delay callback => fun schedule =>
    .finished ((Schedule.arm now delay callback schedule).1.map .made) (Schedule.arm now delay callback schedule).2
  | .later (.error f) _ _ => fun schedule => .finished (.error f) { schedule with made := schedule.made + 1 }
  | .cancel number => fun schedule => .finished (.ok .done) (schedule.disarm number)
  | .process reading => do return .fired (← Schedule.process (← Program.ofExcept reading))
  | .force => do return .fired (← Schedule.force)

abbrev Past (κ : Type) := History (Schedule.surroundings κ) (Schedule κ) (Call κ) (Answer κ)
abbrev Ticking (κ : Type) := Machine (Schedule.surroundings κ) (Schedule κ) (Call κ) (Answer κ)

def anyone (κ : Type) : Conduct (Schedule.surroundings κ) (Schedule κ) (Call κ) (Answer κ) where
  calls _ _ _ := True
  during _ _ _ := True
  answers _ _ := True
  drifts _ _ := False

def gone (before after : Schedule κ) : List (Pending κ) := before.pending.filter fun timer => !after.waits timer.number

namespace Past

def latest : Past κ → Schedule κ
  | [] => {}
  | .called _ s :: _ | .asked _ s :: _ | .returned _ _ s :: _ => s
  | .answered .. :: h => latest h

def created : Past κ → List (Pending κ)
  | [] => []
  | .returned _ (.ok (.made timer)) _ :: h => timer :: created h
  | _ :: h => created h

def invoked : Past κ → List (Pending κ)
  | [] => []
  | .asked _ s :: h => gone (latest h) s ++ invoked h
  | _ :: h => invoked h

def cancelled : Past κ → List (Pending κ)
  | [] => []
  | .called (.cancel number) _ :: h => (created h).filter (fun timer => timer.number = number ∧
      timer.number ∉ (invoked h ++ cancelled h).map (·.number)) ++ cancelled h
  | _ :: h => cancelled h

end Past

def Distinct (timers : List (Pending κ)) : Prop := (timers.map (·.number)).Nodup

structure Accounts (h : Past κ) (s : Schedule κ) : Prop where
  latest   : Past.latest h = s
  numbered : ∀ timer ∈ Past.created h, timer.number ≤ s.made
  distinct : Distinct (Past.created h)
  balance  : (s.pending ++ (Past.invoked h ++ Past.cancelled h)).Perm (Past.created h)

namespace Distinct

variable {timers : List (Pending κ)} {timer : Pending κ}

theorem nodup (distinct : Distinct timers) : timers.Nodup := List.Nodup.of_map _ distinct

theorem perm {timers' : List (Pending κ)} (distinct : Distinct timers) (perm : timers'.Perm timers) : Distinct timers' :=
  (perm.map _).nodup_iff.mpr distinct

theorem append_left {timers' : List (Pending κ)} (distinct : Distinct (timers ++ timers')) : Distinct timers := by
  rw [Distinct, List.map_append] at distinct
  exact distinct.of_append_left

theorem eq (distinct : Distinct timers) {timer' : Pending κ} (ht : timer ∈ timers) (ht' : timer' ∈ timers)
    (same : timer.number = timer'.number) : timer = timer' :=
  List.inj_on_of_nodup_map distinct ht ht' same

theorem filter_number (distinct : Distinct timers) (ht : timer ∈ timers) :
    timers.filter (·.number = timer.number) = [timer] := by
  have all : ∀ other ∈ timers.filter (·.number = timer.number), other = timer := by
    intro other ho
    obtain ⟨ho, same⟩ := List.mem_filter.mp ho
    exact distinct.eq ho ht (of_decide_eq_true same)
  have found : timer ∈ timers.filter (·.number = timer.number) := List.mem_filter.mpr ⟨ht, decide_eq_true rfl⟩
  have single : (timers.filter (·.number = timer.number)).Nodup := distinct.nodup.filter _
  revert all found single
  cases timers.filter (·.number = timer.number) with
  | nil => simp
  | cons first rest =>
    intro all _ single
    obtain ⟨rfl, others⟩ := List.forall_mem_cons.mp all
    cases rest with
    | nil => rfl
    | cons second rest =>
      obtain rfl := others second List.mem_cons_self
      simp at single

end Distinct

theorem Schedule.waits_iff {s : Schedule κ} {number : Nat} :
    s.waits number ↔ ∃ timer ∈ s.pending, timer.number = number := by
  simp [Schedule.waits]

theorem Schedule.mem_disarm {s : Schedule κ} {number : Nat} {timer : Pending κ} :
    timer ∈ (s.disarm number).pending ↔ timer ∈ s.pending ∧ timer.number ≠ number := by
  simp [Schedule.disarm]

theorem gone_disarm {s : Schedule κ} {timer : Pending κ} (distinct : Distinct s.pending) (ht : timer ∈ s.pending) :
    gone s (s.disarm timer.number) = [timer] := by
  refine (List.filter_congr fun other ho => ?_).trans (distinct.filter_number ht)
  have left : (s.disarm timer.number).waits other.number ↔ other.number ≠ timer.number := by
    refine Schedule.waits_iff.trans ⟨?_, fun differs => ⟨other, Schedule.mem_disarm.mpr ⟨ho, differs⟩, rfl⟩⟩
    rintro ⟨found, hf, same⟩
    exact same ▸ (Schedule.mem_disarm.mp hf).right
  rw [Bool.eq_iff_iff, Bool.not_eq_true', Bool.eq_false_iff, Ne, left]
  simp

theorem pending_perm {s : Schedule κ} {timer : Pending κ} (distinct : Distinct s.pending) (ht : timer ∈ s.pending) :
    s.pending.Perm (timer :: (s.disarm timer.number).pending) := by
  have parted := List.filter_append_perm (·.number = timer.number) s.pending
  rw [distinct.filter_number ht] at parted
  simpa [Schedule.disarm] using parted.symm

namespace Accounts

variable {h : Past κ} {s : Schedule κ} {timer : Pending κ}

theorem new : Accounts ([] : Past κ) {} := ⟨rfl, by simp [Past.created], .nil, .refl _⟩

theorem all_distinct (accounts : Accounts h s) : Distinct (s.pending ++ (Past.invoked h ++ Past.cancelled h)) :=
  accounts.distinct.perm accounts.balance

theorem pending_distinct (accounts : Accounts h s) : Distinct s.pending := accounts.all_distinct.append_left

theorem created_of_pending (accounts : Accounts h s) (ht : timer ∈ s.pending) : timer ∈ Past.created h :=
  accounts.balance.subset (List.mem_append_left _ ht)

theorem disjoint (accounts : Accounts h s) (ht : timer ∈ s.pending) :
    timer.number ∉ (Past.invoked h ++ Past.cancelled h).map (·.number) := by
  have apart := accounts.all_distinct
  rw [Distinct, List.map_append] at apart
  exact (List.nodup_append.mp apart).right.right _ (List.mem_map_of_mem ht) |> fun differs hm => differs _ hm rfl

theorem called (accounts : Accounts h s) {c : Call κ} (hc : ∀ number, c ≠ .cancel number) :
    Accounts (.called c s :: h) s := by
  cases c with
  | cancel number => exact absurd rfl (hc number)
  | _ => exact ⟨rfl, accounts.numbered, accounts.distinct, accounts.balance⟩

theorem answered (accounts : Accounts h s) (callback : κ) (reply : Except Failure Unit) :
    Accounts (.answered callback reply :: h) s :=
  ⟨accounts.latest, accounts.numbered, accounts.distinct, accounts.balance⟩

theorem returned (accounts : Accounts h s) (c : Call κ) {outcome : Except Failure (Answer κ)}
    (ho : ∀ timer, outcome ≠ .ok (.made timer)) : Accounts (.returned c outcome s :: h) s := by
  obtain f | timer | _ | count := outcome
  case ok.made => exact absurd rfl (ho timer)
  all_goals exact ⟨rfl, accounts.numbered, accounts.distinct, accounts.balance⟩

theorem later (accounts : Accounts h s) (reading : Except Failure Float) (delay : Delay) (callback : κ)
    (deadline : Float) :
    Accounts (.returned (.later reading delay callback) (.ok (.made ⟨s.made + 1, deadline, callback⟩))
        ⟨s.pending ++ [⟨s.made + 1, deadline, callback⟩], s.made + 1⟩ :: .called (.later reading delay callback) s :: h)
      ⟨s.pending ++ [⟨s.made + 1, deadline, callback⟩], s.made + 1⟩ := by
  refine ⟨rfl, ?_, ?_, ?_⟩
  case refine_1 =>
    refine List.forall_mem_cons.mpr ⟨Nat.le_refl _, fun timer ht => ?_⟩
    exact Nat.le_succ_of_le (accounts.numbered timer ht)
  case refine_2 =>
    refine List.nodup_cons.mpr ⟨fun hm => ?_, accounts.distinct⟩
    obtain ⟨timer, ht, same⟩ := List.mem_map.mp hm
    have := accounts.numbered timer ht
    simp only at same
    omega
  case refine_3 =>
    show (s.pending ++ [_] ++ (Past.invoked h ++ Past.cancelled h)).Perm (_ :: Past.created h)
    rw [List.append_assoc]
    exact List.perm_middle.trans (accounts.balance.cons _)

theorem missed (accounts : Accounts h s) (reading : Except Failure Float) (delay : Delay) (callback : κ) (f : Failure) :
    Accounts (.returned (.later reading delay callback) (.error f) { s with made := s.made + 1 } ::
      .called (.later reading delay callback) s :: h) { s with made := s.made + 1 } :=
  ⟨rfl, fun timer ht => Nat.le_succ_of_le (accounts.numbered timer ht), accounts.distinct, accounts.balance⟩

theorem filter_cancelled (accounts : Accounts h s) (number : Nat) :
    (s.pending.filter (·.number = number)).Perm ((Past.created h).filter fun timer => timer.number = number ∧
      timer.number ∉ (Past.invoked h ++ Past.cancelled h).map (·.number)) := by
  refine .trans ?_ (accounts.balance.filter _)
  have waiting : s.pending.filter (·.number = number) = s.pending.filter fun timer => timer.number = number ∧
      timer.number ∉ (Past.invoked h ++ Past.cancelled h).map (·.number) := by
    refine List.filter_congr fun timer ht => ?_
    rw [decide_eq_decide, and_iff_left (accounts.disjoint ht)]
  have others : (Past.invoked h ++ Past.cancelled h).filter (fun timer => timer.number = number ∧
      timer.number ∉ (Past.invoked h ++ Past.cancelled h).map (·.number)) = [] := by
    refine List.filter_eq_nil_iff.mpr fun timer ht kept => ?_
    exact (of_decide_eq_true kept).right (List.mem_map_of_mem ht)
  rw [List.filter_append, others, List.append_nil, waiting]

theorem cancel (accounts : Accounts h s) (number : Nat) :
    Accounts (.returned (.cancel number) (.ok .done) (s.disarm number) :: .called (.cancel number) s :: h)
      (s.disarm number) := by
  refine ⟨rfl, accounts.numbered, accounts.distinct, ?_⟩
  have parted : (s.pending.filter (·.number = number) ++ (s.disarm number).pending).Perm s.pending := by
    simpa [Schedule.disarm] using List.filter_append_perm (·.number = number) s.pending
  have cancelled := (accounts.filter_cancelled number).symm
  refine .trans ?_ (((cancelled.append_right _).trans parted).append_right _ |>.trans accounts.balance)
  show ((s.disarm number).pending ++ (Past.invoked h ++ (_ ++ Past.cancelled h))).Perm
    (_ ++ (s.disarm number).pending ++ (Past.invoked h ++ Past.cancelled h))
  rw [List.append_assoc]
  exact ((List.perm_append_comm_assoc _ _ _).append_left _).trans (List.perm_append_comm_assoc _ _ _)

theorem goesOff (accounts : Accounts h s) (ht : timer ∈ s.pending) :
    Accounts (.asked timer.callback (s.disarm timer.number) :: h) (s.disarm timer.number) := by
  refine ⟨rfl, accounts.numbered, accounts.distinct, ?_⟩
  show (_ ++ (gone (Past.latest h) _ ++ Past.invoked h ++ Past.cancelled h)).Perm (Past.created h)
  rw [accounts.latest, gone_disarm accounts.pending_distinct ht]
  refine .trans ?_ accounts.balance
  refine .trans ?_ ((pending_perm accounts.pending_distinct ht).symm.append_right _)
  simp

end Accounts

-- Which timers a call lets go off: all, or those that are due at the time that was read from the clock.
def Call.Allows (c : Call κ) (timer : Pending κ) : Prop :=
  c = .force ∨ ∃ now, c = .process (.ok now) ∧ timer.deadline ≤ now

-- A callback is called for a timer that is taken out of the schedule at this moment. It had been made, and had neither
-- gone off nor been cancelled.
structure GoesOff (c : Call κ) (callback : κ) (s : Schedule κ) (before : Past κ) (timer : Pending κ) : Prop where
  gone      : gone (Past.latest before) s = [timer]
  callback  : timer.callback = callback
  created   : timer ∈ Past.created before
  invoked   : timer ∉ Past.invoked before
  cancelled : timer ∉ Past.cancelled before
  allowed   : c.Allows timer

def ledger (κ : Type) : Contract (Schedule.surroundings κ) (Schedule κ) (Call κ) (Answer κ) where
  inv s h := Accounts h s
  handOver c callback s h := Accounts h s ∧ ∃ before timer, h = .asked callback s :: before ∧
    GoesOff c callback s before timer

section Passes

variable {α : Type} {timer : Pending κ} {timers : List (Pending κ)} {s : Schedule κ} {h : Past κ} {c : Call κ}

def Ends (next : Except Failure Nat → Program (Schedule.surroundings κ) (Schedule κ) α) : Prop :=
  ∀ outcome s, ∃ outcome', next outcome s = .finished outcome' s

theorem fire_of_waits (timers : List (Pending κ)) (waits : s.waits timer.number) : ∃ resume,
    Schedule.fire (timer :: timers) s = .waiting timer.callback (s.disarm timer.number) resume ∧
      (∃ next, Ends next ∧ ∀ reply s, resume (.ok reply) s = (Schedule.fire timers s).andThen next) ∧
      ∀ f s, resume (.error f) s = .finished (.error f) s := by
  refine ⟨_, congrFun (if_pos waits) s, ⟨_, fun outcome s => ?_, fun _ s => rfl⟩, fun f s => rfl⟩
  cases outcome <;> exact ⟨_, rfl⟩

theorem fire_of_not_waits (gone : ¬s.waits timer.number) :
    Schedule.fire (timer :: timers) s = Schedule.fire timers s :=
  congrFun (if_neg gone) s

theorem created_of_suffix {h h' : Past κ} (hs : h <:+ h') : Past.created h ⊆ Past.created h' := by
  refine (sublist_of_suffix (fun sight h => ?_) hs).subset
  obtain _ | _ | _ | ⟨c, f | timer | _ | count, s⟩ := sight
  case returned.ok.made => exact List.sublist_cons_self _ _
  all_goals exact .refl _

-- Timers that have been made go off only while they are accounted for as waiting.
theorem meets_fire (accounts : Accounts h s) (ht : ∀ timer ∈ timers, timer ∈ Past.created h ∧ c.Allows timer) :
    (Schedule.fire timers s).Meets (anyone κ) (ledger κ) c (fun _ s h => Accounts h s) h := by
  induction timers generalizing s h with
  | nil => exact accounts
  | cons timer rest ih =>
    obtain ⟨⟨created, allowed⟩, others⟩ := List.forall_mem_cons.mp ht
    by_cases waits : s.waits timer.number
    case neg =>
      rw [fire_of_not_waits waits]
      exact ih accounts others
    case pos =>
      have waiting : timer ∈ s.pending := by
        obtain ⟨other, ho, same⟩ := Schedule.waits_iff.mp waits
        exact accounts.distinct.eq (accounts.created_of_pending ho) created same ▸ ho
      obtain ⟨apart, spared⟩ : timer ∉ Past.invoked h ∧ timer ∉ Past.cancelled h := by
        have := accounts.disjoint waiting
        exact ⟨fun hm => this (List.mem_map_of_mem (List.mem_append_left _ hm)),
          fun hm => this (List.mem_map_of_mem (List.mem_append_right _ hm))⟩
      obtain ⟨resume, fires, ⟨next, ends, goesOn⟩, fails⟩ := fire_of_waits rest waits
      rw [fires]
      refine ⟨⟨accounts.goesOff waiting, h, timer, rfl, ?_, rfl, created, apart, spared, allowed⟩, ?_⟩
      case refine_1 => rw [accounts.latest, gone_disarm accounts.pending_distinct waiting]
      case refine_2 =>
        intro reply s' h' _ meanwhile
        -- Others may have called meanwhile, and all of them keep the accounts.
        have accounts' : Accounts (.answered timer.callback reply :: h') s' :=
          (meanwhile.opened ⟨.force, trivial⟩).answered timer.callback reply
        have still : Past.created h ⊆ Past.created (.answered timer.callback reply :: h') :=
          created_of_suffix (((List.suffix_cons _ _).trans meanwhile.grown).trans (List.suffix_cons _ _))
        cases reply with
        | error f =>
          rw [fails]
          exact accounts'
        | ok _ =>
          rw [goesOn, Run.meets_andThen]
          refine (ih accounts' fun timer hm => ⟨still (others timer hm).left, (others timer hm).right⟩).mono ?_
          intro outcome s h accounts
          obtain ⟨outcome', he⟩ := ends outcome s
          rw [he]
          exact accounts

theorem meets_pass (accounts : Accounts h s) (ht : ∀ timer ∈ timers, timer ∈ Past.created h ∧ c.Allows timer) :
    ((do return .fired (← Schedule.fire timers) : Program (Schedule.surroundings κ) (Schedule κ) (Answer κ)) s).Meets
      (anyone κ) (ledger κ) c (fun outcome s h => Accounts (.returned c outcome s :: h) s) h := by
  refine Run.meets_andThen.mpr ((meets_fire accounts ht).mono fun outcome s h accounts => ?_)
  cases outcome with
  | ok count => exact accounts.returned c (by simp)
  | error f => exact accounts.returned c (by simp)

end Passes

theorem Schedule.arm_error {now : Float} {delay : Delay} {callback : κ} {s : Schedule κ} {f : Failure}
    (hd : delay.seconds = .error f) : Schedule.arm now delay callback s = (.error f, { s with made := s.made + 1 }) := by
  rw [Schedule.arm, hd]
  rfl

theorem Schedule.arm_ok {now : Float} {delay : Delay} {callback : κ} {s : Schedule κ} {seconds : Float}
    (hd : delay.seconds = .ok seconds) : Schedule.arm now delay callback s = (.ok ⟨s.made + 1, now + seconds, callback⟩,
      ⟨s.pending ++ [⟨s.made + 1, now + seconds, callback⟩], s.made + 1⟩) := by
  rw [Schedule.arm, hd]
  rfl

theorem ledger_kept : (ledger κ).Kept Call.operate (anyone κ) where
  meets := by
    intro c s h _ accounts
    match c with
    | .later (.error f) delay callback => exact accounts.missed _ _ _ f
    | .later (.ok now) delay callback =>
      show Accounts (.returned _ ((Schedule.arm now delay callback s).1.map .made) (Schedule.arm now delay callback s).2 ::
        _) (Schedule.arm now delay callback s).2
      cases hd : delay.seconds with
      | error f =>
        rw [Schedule.arm_error hd]
        exact accounts.missed _ _ _ f
      | ok seconds =>
        rw [Schedule.arm_ok hd]
        exact accounts.later _ _ _ _
    | .cancel number => exact accounts.cancel number
    | .process (.error f) => exact (accounts.called (by simp)).returned _ (by simp)
    | .process (.ok now) =>
      have due : ∀ timer ∈ s.due now, timer ∈ Past.created (.called (.process (.ok now)) s :: h) ∧
          (Call.process (.ok now)).Allows timer := by
        intro timer ht
        obtain ⟨ht, late⟩ := List.mem_filter.mp ht
        exact ⟨accounts.created_of_pending ht, .inr ⟨now, rfl, of_decide_eq_true late⟩⟩
      exact meets_pass (accounts.called (by simp)) due
    | .force =>
      have all : ∀ timer ∈ s.pending, timer ∈ Past.created (.called .force s :: h) ∧ Call.force.Allows timer :=
        fun timer ht => ⟨accounts.created_of_pending ht, .inl rfl⟩
      exact meets_pass (accounts.called (by simp)) all
  opens := fun _ _ _ _ _ promised => promised.left
  drifts := fun _ _ _ drifts => drifts.elim

-- At all times, of the timers that have been made, all different, those that have gone off and those that were
-- cancelled before do not wait any more, and the others do. Whenever a callback is called, one timer goes off whose
-- callback it is. It has not gone off before, has not been cancelled, and is one that the call under way lets go off.
theorem accounts_balance {M : Ticking κ} (reaches : Machine.Reaches Call.operate (anyone κ) ⟨{}, [], []⟩ M) :
    M.state.pending.length + (Past.invoked M.history).length + (Past.cancelled M.history).length =
        (Past.created M.history).length ∧
      (M.state.pending ++ (Past.invoked M.history ++ Past.cancelled M.history)).Perm (Past.created M.history) ∧
      Distinct (Past.created M.history) ∧ Distinct (Past.invoked M.history) ∧
      ∀ callback s before, .asked callback s :: before <:+ M.history → ∃ timer u rest,
        History.underWay before = u :: rest ∧ GoesOff u.call callback s before timer := by
  have start : Machine.Sound (anyone κ) (ledger κ) ⟨{}, [], []⟩ := .start .new
  have sound := reaches.sound ledger_kept start
  have accounts : Accounts M.history M.state := sound.inv_of_open fun frame _ => ⟨.force, trivial⟩
  have counted := accounts.balance.length_eq
  simp only [List.length_append] at counted
  refine ⟨by omega, accounts.balance, accounts.distinct, ?_, fun callback s before hs => ?_⟩
  case refine_1 =>
    have all := accounts.all_distinct
    rw [Distinct, List.map_append, List.map_append] at all
    exact all.of_append_right.of_append_left
  case refine_2 =>
    obtain ⟨u, rest, underWay, -, before', timer, he, goes⟩ :=
      (Machine.Reaches.promises ledger_kept reaches start rfl rfl).kept callback s before hs
    cases he
    exact ⟨timer, u, rest, underWay, goes⟩

def called (M : Ticking κ) (calls : List (Call κ)) : Ticking κ := calls.foldl (Machine.enterCall Call.operate) M

theorem reaches_called (M : Ticking κ) (calls : List (Call κ)) :
    Machine.Reaches Call.operate (anyone κ) M (called M calls) :=
  Machine.reaches_enterCalls (fun _ _ _ => trivial) (fun _ _ _ => trivial) M calls

-- Three timers are made. In a pass over those that are due, the callback of the first one cancels the second, lets all
-- others go off and then fails.
def tangled : Ticking String :=
  ((called ⟨{}, [], []⟩ [.later (.ok 10) (.whole 100) "first", .later (.ok 10) (.whole 200) "second",
    .later (.ok 10) (.whole 9000) "third", .process (.ok 11), .cancel 2, .force]).answer fun _ => .ok ()).answer
      fun _ => .error (.raised "RuntimeError" "")

theorem reaches_tangled : Machine.Reaches Call.operate (anyone String) ⟨{}, [], []⟩ tangled :=
  .answer (fun _ => trivial) (.answer (fun _ => trivial) (reaches_called _ _))

theorem accounts_balance_tangled : Machine.Reaches Call.operate (anyone String) ⟨{}, [], []⟩ tangled ∧
    tangled.state.pending.length + 2 + 1 = (Past.created tangled.history).length ∧
    (Past.invoked tangled.history).map (·.callback) = ["third", "first"] ∧
    (Past.cancelled tangled.history).map (·.callback) = ["second"] := by
  obtain ⟨count, -⟩ := accounts_balance reaches_tangled
  have invoked : (Past.invoked tangled.history).map (·.callback) = ["third", "first"] := by decide +kernel
  have cancelled : (Past.cancelled tangled.history).map (·.callback) = ["second"] := by decide +kernel
  refine ⟨reaches_tangled, ?_, invoked, cancelled⟩
  have fired : (Past.invoked tangled.history).length = 2 := by simpa using congrArg List.length invoked
  have spared : (Past.cancelled tangled.history).length = 1 := by simpa using congrArg List.length cancelled
  rw [← count, fired, spared]

end Keychord.Timer
