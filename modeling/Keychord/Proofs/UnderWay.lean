import Keychord.Proofs.Lockstep

namespace Keychord

open Relation (ReflTransGen)

-- A call that has not returned: the state in which it was made, what had been seen before, and what has been seen of
-- the call itself, the latest first.
structure Undertaking (I : Interface) (σ κ ρ : Type) where
  call : κ
  state : σ
  before : History I σ κ ρ
  own : History I σ κ ρ

variable {I : Interface} {σ κ ρ α : Type} {C : Conduct I σ κ ρ}

namespace Undertaking

def begin (c : κ) (s : σ) (h : History I σ κ ρ) : Undertaking I σ κ ρ := ⟨c, s, h, [.called c s]⟩

def note (sight : Sight I σ κ ρ) (u : Undertaking I σ κ ρ) : Undertaking I σ κ ρ := { u with own := sight :: u.own }

def Alone (C : Conduct I σ κ ρ) (u : Undertaking I σ κ ρ) : Prop :=
  ∀ request s, .asked request s ∈ u.own → ¬C.Opens u.call request

def Accounts (C : Conduct I σ κ ρ) (u : Undertaking I σ κ ρ) (h : History I σ κ ρ) : Prop :=
  u.Alone C → h = u.own ++ u.before

theorem Accounts.note {u : Undertaking I σ κ ρ} {h : History I σ κ ρ} (accounts : u.Accounts C h)
    (sight : Sight I σ κ ρ) : (u.note sight).Accounts C (sight :: h) :=
  fun alone => congrArg (sight :: ·) (accounts fun request s hm => alone request s (List.mem_cons_of_mem _ hm))

end Undertaking

def History.underWay : History I σ κ ρ → List (Undertaking I σ κ ρ)
  | [] => []
  | .called c s :: h => .begin c s h :: underWay h
  | .asked request s :: h => (underWay h).modifyHead (.note (.asked request s))
  | .answered request reply :: h => (underWay h).modifyHead (.note (.answered request reply))
  | .returned .. :: h => (underWay h).tail

theorem History.called_suffix {h : History I σ κ ρ} {u : Undertaking I σ κ ρ} (hu : u ∈ h.underWay) :
    .called u.call u.state :: u.before <:+ h := by
  induction h generalizing u with
  | nil => simp [underWay] at hu
  | cons sight h ih =>
    have noted : ∀ sight, u ∈ (underWay h).modifyHead (.note sight) → .called u.call u.state :: u.before <:+ h := by
      intro sight hu
      cases hs : underWay h <;> simp only [hs, List.modifyHead_nil, List.modifyHead_cons, List.mem_cons] at hu
      case nil => cases hu
      case cons top rest =>
        have made : .called top.call top.state :: top.before <:+ h := ih (by simp [hs])
        cases hu
        case inl he => subst he; exact made
        case inr hu => exact ih (by simp [hs, hu])
    cases sight with
    | called c s =>
      cases List.mem_cons.mp hu
      case inl he => subst he; exact List.suffix_refl _
      case inr hu => exact (ih hu).trans (List.suffix_cons _ _)
    | asked => exact (noted _ hu).trans (List.suffix_cons _ _)
    | answered => exact (noted _ hu).trans (List.suffix_cons _ _)
    | returned => exact (ih (List.mem_of_mem_tail hu)).trans (List.suffix_cons _ _)

structure Conduct.Upholds (C : Conduct I σ κ ρ) (P : σ → Prop) (call : κ) (request : I.Request) (s s' : σ) : Prop where
  opened : C.Opens call request → P s'
  closed : ¬C.Opens call request → ReflTransGen C.drifts s s'

def Conduct.upholding (C : Conduct I σ κ ρ) (P : σ → Prop) (R : History I σ κ ρ → Prop) : Contract I σ κ ρ where
  inv s h := P s ∧ R h
  handOver call request s h := C.Opens call request → P s ∧ R h

namespace Run

-- A run hands over a state with the property wherever others may call, and comes to what it should. Of what is seen,
-- only what is seen of the run itself is in view.
def Delivers (C : Conduct I σ κ ρ) (P : σ → Prop) (call : κ) (Q : Except Failure α → σ → History I σ κ ρ → Prop) :
    Run I σ α → History I σ κ ρ → Prop
  | finished outcome s, own => Q outcome s own
  | waiting request s resume, own => (C.Opens call request → P s) ∧
    ∀ reply s', C.answers request reply → C.Upholds P call request s s' →
      (resume reply s').Delivers C P call Q (.answered request reply :: .asked request s :: own)

variable {P : σ → Prop} {R : History I σ κ ρ → Prop} {call : κ} {Q Q' : Except Failure α → σ → History I σ κ ρ → Prop}
  {run : Run I σ α} {own : History I σ κ ρ}

theorem Meets.delivers (m : run.Meets C (C.upholding P R) call Q own) : run.Delivers C P call Q own := by
  induction run generalizing own with
  | finished outcome s => exact m
  | waiting request s resume ih =>
    refine ⟨fun opens => (m.left opens).left, fun reply s' given ⟨opened, closed⟩ => ih _ _ (m.right _ _ _ given ?_)⟩
    exact ⟨fun opens => ⟨opened opens, (m.left opens).right⟩, List.suffix_refl _, fun shut => ⟨closed shut, rfl⟩⟩

theorem Meets.grows {K : Contract I σ κ ρ} {h : History I σ κ ρ} (m : run.Meets C K call Q h) :
    run.Meets C K call (fun outcome s h' => Q outcome s h' ∧ h <:+ h') h := by
  induction run generalizing h with
  | finished outcome s => exact ⟨m, List.suffix_refl h⟩
  | waiting request s resume ih =>
    refine ⟨m.left, fun reply s' h' given meanwhile => (ih reply s' (m.right reply s' h' given meanwhile)).mono ?_⟩
    rintro outcome s'' h'' ⟨q, hs⟩
    have asked : h <:+ .asked request s :: h := List.suffix_cons _ _
    exact ⟨q, (asked.trans meanwhile.grown).trans ((List.suffix_cons _ _).trans hs)⟩

theorem Delivers.mono (delivers : run.Delivers C P call Q own) (hq : ∀ outcome s h, Q outcome s h → Q' outcome s h) :
    run.Delivers C P call Q' own := by
  induction run generalizing own with
  | finished outcome s => exact hq outcome s own delivers
  | waiting request s resume ih =>
    exact ⟨delivers.left, fun reply s' given upholds => ih reply s' (delivers.right reply s' given upholds)⟩

theorem Delivers.and (delivers : run.Delivers C P call Q own) (delivers' : run.Delivers C P call Q' own) :
    run.Delivers C P call (fun outcome s own => Q outcome s own ∧ Q' outcome s own) own := by
  induction run generalizing own with
  | finished outcome s => exact ⟨delivers, delivers'⟩
  | waiting request s resume ih =>
    exact ⟨delivers.left, fun reply s' given upholds =>
      ih reply s' (delivers.right reply s' given upholds) (delivers'.right reply s' given upholds)⟩

theorem Delivers.exists_end (total : ∀ request, ∃ reply, C.answers request reply)
    (delivers : run.Delivers C (fun _ => True) call Q own) : ∃ outcome s own', own <:+ own' ∧ Q outcome s own' := by
  induction run generalizing own with
  | finished outcome s => exact ⟨outcome, s, own, List.suffix_refl own, delivers⟩
  | waiting request s resume ih =>
    have ⟨reply, given⟩ := total request
    have ⟨outcome, s', own', grown, ends⟩ := ih reply s (delivers.right reply s given ⟨fun _ => trivial, fun _ => .refl⟩)
    exact ⟨outcome, s', own', ((List.suffix_cons _ _).trans (List.suffix_cons _ _)).trans grown, ends⟩

end Run

namespace Machine

abbrev Aim (I : Interface) (σ κ ρ : Type) := Undertaking I σ κ ρ → Except Failure ρ → σ → Prop

def Fulfils (P : σ → Prop) (Q : Aim I σ κ ρ) (u : Undertaking I σ κ ρ) (outcome : Except Failure ρ) (s : σ)
    (own : History I σ κ ρ) : Prop :=
  P s ∧ Q { u with own := own } outcome s

structure Undertaken (C : Conduct I σ κ ρ) (P : σ → Prop) (Q : Aim I σ κ ρ) (u : Undertaking I σ κ ρ)
    (frame : Frame I σ κ ρ) : Prop where
  call   : frame.call = u.call
  goesOn : ∃ s rest, u.own = .asked frame.request s :: rest ∧ ∀ reply s', C.answers frame.request reply →
    C.Upholds P u.call frame.request s s' →
    (frame.resume reply s').Delivers C P u.call (Fulfils P Q u) (.answered frame.request reply :: u.own)

structure Undertakes (C : Conduct I σ κ ρ) (P : σ → Prop) (Q : Aim I σ κ ρ) (M : Machine I σ κ ρ) : Prop where
  frames   : (History.underWay M.history).Forall₂ (Undertaken C P Q) M.frames
  latest   : ∀ u ∈ (History.underWay M.history).head?, ∀ request s rest, u.own = .asked request s :: rest →
    C.Upholds P u.call request s M.state
  resting  : M.frames = [] → P M.state
  opens    : ∀ frame ∈ M.frames.tail, C.Opens frame.call frame.request
  accounts : ∀ u ∈ History.underWay M.history, u.Accounts C M.history
  returned : ∀ call outcome s h, .returned call outcome s :: h <:+ M.history →
    ∃ u rest, History.underWay h = u :: rest ∧ u.call = call ∧ Q u outcome s ∧ u.Accounts C h

section

variable {P : σ → Prop} {Q : Aim I σ κ ρ} {op : κ → Program I σ ρ} {M M' : Machine I σ κ ρ}

theorem Undertaken.accounts {u : Undertaking I σ κ ρ} {frame : Frame I σ κ ρ} (undertaken : Undertaken C P Q u frame)
    (opens : C.Opens frame.call frame.request) (h : History I σ κ ρ) : u.Accounts C h := by
  obtain ⟨hc, s, rest, ho, -⟩ := undertaken
  intro alone
  exact absurd (hc ▸ opens) (alone frame.request s (ho ▸ List.mem_cons_self))

theorem accounts_of_forall₂ {us : List (Undertaking I σ κ ρ)} {frames : List (Frame I σ κ ρ)}
    (undertaken : us.Forall₂ (Undertaken C P Q) frames) (opens : ∀ frame ∈ frames, C.Opens frame.call frame.request)
    (h : History I σ κ ρ) : ∀ u ∈ us, u.Accounts C h := by
  induction undertaken with
  | nil => simp
  | cons first _ ih =>
    obtain ⟨head, rest⟩ := List.forall_mem_cons.mp opens
    exact List.forall_mem_cons.mpr ⟨first.accounts head h, ih rest⟩

theorem Undertakes.exists_end {Q : Aim I σ κ ρ} (total : ∀ request, ∃ reply, C.answers request reply)
    (undertakes : Undertakes C (fun _ => True) Q M) {u : Undertaking I σ κ ρ} (hu : u ∈ History.underWay M.history) :
    ∃ outcome s own, u.own <:+ own ∧ Q { u with own := own } outcome s := by
  have ⟨frame, ⟨_, s, _, _, goesOn⟩⟩ : ∃ frame, Undertaken C (fun _ => True) Q u frame := by
    have ⟨n, hn, he⟩ := List.getElem_of_mem hu
    have all := undertakes.frames
    exact ⟨M.frames.get ⟨n, all.length_eq ▸ hn⟩, he ▸ all.get hn _⟩
  have ⟨reply, given⟩ := total frame.request
  have ⟨outcome, s', own, grown, _, ends⟩ :=
    (goesOn reply s given ⟨fun _ => trivial, fun shut => .refl⟩).exists_end total
  exact ⟨outcome, s', own, (List.suffix_cons _ _).trans grown, ends⟩

theorem Undertakes.enter {u : Undertaking I σ κ ρ} {us : List (Undertaking I σ κ ρ)} {frames : List (Frame I σ κ ρ)}
    {h : History I σ κ ρ} {run : Run I σ ρ} (delivers : run.Delivers C P u.call (Fulfils P Q u) u.own)
    (underWay : History.underWay h = u :: us) (below : us.Forall₂ (Undertaken C P Q) frames)
    (opens : ∀ frame ∈ frames, C.Opens frame.call frame.request) (accounts : u.Accounts C h)
    (returned : ∀ call outcome s before, .returned call outcome s :: before <:+ h →
      ∃ u rest, History.underWay before = u :: rest ∧ u.call = call ∧ Q u outcome s ∧ u.Accounts C before) :
    Undertakes C P Q (Machine.enter u.call frames h run) := by
  cases run with
  | finished outcome s =>
    obtain ⟨hp, hq⟩ := delivers
    have left : History.underWay (.returned u.call outcome s :: h) = us := by rw [History.underWay, underWay, List.tail_cons]
    refine ⟨by rwa [Machine.enter, left], ?_, fun _ => hp, fun frame hf => opens frame (List.mem_of_mem_tail hf), ?_, ?_⟩
    case refine_1 =>
      intro u' hu request s' rest ho
      rw [Machine.enter, left] at hu
      cases below with
      | nil => simp at hu
      | @cons top frame _ _ first =>
        -- The frame that is innermost now lets others call, or this call could not have been made.
        obtain rfl : top = u' := by simpa using hu
        obtain ⟨hc, s₁, rest₁, ho₁, -⟩ := first
        rw [ho₁] at ho
        cases ho
        have waits : C.Opens top.call frame.request := hc ▸ opens frame List.mem_cons_self
        exact ⟨fun _ => hp, fun shut => absurd waits shut⟩
    case refine_2 =>
      rw [Machine.enter, left]
      exact accounts_of_forall₂ below opens _
    case refine_3 =>
      refine forall_returned_cons ?_ returned
      rintro _ _ _ ⟨⟩
      exact ⟨u, us, underWay, rfl, hq, accounts⟩
  | waiting request s resume =>
    have waits : History.underWay (.asked request s :: h) = u.note (.asked request s) :: us := by
      rw [History.underWay, underWay, List.modifyHead_cons]
    refine ⟨?_, ?_, fun rest => absurd rest (List.cons_ne_nil _ _), opens, ?_, ?_⟩
    case refine_1 =>
      rw [Machine.enter, waits]
      exact .cons ⟨rfl, s, u.own, rfl, delivers.right⟩ below
    case refine_2 =>
      intro u' hu request' s' rest ho
      rw [Machine.enter, waits] at hu
      obtain rfl : _ = u' := by simpa using hu
      cases ho
      exact ⟨delivers.left, fun _ => .refl⟩
    case refine_3 =>
      rw [Machine.enter, waits]
      exact List.forall_mem_cons.mpr ⟨accounts.note _, accounts_of_forall₂ below opens _⟩
    case refine_4 => exact forall_returned_cons (by simp) returned

theorem Undertakes.upheld (undertakes : Undertakes C P Q M) (opens : ∀ frame ∈ M.frames, C.Opens frame.call frame.request) :
    P M.state := by
  cases hf : M.frames with
  | nil => exact undertakes.resting hf
  | cons top rest =>
    have frames := undertakes.frames
    cases hu : History.underWay M.history with
    | nil => rw [hu, hf] at frames; cases frames
    | cons u us =>
      rw [hu, hf] at frames
      obtain ⟨⟨hc, s, own, ho, -⟩, -⟩ := List.forall₂_cons.mp frames
      have waits : C.Opens u.call top.request := hc ▸ opens top (by simp [hf])
      exact (undertakes.latest u (by simp [hu]) _ _ _ ho).opened waits

-- If every operation keeps the property and returns as it should, so does every call of a machine that is new.
theorem Reaches.undertakes (runs : ∀ c s h, C.calls c s h → P s →
      (op c s).Delivers C P c (Fulfils P Q (.begin c s h)) [.called c s])
    (drifts : ∀ s s', C.drifts s s' → P s → P s') (reaches : Reaches op C M M') (new : M.frames = [])
    (unseen : M.history = []) (start : P M.state) : Undertakes C P Q M' := by
  induction reaches with
  | refl =>
    obtain ⟨s, frames, h⟩ := M
    cases new
    cases unseen
    exact ⟨.nil, by simp [History.underWay], fun _ => start, by simp, by simp [History.underWay], by simp⟩
  | @tail N _ _ step ih =>
    cases step with
    | @call _ c free made =>
      have opens : ∀ frame ∈ N.frames, C.Opens frame.call frame.request := by
        intro frame hf
        cases hfs : N.frames with
        | nil => simp [hfs] at hf
        | cons top rest =>
          rw [hfs] at hf
          obtain rfl | hf := List.mem_cons.mp hf
          · exact ⟨c, free frame (by simp [hfs])⟩
          · exact ih.opens frame (by simpa [hfs] using hf)
      have run := runs c N.state N.history made (ih.upheld opens)
      exact .enter (u := .begin c N.state N.history) run rfl ih.frames opens (fun _ => rfl)
        (forall_returned_cons (by simp) ih.returned)
    | @answer s frame frames h reply given =>
      -- Only the innermost call goes on, and its undertaking holds from where its request left it.
      obtain ⟨all, latest, -, opens, accounts, returned⟩ := ih
      cases hu : History.underWay h with
      | nil => rw [hu] at all; cases all
      | cons u us =>
        rw [hu] at all latest accounts
        obtain ⟨⟨hc, s₀, own, ho, goesOn⟩, below⟩ := List.forall₂_cons.mp all
        have run := goesOn reply s given (latest u rfl _ _ _ ho)
        have answered : History.underWay (.answered frame.request reply :: h) =
            u.note (.answered frame.request reply) :: us := by
          rw [History.underWay, hu, List.modifyHead_cons]
        rw [hc]
        exact .enter (u := u.note (.answered frame.request reply)) run answered below opens
          ((accounts u List.mem_cons_self).note _) (forall_returned_cons (by simp) returned)
    | @drift _ s moves =>
      refine ⟨ih.frames, fun u hu request s₀ rest ho => ?_, fun hf => drifts _ _ moves (ih.resting hf), ih.opens,
        ih.accounts, ih.returned⟩
      obtain ⟨opened, closed⟩ := ih.latest u hu request s₀ rest ho
      exact ⟨fun waits => drifts _ _ moves (opened waits), fun shut => (closed shut).tail moves⟩

end

section Promises

structure Promises (K : Contract I σ κ ρ) (M : Machine I σ κ ρ) : Prop where
  calls : M.frames.map Frame.call = (History.underWay M.history).map Undertaking.call
  kept  : ∀ request s h, .asked request s :: h <:+ M.history →
    ∃ u rest, History.underWay h = u :: rest ∧ K.handOver u.call request s (.asked request s :: h)

variable {K : Contract I σ κ ρ} {op : κ → Program I σ ρ} {M M' : Machine I σ κ ρ}

theorem forall_asked_cons {sight : Sight I σ κ ρ} {h : History I σ κ ρ} (other : ∀ request s, sight ≠ .asked request s)
    (kept : ∀ request s before, .asked request s :: before <:+ h →
      ∃ u rest, History.underWay before = u :: rest ∧ K.handOver u.call request s (.asked request s :: before)) :
    ∀ request s before, .asked request s :: before <:+ sight :: h →
      ∃ u rest, History.underWay before = u :: rest ∧ K.handOver u.call request s (.asked request s :: before) := by
  intro request s before hs
  obtain he | hs := List.suffix_cons_iff.mp hs
  · cases he
    exact absurd rfl (other request s)
  · exact kept request s before hs

theorem Promises.enter {u : Undertaking I σ κ ρ} {us : List (Undertaking I σ κ ρ)} {frames : List (Frame I σ κ ρ)}
    {h : History I σ κ ρ} {run : Run I σ ρ} {Q : Except Failure ρ → σ → History I σ κ ρ → Prop}
    (meets : run.Meets C K u.call Q h) (underWay : History.underWay h = u :: us)
    (calls : frames.map Frame.call = us.map Undertaking.call)
    (kept : ∀ request s before, .asked request s :: before <:+ h →
      ∃ u rest, History.underWay before = u :: rest ∧ K.handOver u.call request s (.asked request s :: before)) :
    Promises K (Machine.enter u.call frames h run) := by
  cases run with
  | finished outcome s =>
    refine ⟨?_, forall_asked_cons (by simp) kept⟩
    rw [Machine.enter, History.underWay, underWay, List.tail_cons]
    exact calls
  | waiting request s resume =>
    refine ⟨?_, fun request' s' before hs => ?_⟩
    case refine_1 =>
      rw [Machine.enter, History.underWay, underWay, List.modifyHead_cons, List.map_cons, List.map_cons, calls]
      rfl
    case refine_2 =>
      obtain he | hs := List.suffix_cons_iff.mp hs
      · cases he
        exact ⟨u, us, underWay, meets.left⟩
      · exact kept request' s' before hs

theorem Reaches.promises (kept : K.Kept op C) (reaches : Reaches op C M M') (sound : Sound C K M) (new : M.frames = [])
    (unseen : M.history = []) : Promises K M' := by
  induction reaches with
  | refl => exact ⟨by rw [new, unseen]; rfl, by simp [unseen]⟩
  | @tail N _ before step ih =>
    have sound : Sound C K N := Reaches.sound kept before sound
    obtain ⟨calls, promised⟩ := ih
    cases step with
    | @call _ c free made =>
      have hi : K.inv N.state N.history := sound.inv_of_open fun frame hf => ⟨c, free frame hf⟩
      exact .enter (u := .begin c N.state N.history) (kept.meets c _ _ made hi) rfl calls
        (forall_asked_cons (by simp) promised)
    | @answer s frame frames h reply given =>
      obtain ⟨_, _, ready, meanwhile⟩ := sound.waiting frame rfl
      have meets := ready.goesOn reply _ _ given meanwhile
      cases hu : History.underWay h with
      | nil => simp [hu] at calls
      | cons u us =>
        simp only [hu, List.map_cons, List.cons.injEq] at calls
        obtain ⟨hc, calls⟩ := calls
        rw [hc] at meets ⊢
        refine .enter (u := u.note (.answered frame.request reply)) meets ?_ calls (forall_asked_cons (by simp) promised)
        rw [History.underWay, hu, List.modifyHead_cons]
    | drift => exact ⟨calls, promised⟩

end Promises

end Machine

end Keychord
