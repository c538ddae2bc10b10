import Keychord.Proofs.Lockstep

namespace Keychord

variable {I : Interface} {σ κ ρ : Type}

inductive Deed (I : Interface) (κ : Type)
  | called (call : κ)
  | asked (request : I.Request)
  | answered (request : I.Request) (reply : Except Failure (I.Answer request))

namespace Deed

def isMove : Deed I κ → Bool
  | asked _ => false
  | _ => true

def call? : Deed I κ → Option κ
  | called c => some c
  | _ => none

def pending : List (Deed I κ) → Bool
  | asked _ :: _ => true
  | _ => false

end Deed

-- What surroundings do next: they call, or answer the latest request.
structure Guidance (I : Interface) (κ : Type) where
  call? : List (Deed I κ) → Option κ
  reply : List (Deed I κ) → (request : I.Request) → Except Failure (I.Answer request)

def Guidance.ofCalls (calls : List κ)
    (rule : List (Deed I κ) → (request : I.Request) → Except Failure (I.Answer request)) : Guidance I κ where
  call? story :=
    if Deed.pending story then none else calls.reverse[((story.filter Deed.isMove).filterMap Deed.call?).length]?
  reply := rule

def Conduct.alone (C : Conduct I σ κ ρ) : Conduct I σ κ ρ := { C with during := fun _ _ _ => False }

section Stories

variable (A : Aside I σ κ ρ) [∀ c h, Decidable (A.calls c h)] [DecidablePred A.requests]

def Aside.story : History I σ κ ρ → List (Deed I κ)
  | [] => []
  | .called c _ :: h => if A.calls c h then story h else .called c :: story h
  | .asked request _ :: h => if A.requests request then story h else .asked request :: story h
  | .answered request reply :: h => if A.requests request then story h else .answered request reply :: story h
  | .returned .. :: h => story h

def Aside.moves (h : History I σ κ ρ) : List (Deed I κ) := (A.story h).filter Deed.isMove

def Aside.made (h : History I σ κ ρ) : List κ := (A.moves h).filterMap Deed.call?

def Aside.AnswersBy (rule : List (Deed I κ) → (request : I.Request) → Except Failure (I.Answer request))
    (h : History I σ κ ρ) : Sight I σ κ ρ → Prop
  | .answered request reply => ¬A.requests request → reply = rule (A.story h) request
  | _ => True

def Aside.Follows (G : Guidance I κ) (h : History I σ κ ρ) : Sight I σ κ ρ → Prop
  | .called c _ => ¬A.calls c h → G.call? (A.story h) = some c
  | .answered request reply =>
    ¬A.requests request → G.call? (A.story h) = Option.none ∧ reply = G.reply (A.story h) request
  | _ => True

abbrev Aside.Guided (G : Guidance I κ) (h : History I σ κ ρ) : Prop := History.Always (A.Follows G) h

variable {A} {c : κ} {h : History I σ κ ρ}

theorem Aside.moves_called (counts : ¬A.calls c h) (s : σ) : A.moves (.called c s :: h) = .called c :: A.moves h := by
  rw [moves, story, if_neg counts]
  rfl

theorem Aside.made_called (counts : ¬A.calls c h) (s : σ) : A.made (.called c s :: h) = c :: A.made h := by
  rw [made, moves_called counts]
  rfl

end Stories

section Counted

variable (A : Aside I σ κ ρ) [DecidablePred A.requests]

def Aside.counted (frames : List (Frame I σ κ ρ)) : List (Frame I σ κ ρ) :=
  frames.filter fun frame => ¬A.requests frame.request

variable {A} {frame : Frame I σ κ ρ} {frames : List (Frame I σ κ ρ)}

theorem Aside.counted_cons_of_pos (counts : ¬A.requests frame.request) :
    A.counted (frame :: frames) = frame :: A.counted frames :=
  List.filter_cons_of_pos (by simpa using counts)

theorem Aside.counted_cons_of_neg (aside : A.requests frame.request) : A.counted (frame :: frames) = A.counted frames :=
  List.filter_cons_of_neg (by simpa using aside)

end Counted

namespace Machine

variable {op : κ → Program I σ ρ} {L : Likeness I σ κ} {A : Aside I σ κ ρ} {C C' : Conduct I σ κ ρ} {G : Guidance I κ}

structure Repeats (op : κ → Program I σ ρ) (L : Likeness I σ κ) (A : Aside I σ κ ρ) : Prop where
  runs     : ∀ c s s', L.state s s' → (op c s).Alike L Eq (op c s')
  calls    : ∀ c, L.call c c
  requests : ∀ request request', L.request request request' → request = request'
  still    : ∀ c s h, A.calls c h → (op c s).Still A s
  each     : ∀ c s, (op c s).Each fun request resume => A.requests request → ∀ reply s, (resume reply s).Still A s
  symm     : ∀ s s', L.state s s' → L.state s' s
  changes  : ∀ s t s', L.state s s' → A.changes s t → L.state t s'

variable [∀ c h, Decidable (A.calls c h)] [DecidablePred A.requests]

inductive Moves (op : κ → Program I σ ρ) (A : Aside I σ κ ρ) : Machine I σ κ ρ → Machine I σ κ ρ → Prop
  | call {M : Machine I σ κ ρ} {c : κ} (counts : ¬A.calls c M.history) : Moves op A M (enterCall op M c)
  | answer {s : σ} {frame : Frame I σ κ ρ} {frames : List (Frame I σ κ ρ)} {h : History I σ κ ρ}
      (reply : Except Failure (I.Answer frame.request)) (counts : ¬A.requests frame.request) :
      Moves op A ⟨s, frame :: frames, h⟩
        (enter frame.call frames (.answered frame.request reply :: h) (frame.resume reply s))

structure Stays (A : Aside I σ κ ρ) [∀ c h, Decidable (A.calls c h)] [DecidablePred A.requests]
    (M M' : Machine I σ κ ρ) : Prop where
  story   : A.story M'.history = A.story M.history
  changes : A.changes M.state M'.state
  frames  : A.counted M'.frames = A.counted M.frames

structure Together (L : Likeness I σ κ) (A : Aside I σ κ ρ) [∀ c h, Decidable (A.calls c h)] [DecidablePred A.requests]
    (M M' : Machine I σ κ ρ) : Prop where
  states : L.state M.state M'.state
  frames : (A.counted M.frames).Forall₂ (Frame.Alike L) (A.counted M'.frames)
  story  : A.story M.history = A.story M'.history

section Steps

variable {M M' M₁ M₁' : Machine I σ κ ρ} {c c' : κ} {frames frames' : List (Frame I σ κ ρ)} {h h' : History I σ κ ρ}
  {run run' : Run I σ ρ} {s : σ}

theorem moves_enter : A.moves (enter c frames h run).history = A.moves h := by
  cases run with
  | finished => rfl
  | waiting request s resume =>
    simp only [Aside.moves, enter, Aside.story]
    split
    · rfl
    · exact List.filter_cons_of_neg (by simp [Deed.isMove])

theorem stays_enter (c : κ) (frames : List (Frame I σ κ ρ)) (h : History I σ κ ρ) (still : run.Still A s) :
    Stays A ⟨s, frames, h⟩ (enter c frames h run) := by
  cases still with
  | finished changes => exact ⟨rfl, changes, rfl⟩
  | waiting asks changes => exact ⟨if_pos asks, changes, Aside.counted_cons_of_neg asks⟩

theorem Step.stays_or_moves (repeats : Repeats op L A) (drifts : ∀ s t, C.drifts s t → A.changes s t)
    (spent : ∀ frame ∈ M.frames, A.requests frame.request → frame.Spent A) (step : Step op C M M₁) :
    Stays A M M₁ ∨ Moves op A M M₁ := by
  cases step with
  | @call _ c =>
    by_cases aside : A.calls c M.history
    case pos =>
      have stays := stays_enter c M.frames (.called c M.state :: M.history) (repeats.still c M.state _ aside)
      exact .inl ⟨stays.story.trans (if_pos aside), stays.changes, stays.frames⟩
    case neg => exact .inr (.call aside)
  | @answer s frame frames h reply =>
    by_cases aside : A.requests frame.request
    case pos =>
      have stays := stays_enter frame.call frames (.answered frame.request reply :: h)
        (spent frame List.mem_cons_self aside reply s)
      exact .inl ⟨stays.story.trans (if_pos aside), stays.changes,
        stays.frames.trans (Aside.counted_cons_of_neg aside).symm⟩
    case neg => exact .inr (.answer reply aside)
  | drift hd => exact .inl ⟨rfl, drifts _ _ hd, rfl⟩

theorem Moves.moves (moves : Moves op A M M₁) : ∃ deed, A.moves M₁.history = deed :: A.moves M.history := by
  cases moves with
  | @call _ c counts => exact ⟨.called c, moves_enter.trans (Aside.moves_called counts _)⟩
  | @answer s frame frames h reply counts =>
    refine ⟨.answered frame.request reply, moves_enter.trans ?_⟩
    rw [Aside.moves, Aside.story, if_neg counts]
    rfl

theorem Moves.made (moves : Moves op A M M₁) (idle : A.counted M.frames = []) :
    ∃ c, A.made M₁.history = c :: A.made M.history := by
  cases moves with
  | @call _ c counts =>
    have entered : A.made (enterCall op M c).history = A.made (.called c M.state :: M.history) :=
      congrArg (List.filterMap Deed.call?) moves_enter
    exact ⟨c, entered.trans (Aside.made_called counts _)⟩
  | answer reply counts =>
    rw [Aside.counted_cons_of_pos counts] at idle
    cases idle

theorem Together.enter (repeats : Repeats op L A) (alike : run.Alike L Eq run') (calls : L.call c c')
    (counted : (A.counted frames).Forall₂ (Frame.Alike L) (A.counted frames')) (story : A.story h = A.story h') :
    Together L A (enter c frames h run) (enter c' frames' h' run') := by
  cases alike with
  | finished ends states => exact ⟨states, counted, story⟩
  | @waiting request request' s s' resume resume' requests states resumes =>
    obtain rfl := repeats.requests _ _ requests
    have frame : Frame.Alike L ⟨c, request, resume⟩ ⟨c', request, resume'⟩ := ⟨calls, requests, resumes⟩
    by_cases aside : A.requests request
    case pos =>
      refine ⟨states, ?_, ?_⟩
      · simp only [Machine.enter]
        rwa [Aside.counted_cons_of_neg aside, Aside.counted_cons_of_neg aside]
      · simp only [Machine.enter, Aside.story, if_pos aside, story]
    case neg =>
      refine ⟨states, ?_, ?_⟩
      · simp only [Machine.enter]
        rw [Aside.counted_cons_of_pos aside, Aside.counted_cons_of_pos aside]
        exact .cons frame counted
      · simp only [Machine.enter, Aside.story, if_neg aside, story]

theorem Together.stay_left (repeats : Repeats op L A) (together : Together L A M M') (stays : Stays A M M₁) :
    Together L A M₁ M' :=
  ⟨repeats.changes _ _ _ together.states stays.changes, stays.frames ▸ together.frames, stays.story.trans together.story⟩

theorem Together.stay_right (repeats : Repeats op L A) (together : Together L A M M') (stays : Stays A M' M₁') :
    Together L A M M₁' :=
  ⟨repeats.symm _ _ (repeats.changes _ _ _ (repeats.symm _ _ together.states) stays.changes), stays.frames ▸ together.frames,
    together.story.trans stays.story.symm⟩

theorem Together.move (repeats : Repeats op L A) (together : Together L A M M') (moves : Moves op A M M₁)
    (moves' : Moves op A M' M₁') (guided : A.Guided G M₁.history) (guided' : A.Guided G M₁'.history) :
    Together L A M₁ M₁' := by
  obtain ⟨states, frames, story⟩ := together
  -- What counts is settled by the story so far, and the two have the same story.
  cases moves with
  | @call _ c counts =>
    have called : G.call? (A.story M.history) = some c :=
      guided _ _ (history_enter_suffix _ _ _ _) counts
    cases moves' with
    | @call _ c' counts' =>
      have called' : G.call? (A.story M'.history) = some c' :=
        guided' _ _ (history_enter_suffix _ _ _ _) counts'
      rw [← story, called] at called'
      cases called'
      refine .enter repeats (repeats.runs _ _ _ states) (repeats.calls c) frames ?_
      rw [Aside.story, Aside.story, if_neg counts, if_neg counts', story]
    | answer reply' counts' =>
      have answered := (guided' _ _ (history_enter_suffix _ _ _ _) counts').left
      rw [← story, called] at answered
      cases answered
  | @answer s frame rest h reply counts =>
    have answered := guided _ _ (history_enter_suffix _ _ _ _) counts
    cases moves' with
    | @call _ c' counts' =>
      have called' : G.call? (A.story M'.history) = some c' :=
        guided' _ _ (history_enter_suffix _ _ _ _) counts'
      rw [← story, answered.left] at called'
      cases called'
    | @answer s' frame' rest' h' reply' counts' =>
      have answered' := guided' _ _ (history_enter_suffix _ _ _ _) counts'
      rw [Aside.counted_cons_of_pos counts, Aside.counted_cons_of_pos counts'] at frames
      obtain ⟨alike, below⟩ := List.forall₂_cons.mp frames
      obtain ⟨call, request, resume⟩ := frame
      obtain ⟨call', request', resume'⟩ := frame'
      obtain rfl : request = request' := repeats.requests _ _ alike.requests
      have same : reply = reply' := by rw [answered.right, answered'.right, story]
      subst same
      refine .enter repeats (alike.resumes _ _ _ _ HEq.rfl states) alike.calls below ?_
      rw [Aside.story, Aside.story, if_neg counts, if_neg counts', story]

end Steps

theorem Stays.moves {M M' : Machine I σ κ ρ} (stays : Stays A M M') : A.moves M'.history = A.moves M.history :=
  congrArg (List.filter Deed.isMove) stays.story

variable {s s' : σ} {M M' : Machine I σ κ ρ}

theorem Reaches.stays_or_moves (repeats : Repeats op L A) (drifts : ∀ s t, C.drifts s t → A.changes s t)
    (reaches : Reaches op C ⟨s, [], []⟩ M) (step : Step op C M M') : Stays A M M' ∨ Moves op A M M' :=
  step.stays_or_moves repeats drifts fun frame hf => (Reaches.each repeats.each reaches rfl frame hf).left

theorem Reaches.together (repeats : Repeats op L A) (drifts : ∀ s t, C.drifts s t → A.changes s t)
    (drifts' : ∀ s t, C'.drifts s t → A.changes s t) (states : L.state s s') (reaches : Reaches op C ⟨s, [], []⟩ M)
    (reaches' : Reaches op C' ⟨s', [], []⟩ M') (guided : A.Guided G M.history) (guided' : A.Guided G M'.history)
    (level : (A.moves M.history).length = (A.moves M'.history).length) : Together L A M M' := by
  induction reaches generalizing M' with
  | refl =>
    induction reaches' with
    | refl => exact ⟨states, .nil, rfl⟩
    | tail before' step' ih' =>
      obtain stays' | moves' := Reaches.stays_or_moves repeats drifts' before' step'
      case inl => exact (ih' (guided'.of_suffix step'.history_suffix) (stays'.moves ▸ level)).stay_right repeats stays'
      case inr =>
        obtain ⟨deed, hd⟩ := moves'.moves
        rw [hd] at level
        exact absurd level (by simp [Aside.moves, Aside.story])
  | tail before step ih =>
    have guided₀ := guided.of_suffix step.history_suffix
    obtain stays | moves := Reaches.stays_or_moves repeats drifts before step
    case inl => exact (ih reaches' guided₀ guided' (stays.moves ▸ level)).stay_left repeats stays
    case inr =>
      obtain ⟨deed, hd⟩ := moves.moves
      induction reaches' with
      | refl =>
        rw [hd] at level
        exact absurd level (by simp [Aside.moves, Aside.story])
      | tail before' step' ih' =>
        have guided₀' := guided'.of_suffix step'.history_suffix
        obtain stays' | moves' := Reaches.stays_or_moves repeats drifts' before' step'
        case inl => exact (ih' guided₀' (stays'.moves ▸ level)).stay_right repeats stays'
        case inr =>
          obtain ⟨deed', hd'⟩ := moves'.moves
          rw [hd, hd', List.length_cons, List.length_cons] at level
          exact (ih before' guided₀ guided₀' (Nat.succ.inj level)).move repeats moves moves' guided guided'

theorem Reaches.made_lt (repeats : Repeats op L A) (drifts : ∀ s t, C.drifts s t → A.changes s t)
    (drifts' : ∀ s t, C'.drifts s t → A.changes s t) (states : L.state s s') (reaches : Reaches op C ⟨s, [], []⟩ M)
    (rest : M.Resting) (reaches' : Reaches op C' ⟨s', [], []⟩ M') (guided : A.Guided G M.history)
    (guided' : A.Guided G M'.history) (ahead : (A.moves M.history).length < (A.moves M'.history).length) :
    (A.made M.history).length < (A.made M'.history).length := by
  induction reaches' with
  | refl => exact absurd ahead (by simp [Aside.moves, Aside.story])
  | @tail N N' before' step' ih' =>
    have guided₀' := guided'.of_suffix step'.history_suffix
    obtain stays' | moves' := Reaches.stays_or_moves repeats drifts' before' step'
    case inl =>
      have same : A.made N'.history = A.made N.history := congrArg (List.filterMap Deed.call?) stays'.moves
      exact same ▸ ih' guided₀' (stays'.moves ▸ ahead)
    case inr =>
      obtain ⟨deed, hd⟩ := moves'.moves
      rw [hd, List.length_cons, Nat.lt_succ_iff_lt_or_eq] at ahead
      obtain ahead | level := ahead
      case inl =>
        have grown : (A.made N.history).Sublist (A.made N'.history) := by
          rw [Aside.made, Aside.made, hd]
          exact (List.sublist_cons_self deed _).filterMap _
        exact Nat.lt_of_lt_of_le (ih' guided₀' ahead) grown.length_le
      case inr =>
        -- The two are together there, so the other one has nothing to answer either.
        have together := Reaches.together repeats drifts drifts' states reaches before' guided guided₀' level
        have idle : A.counted N.frames = [] := by
          have frames := together.frames
          rw [rest] at frames
          exact List.forall₂_nil_left_iff.mp frames
        have same : A.made M.history = A.made N.history :=
          congrArg (fun story => (story.filter Deed.isMove).filterMap Deed.call?) together.story
        obtain ⟨c, hc⟩ := moves'.made idle
        rw [hc, same, List.length_cons]
        exact Nat.lt_succ_self _

theorem Reaches.together_of_resting (repeats : Repeats op L A) (drifts : ∀ s t, C.drifts s t → A.changes s t)
    (drifts' : ∀ s t, C'.drifts s t → A.changes s t) (states : L.state s s') (reaches : Reaches op C ⟨s, [], []⟩ M)
    (rest : M.Resting) (reaches' : Reaches op C' ⟨s', [], []⟩ M') (rest' : M'.Resting) (guided : A.Guided G M.history)
    (guided' : A.Guided G M'.history) (made : (A.made M.history).length = (A.made M'.history).length) :
    Together L A M M' := by
  refine Reaches.together repeats drifts drifts' states reaches reaches' guided guided' ?_
  obtain ahead | level | ahead := Nat.lt_trichotomy (A.moves M.history).length (A.moves M'.history).length
  · exact absurd made (Nat.ne_of_lt (Reaches.made_lt repeats drifts drifts' states reaches rest reaches' guided guided' ahead))
  · exact level
  · exact absurd made (Nat.ne_of_gt
      (Reaches.made_lt repeats drifts' drifts (repeats.symm _ _ states) reaches' rest' reaches guided' guided ahead))

section Alone

variable {rule : List (Deed I κ) → (request : I.Request) → Except Failure (I.Answer request)} {c : κ}
  {h h' : History I σ κ ρ} {run : Run I σ ρ}

theorem Reaches.of_alone (reaches : Reaches op C.alone M M') : Reaches op C M M' := by
  refine Relation.ReflTransGen.mono (fun N N' step => ?_) _ _ reaches
  cases step with
  | call free made => exact .call (fun frame hf => (free frame hf).elim) made
  | answer reply given => exact .answer reply given
  | drift drifts => exact .drift drifts

structure Attends (A : Aside I σ κ ρ) [∀ c h, Decidable (A.calls c h)] [DecidablePred A.requests] (G : Guidance I κ)
    (M : Machine I σ κ ρ) : Prop where
  guided  : A.Guided G M.history
  single  : M.frames.tail = []
  pending : Deed.pending (A.story M.history) = !(A.counted M.frames).isEmpty

theorem attends_enter (guided : A.Guided G h) (idle : Deed.pending (A.story h) = false) :
    Attends A G (enter c [] h run) := by
  cases run with
  | finished => exact ⟨guided.cons trivial, rfl, idle⟩
  | waiting request s resume =>
    refine ⟨guided.cons trivial, rfl, ?_⟩
    by_cases aside : A.requests request
    case pos =>
      simp only [enter, Aside.story, if_pos aside]
      rw [Aside.counted_cons_of_neg aside]
      exact idle
    case neg =>
      simp only [enter, Aside.story, if_neg aside]
      rw [Aside.counted_cons_of_pos aside]
      rfl

theorem made_suffix (hs : h <:+ h') : A.made h <:+ A.made h' := by
  have story : A.story h <:+ A.story h' := by
    obtain ⟨later, rfl⟩ := hs
    induction later with
    | nil => exact List.suffix_rfl
    | cons sight later ih =>
      refine ih.trans ?_
      cases sight with
      | called | asked | answered =>
        rw [List.cons_append, Aside.story]
        split
        · exact List.suffix_rfl
        · exact List.suffix_cons _ _
      | returned => exact List.suffix_rfl
  exact (story.filter _).filterMap _

theorem call?_ofCalls {calls : List κ} {s : σ} (counts : ¬A.calls c h) (idle : Deed.pending (A.story h) = false)
    (made : A.made (.called c s :: h) <:+ calls) : (Guidance.ofCalls calls rule).call? (A.story h) = some c := by
  rw [Aside.made_called counts] at made
  obtain ⟨later, rfl⟩ := made
  have place : (later ++ c :: A.made h).reverse[(A.made h).length]? = some c := by simp
  exact (if_neg (by simp [idle])).trans place

theorem Reaches.attends (reaches : Reaches op C.alone ⟨s, [], []⟩ M)
    (answers : History.Always (A.AnswersBy rule) M.history)
    {calls : List κ} (made : A.made M.history <:+ calls) : Attends A (.ofCalls calls rule) M := by
  induction reaches with
  | refl => exact ⟨.nil, rfl, rfl⟩
  | @tail N M before step ih =>
    obtain ⟨guided, single, pending⟩ := ih (answers.of_suffix step.history_suffix)
      ((made_suffix step.history_suffix).trans made)
    cases step with
    | @call _ c free =>
      have resting : N.frames = [] :=
        List.head?_eq_none_iff.mp (Option.eq_none_iff_forall_ne_some.mpr fun frame hf => free frame hf)
      rw [resting] at pending ⊢
      refine attends_enter (guided.cons fun counts => ?_) ?_
      case refine_1 => exact call?_ofCalls counts pending ((made_suffix (history_enter_suffix _ _ _ _)).trans made)
      case refine_2 =>
        rw [Aside.story]
        split
        · exact pending
        · rfl
    | @answer s frame frames h reply =>
      obtain rfl : frames = [] := single
      refine attends_enter (guided.cons fun counts => ⟨?_, ?_⟩) ?_
      case refine_1 =>
        rw [Aside.counted_cons_of_pos counts] at pending
        exact if_pos pending
      case refine_2 => exact answers _ _ (history_enter_suffix _ _ _ _) counts
      case refine_3 =>
        rw [Aside.story]
        split
        case isTrue aside =>
          rw [Aside.counted_cons_of_neg aside] at pending
          exact pending
        case isFalse => rfl
    | drift => exact ⟨guided, single, pending⟩

end Alone

section Serving

variable {reply : (request : I.Request) → Except Failure (I.Answer request)} {c : κ}

theorem made_answerAll {α : Type} (run : Run I σ α) (h : History I σ κ ρ) :
    A.made (run.answerAll reply h).2.2 = A.made h := by
  induction run generalizing h with
  | finished => rfl
  | waiting request s resume ih =>
    refine (ih _ s _).trans ?_
    rw [Aside.made, Aside.moves, Aside.story, Aside.story]
    split <;> rfl

theorem made_serve (counts : ¬A.calls c M.history) : A.made (serve op reply M c).history = c :: A.made M.history :=
  (made_answerAll (op c M.state) _).trans (Aside.made_called counts _)

theorem made_serve_aside (aside : A.calls c M.history) : A.made (serve op reply M c).history = A.made M.history := by
  refine (made_answerAll (op c M.state) _).trans ?_
  rw [Aside.made, Aside.moves, Aside.story, if_pos aside]
  rfl

variable {rule : List (Deed I κ) → (request : I.Request) → Except Failure (I.Answer request)}

theorem answers_serve (gives : ∀ story request, ¬A.requests request → reply request = rule story request)
    (answers : History.Always (A.AnswersBy rule) M.history) :
    History.Always (A.AnswersBy rule) (serve op reply M c).history := by
  have served : ∀ (run : Run I σ ρ) (h : History I σ κ ρ), History.Always (A.AnswersBy rule) h →
      History.Always (A.AnswersBy rule) (run.answerAll reply h).2.2 := by
    intro run
    induction run with
    | finished => exact fun _ => id
    | waiting request s resume ih =>
      intro h answers
      have asked : History.Always (A.AnswersBy rule) (.asked request s :: h) := answers.cons trivial
      exact ih _ s _ (asked.cons (gives _ request))
  have called : History.Always (A.AnswersBy rule) (.called c M.state :: M.history) := answers.cons trivial
  exact (served (op c M.state) _ called).cons trivial

end Serving

end Machine

end Keychord
