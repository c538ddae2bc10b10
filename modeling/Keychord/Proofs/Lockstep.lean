import Keychord.Proofs.Machine
import Mathlib.Data.List.Forall2

namespace Keychord

open Relation (ReflTransGen)

inductive Agree {α β : Type} (P : α → β → Prop) : Except Failure α → Except Failure β → Prop
  | ok {a : α} {b : β} (related : P a b) : Agree P (.ok a) (.ok b)
  | error (failure : Failure) : Agree P (.error failure) (.error failure)

theorem agree_eq {α : Type} (outcome : Except Failure α) : Agree Eq outcome outcome := by
  cases outcome with
  | ok a => exact .ok rfl
  | error f => exact .error f

theorem Agree.eq {α : Type} {outcome outcome' : Except Failure α} (agree : Agree Eq outcome outcome') :
    outcome = outcome' := by
  cases agree with
  | ok related => exact congrArg _ related
  | error f => rfl

structure Likeness (I : Interface) (σ κ : Type) where
  state : σ → σ → Prop
  call : κ → κ → Prop
  request : I.Request → I.Request → Prop

structure Aside (I : Interface) (σ κ ρ : Type) where
  calls : κ → History I σ κ ρ → Prop
  changes : σ → σ → Prop
  requests : I.Request → Prop

variable {I : Interface} {σ κ ρ α β γ δ : Type}

def Aside.none : Aside I σ κ ρ := ⟨fun _ _ => False, fun _ _ => False, fun _ => False⟩

namespace Run

inductive Alike (L : Likeness I σ κ) (P : α → β → Prop) : Run I σ α → Run I σ β → Prop
  | finished {outcome : Except Failure α} {outcome' : Except Failure β} {s s' : σ} (ends : Agree P outcome outcome')
      (states : L.state s s') : Alike L P (.finished outcome s) (.finished outcome' s')
  | waiting {request request' : I.Request} {s s' : σ} {resume : Except Failure (I.Answer request) → σ → Run I σ α}
      {resume' : Except Failure (I.Answer request') → σ → Run I σ β} (requests : L.request request request')
      (states : L.state s s') (resumes : ∀ reply reply' t t', HEq reply reply' → L.state t t' →
        Alike L P (resume reply t) (resume' reply' t')) :
      Alike L P (.waiting request s resume) (.waiting request' s' resume')

-- A run that starts from a state and asks for nothing but what may be set aside. In no state in which it goes on does it
-- do anything else to the state either.
inductive Still (A : Aside I σ κ ρ) : σ → Run I σ α → Prop
  | finished {outcome : Except Failure α} {s t : σ} (changes : A.changes s t) : Still A s (.finished outcome t)
  | waiting {request : I.Request} {s t : σ} {resume : Except Failure (I.Answer request) → σ → Run I σ α}
      (asks : A.requests request) (changes : A.changes s t) (resumes : ∀ reply u, Still A u (resume reply u)) :
      Still A s (.waiting request t resume)

def Each (V : (request : I.Request) → (Except Failure (I.Answer request) → σ → Run I σ α) → Prop) :
    Run I σ α → Prop
  | finished _ _ => True
  | waiting request _ resume => V request resume ∧ ∀ reply s, (resume reply s).Each V

theorem Each.mono {V W : (request : I.Request) → (Except Failure (I.Answer request) → σ → Run I σ α) → Prop}
    {run : Run I σ α} (each : run.Each V) (hw : ∀ request resume, V request resume → W request resume) : run.Each W := by
  induction run with
  | finished => trivial
  | waiting request s resume ih => exact ⟨hw _ _ each.left, fun reply s => ih reply s (each.right reply s)⟩

def Returns (P : Except Failure α → Prop) : Run I σ α → Prop
  | finished outcome _ => P outcome
  | waiting _ _ resume => ∀ reply s, (resume reply s).Returns P

theorem returns_of_forall {P : Except Failure α → Prop} (hp : ∀ outcome, P outcome) (run : Run I σ α) :
    run.Returns P := by
  induction run with
  | finished outcome s => exact hp outcome
  | waiting request s resume ih => exact fun reply s => ih reply s

theorem Returns.andThen {P : Except Failure α → Prop} {Q : Except Failure β → Prop} {run : Run I σ α}
    {next : Except Failure α → Program I σ β} (returns : run.Returns P)
    (hn : ∀ outcome s, P outcome → (next outcome s).Returns Q) : (run.andThen next).Returns Q := by
  induction run with
  | finished outcome s => exact hn outcome s returns
  | waiting request s resume ih => exact fun reply s => ih reply s (returns reply s)

variable {L : Likeness I σ κ} {A : Aside I σ κ ρ}

theorem Alike.andThen {P : α → β → Prop} {Q : γ → δ → Prop} {run : Run I σ α} {run' : Run I σ β}
    {next : Except Failure α → Program I σ γ} {next' : Except Failure β → Program I σ δ} (alike : run.Alike L P run')
    (goesOn : ∀ outcome outcome' s s', Agree P outcome outcome' → L.state s s' →
      (next outcome s).Alike L Q (next' outcome' s')) : (run.andThen next).Alike L Q (run'.andThen next') := by
  induction alike with
  | finished ends states => exact goesOn _ _ _ _ ends states
  | waiting requests states _ ih => exact .waiting requests states ih

theorem Still.each {s : σ} {run : Run I σ α} (still : run.Still A s) : run.Each fun request _ => A.requests request := by
  induction still with
  | finished => trivial
  | waiting asks _ _ ih => exact ⟨asks, ih⟩

theorem Still.after (trans : ∀ s t u, A.changes s t → A.changes t u → A.changes s u) {s t : σ} {run : Run I σ α}
    (changes : A.changes s t) (still : run.Still A t) : run.Still A s := by
  cases still with
  | finished changes' => exact .finished (trans _ _ _ changes changes')
  | waiting asks changes' resumes => exact .waiting asks (trans _ _ _ changes changes') resumes

theorem Still.andThen (trans : ∀ s t u, A.changes s t → A.changes t u → A.changes s u) {s : σ} {run : Run I σ α}
    {next : Except Failure α → Program I σ β} (still : run.Still A s)
    (goesOn : ∀ outcome t, (next outcome t).Still A t) : (run.andThen next).Still A s := by
  induction still with
  | finished changes => exact .after trans changes (goesOn _ _)
  | waiting asks changes _ ih => exact .waiting asks changes ih

end Run

namespace Sight

-- Sights that are alike. The answers are the same, and so is what is returned.
inductive Alike (L : Likeness I σ κ) : Sight I σ κ ρ → Sight I σ κ ρ → Prop
  | called {c c' : κ} {s s' : σ} (calls : L.call c c') (states : L.state s s') : Alike L (.called c s) (.called c' s')
  | asked {request request' : I.Request} {s s' : σ} (requests : L.request request request') (states : L.state s s') :
      Alike L (.asked request s) (.asked request' s')
  | answered {request request' : I.Request} {reply : Except Failure (I.Answer request)}
      {reply' : Except Failure (I.Answer request')} (requests : L.request request request')
      (replies : HEq reply reply') : Alike L (.answered request reply) (.answered request' reply')
  | returned {c c' : κ} {outcome : Except Failure ρ} {s s' : σ} (calls : L.call c c') (states : L.state s s') :
      Alike L (.returned c outcome s) (.returned c' outcome s')

end Sight

-- One history tells the same as another since there was this much of both, apart from what is set aside. Of the calls
-- under way, innermost first, it is noted whether they are shared. All that is seen of a shared call is alike, and what
-- is seen of the others is seen in the first history only.
inductive Alongside (L : Likeness I σ κ) (A : Aside I σ κ ρ) (underWay : List Bool) (h₀ h₀' : History I σ κ ρ) :
    List Bool → History I σ κ ρ → History I σ κ ρ → Prop
  | start : Alongside L A underWay h₀ h₀' underWay h₀ h₀'
  | called {shared : List Bool} {h h' : History I σ κ ρ} {c c' : κ} {s s' : σ}
      (before : Alongside L A underWay h₀ h₀' shared h h') (calls : L.call c c') (states : L.state s s') :
      Alongside L A underWay h₀ h₀' (true :: shared) (.called c s :: h) (.called c' s' :: h')
  | asked {shared : List Bool} {h h' : History I σ κ ρ} {request request' : I.Request} {s s' : σ}
      (before : Alongside L A underWay h₀ h₀' (true :: shared) h h') (requests : L.request request request')
      (states : L.state s s') :
      Alongside L A underWay h₀ h₀' (true :: shared) (.asked request s :: h) (.asked request' s' :: h')
  | answered {shared : List Bool} {h h' : History I σ κ ρ} {request request' : I.Request}
      {reply : Except Failure (I.Answer request)} {reply' : Except Failure (I.Answer request')}
      (before : Alongside L A underWay h₀ h₀' (true :: shared) h h') (requests : L.request request request')
      (replies : HEq reply reply') :
      Alongside L A underWay h₀ h₀' (true :: shared) (.answered request reply :: h) (.answered request' reply' :: h')
  | returned {shared : List Bool} {h h' : History I σ κ ρ} {c c' : κ} {outcome : Except Failure ρ} {s s' : σ}
      (before : Alongside L A underWay h₀ h₀' (true :: shared) h h') (calls : L.call c c') (states : L.state s s') :
      Alongside L A underWay h₀ h₀' shared (.returned c outcome s :: h) (.returned c' outcome s' :: h')
  | calledAside {shared : List Bool} {h h' : History I σ κ ρ} {c : κ} {s : σ}
      (before : Alongside L A underWay h₀ h₀' shared h h') (aside : A.calls c h) :
      Alongside L A underWay h₀ h₀' (false :: shared) (.called c s :: h) h'
  | askedAside {shared : List Bool} {h h' : History I σ κ ρ} {request : I.Request} {s : σ}
      (before : Alongside L A underWay h₀ h₀' (false :: shared) h h') (asks : A.requests request) :
      Alongside L A underWay h₀ h₀' (false :: shared) (.asked request s :: h) h'
  | answeredAside {shared : List Bool} {h h' : History I σ κ ρ} {request : I.Request}
      {reply : Except Failure (I.Answer request)} (before : Alongside L A underWay h₀ h₀' (false :: shared) h h') :
      Alongside L A underWay h₀ h₀' (false :: shared) (.answered request reply :: h) h'
  | returnedAside {shared : List Bool} {h h' : History I σ κ ρ} {c : κ} {outcome : Except Failure ρ} {s : σ}
      (before : Alongside L A underWay h₀ h₀' (false :: shared) h h') :
      Alongside L A underWay h₀ h₀' shared (.returned c outcome s :: h) h'

theorem Alongside.forall₂ {L : Likeness I σ κ} {A : Aside I σ κ ρ} {underWay shared : List Bool}
    {h₀ h₀' h h' : History I σ κ ρ} (never : ∀ c h, ¬A.calls c h) (all : ∀ b ∈ underWay, b = true)
    (along : Alongside L A underWay h₀ h₀' shared h h') :
    (∀ b ∈ shared, b = true) ∧
      ∃ later later', h = later ++ h₀ ∧ h' = later' ++ h₀' ∧ later.Forall₂ (Sight.Alike L) later' := by
  induction along with
  | start => exact ⟨all, [], [], rfl, rfl, .nil⟩
  | called _ calls states ih =>
    obtain ⟨hs, later, later', rfl, rfl, alike⟩ := ih
    exact ⟨by simpa using hs, _ :: later, _ :: later', rfl, rfl, .cons (.called calls states) alike⟩
  | asked _ requests states ih =>
    obtain ⟨hs, later, later', rfl, rfl, alike⟩ := ih
    exact ⟨hs, _ :: later, _ :: later', rfl, rfl, .cons (.asked requests states) alike⟩
  | answered _ requests replies ih =>
    obtain ⟨hs, later, later', rfl, rfl, alike⟩ := ih
    exact ⟨hs, _ :: later, _ :: later', rfl, rfl, .cons (.answered requests replies) alike⟩
  | returned _ calls states ih =>
    obtain ⟨hs, later, later', rfl, rfl, alike⟩ := ih
    exact ⟨by simpa using hs, _ :: later, _ :: later', rfl, rfl, .cons (.returned calls states) alike⟩
  | calledAside _ aside _ => exact absurd aside (never _ _)
  | askedAside _ _ ih | answeredAside _ ih | returnedAside _ ih => simp at ih

namespace Frame

structure Alike (L : Likeness I σ κ) (frame frame' : Frame I σ κ ρ) : Prop where
  calls    : L.call frame.call frame'.call
  requests : L.request frame.request frame'.request
  resumes  : ∀ reply reply' s s', HEq reply reply' → L.state s s' →
    (frame.resume reply s).Alike L Eq (frame'.resume reply' s')

def Spent (A : Aside I σ κ ρ) (frame : Frame I σ κ ρ) : Prop := ∀ reply s, (frame.resume reply s).Still A s

end Frame

namespace Machine

def Free (C : Conduct I σ κ ρ) (frames : List (Frame I σ κ ρ)) : Prop :=
  ∀ frame ∈ frames.head?, ∀ c, C.during frame.call frame.request c

inductive Abreast (L : Likeness I σ κ) (A : Aside I σ κ ρ) (C : Conduct I σ κ ρ) (beneath : List (Frame I σ κ ρ)) :
    List Bool → List (Frame I σ κ ρ) → List (Frame I σ κ ρ) → Prop
  | base : Abreast L A C beneath [] [] beneath
  | both {shared : List Bool} {frame frame' : Frame I σ κ ρ} {frames frames' : List (Frame I σ κ ρ)}
      (alike : frame.Alike L frame') (rest : Abreast L A C beneath shared frames frames') :
      Abreast L A C beneath (true :: shared) (frame :: frames) (frame' :: frames')
  | aside {shared : List Bool} {frame : Frame I σ κ ρ} {frames frames' : List (Frame I σ κ ρ)} (spent : frame.Spent A)
      (free : Free C frames') (rest : Abreast L A C beneath shared frames frames') :
      Abreast L A C beneath (false :: shared) (frame :: frames) frames'

theorem Abreast.same {L : Likeness I σ κ} {A : Aside I σ κ ρ} {C : Conduct I σ κ ρ} {frames : List (Frame I σ κ ρ)}
    (alike : ∀ frame ∈ frames, frame.Alike L frame) :
    Abreast L A C [] (frames.map fun _ => true) frames frames := by
  induction frames with
  | nil => exact .base
  | cons frame frames ih =>
    obtain ⟨head, rest⟩ := List.forall_mem_cons.mp alike
    exact .both head (ih rest)

theorem Abreast.spent {L : Likeness I σ κ} {A : Aside I σ κ ρ} {C : Conduct I σ κ ρ} {frames : List (Frame I σ κ ρ)}
    (spent : ∀ frame ∈ frames, frame.Spent A) : Abreast L A C [] (frames.map fun _ => false) frames [] := by
  induction frames with
  | nil => exact .base
  | cons frame frames ih =>
    obtain ⟨head, rest⟩ := List.forall_mem_cons.mp spent
    exact .aside head (by simp [Free]) (ih rest)

structure InStep (L : Likeness I σ κ) (A : Aside I σ κ ρ) (C : Conduct I σ κ ρ) (beneath : List (Frame I σ κ ρ))
    (underWay : List Bool) (h₀ h₀' : History I σ κ ρ) (shared : List Bool) (M M' : Machine I σ κ ρ) : Prop where
  states    : L.state M.state M'.state
  frames    : Abreast L A C beneath shared M.frames M'.frames
  histories : Alongside L A underWay h₀ h₀' shared M.history M'.history

-- The operations of two machines are alike. What the surroundings of the first do, those of the second may do as well,
-- and states stay alike when the first drifts or has a call set aside.
structure Respects (op : κ → Program I σ ρ) (L : Likeness I σ κ) (A : Aside I σ κ ρ) (C C' : Conduct I σ κ ρ) :
    Prop where
  runs    : ∀ c c' s s', L.call c c' → L.state s s' → (op c s).Alike L Eq (op c' s')
  answers : ∀ request request' reply, L.request request request' → C.answers request reply →
    ∃ reply', HEq reply reply' ∧ C'.answers request' reply'
  opens   : ∀ call call' request request' c c', L.request request request' → C.during call request c →
    C'.during call' request' c'
  drifts  : ∀ s t s', L.state s s' → C.drifts s t → L.state t s'
  changes : ∀ s t s', L.state s s' → A.changes s t → L.state t s'

section

variable {op : κ → Program I σ ρ} {L : Likeness I σ κ} {A : Aside I σ κ ρ} {C C' : Conduct I σ κ ρ}
  {beneath : List (Frame I σ κ ρ)} {underWay shared : List Bool} {h₀ h₀' h h' : History I σ κ ρ}
  {frames frames' : List (Frame I σ κ ρ)} {c c' : κ}

theorem free_nil : Free C ([] : List (Frame I σ κ ρ)) := by simp [Free]

theorem Abreast.free (respects : Respects op L A C C') (below : Free C' beneath)
    (abreast : Abreast L A C' beneath shared frames frames')
    (free : ∀ frame ∈ frames.head?, C.during frame.call frame.request c) : Free C' frames' := by
  cases abreast with
  | base => exact below
  | both alike =>
    intro frame' hf c'
    obtain rfl : _ = frame' := by simpa using hf
    exact respects.opens _ _ _ _ _ _ alike.requests (free _ rfl)
  | aside _ free' => exact free'

theorem InStep.enter {run run' : Run I σ ρ} (alike : run.Alike L Eq run') (calls : L.call c c')
    (abreast : Abreast L A C' beneath shared frames frames')
    (along : Alongside L A underWay h₀ h₀' (true :: shared) h h') :
    ∃ shared', InStep L A C' beneath underWay h₀ h₀' shared' (enter c frames h run) (enter c' frames' h' run') := by
  cases alike with
  | finished ends states =>
    obtain rfl := ends.eq
    exact ⟨shared, states, abreast, along.returned calls states⟩
  | waiting requests states resumes =>
    exact ⟨true :: shared, states, .both ⟨calls, requests, resumes⟩ abreast, along.asked requests states⟩

theorem InStep.enterAside (respects : Respects op L A C C') {s s' : σ} {run : Run I σ ρ} (still : run.Still A s)
    (states : L.state s s') (free : Free C' frames') (abreast : Abreast L A C' beneath shared frames frames')
    (along : Alongside L A underWay h₀ h₀' (false :: shared) h h') :
    ∃ shared', InStep L A C' beneath underWay h₀ h₀' shared' (Machine.enter c frames h run) ⟨s', frames', h'⟩ := by
  cases still with
  | finished changes => exact ⟨shared, respects.changes _ _ _ states changes, abreast, along.returnedAside⟩
  | waiting asks changes resumes =>
    exact ⟨false :: shared, respects.changes _ _ _ states changes, .aside resumes free abreast, along.askedAside asks⟩

theorem InStep.step (respects : Respects op L A C C') (below : Free C' beneath) {M M₁ M' : Machine I σ κ ρ}
    (inStep : InStep L A C' beneath underWay h₀ h₀' shared M M') (step : Step op C M M₁)
    (made : ∀ c, C.calls c M.state M.history → ¬A.calls c M.history →
      ∃ c', L.call c c' ∧ C'.calls c' M'.state M'.history)
    (still : ∀ c, (∀ frame ∈ M.frames.head?, C.during frame.call frame.request c) → C.calls c M.state M.history →
      A.calls c M.history → (op c M.state).Still A M.state) :
    ∃ shared' M₁', Reaches op C' M' M₁' ∧ InStep L A C' beneath underWay h₀ h₀' shared' M₁ M₁' := by
  obtain ⟨states, abreast, along⟩ := inStep
  obtain ⟨s', frames', history'⟩ := M'
  cases step with
  | @call _ c free called =>
    have free' : Free C' frames' := abreast.free respects below free
    by_cases ha : A.calls c M.history
    case pos =>
      obtain ⟨shared', inStep⟩ := InStep.enterAside (c := c) respects (still c free called ha) states free' abreast
        (along.calledAside ha)
      exact ⟨shared', _, .refl, inStep⟩
    case neg =>
      obtain ⟨c', calls, called'⟩ := made c called ha
      obtain ⟨shared', inStep⟩ := InStep.enter (respects.runs _ _ _ _ calls states) calls abreast
        (along.called calls states)
      exact ⟨shared', _, .single (.call (fun frame hf => free' frame hf c') called'), inStep⟩
  | answer reply given =>
    cases abreast with
    | @both shared _ frame' _ frames' alike rest =>
      obtain ⟨reply', replies, given'⟩ := respects.answers _ _ _ alike.requests given
      obtain ⟨shared', inStep⟩ := InStep.enter (alike.resumes _ _ _ _ replies states) alike.calls rest
        (along.answered alike.requests replies)
      exact ⟨shared', _, .single (.answer reply' given'), inStep⟩
    | aside spent free rest =>
      obtain ⟨shared', inStep⟩ := InStep.enterAside respects (spent reply _) states free rest along.answeredAside
      exact ⟨shared', _, .refl, inStep⟩
  | drift drifts => exact ⟨shared, _, .refl, respects.drifts _ _ _ states drifts, abreast, along⟩

-- Whatever the first goes through, the second goes along.
theorem Reaches.follow (respects : Respects op L A C C') (below : Free C' beneath) {M₀ M M₀' : Machine I σ κ ρ}
    (start : InStep L A C' beneath underWay h₀ h₀' shared M₀ M₀')
    (made : ∀ M M' shared, Reaches op C M₀ M → InStep L A C' beneath underWay h₀ h₀' shared M M' →
      ∀ c, C.calls c M.state M.history → ¬A.calls c M.history → ∃ c', L.call c c' ∧ C'.calls c' M'.state M'.history)
    (still : ∀ M, Reaches op C M₀ M → ∀ c, (∀ frame ∈ M.frames.head?, C.during frame.call frame.request c) →
      C.calls c M.state M.history → A.calls c M.history → (op c M.state).Still A M.state)
    (reaches : Reaches op C M₀ M) :
    ∃ shared' M', Reaches op C' M₀' M' ∧ InStep L A C' beneath underWay h₀ h₀' shared' M M' := by
  induction reaches with
  | refl => exact ⟨shared, M₀', .refl, start⟩
  | @tail M _ before step ih =>
    obtain ⟨shared₁, M', reaches', inStep⟩ := ih
    obtain ⟨shared', M₁', further, inStep'⟩ := inStep.step respects below step (made _ _ _ before inStep)
      (still _ before)
    exact ⟨shared', M₁', reaches'.trans further, inStep'⟩

theorem Reaches.alike_self (refl : ∀ c, L.call c c)
    (runs : ∀ c c' s s', L.call c c' → L.state s s' → (op c s).Alike L Eq (op c' s'))
    (drifts : ∀ s t, L.state s s → C.drifts s t → L.state t t) {M M' : Machine I σ κ ρ} (reaches : Reaches op C M M')
    (state : L.state M.state M.state) (alike : ∀ frame ∈ M.frames, frame.Alike L frame) :
    L.state M'.state M'.state ∧ ∀ frame ∈ M'.frames, frame.Alike L frame := by
  have entered : ∀ (c : κ) (frames : List (Frame I σ κ ρ)) (h : History I σ κ ρ) (run : Run I σ ρ),
      (∀ frame ∈ frames, frame.Alike L frame) → run.Alike L Eq run →
      L.state (Machine.enter c frames h run).state (Machine.enter c frames h run).state ∧
        ∀ frame ∈ (Machine.enter c frames h run).frames, frame.Alike L frame := by
    intro c frames h run alike self
    cases self with
    | finished _ states => exact ⟨states, alike⟩
    | waiting requests states resumes =>
      exact ⟨states, List.forall_mem_cons.mpr ⟨⟨refl c, requests, resumes⟩, alike⟩⟩
  induction reaches with
  | refl => exact ⟨state, alike⟩
  | tail _ step ih =>
    obtain ⟨state, alike⟩ := ih
    cases step with
    | call => exact entered _ _ _ _ alike (runs _ _ _ _ (refl _) state)
    | answer reply =>
      obtain ⟨head, rest⟩ := List.forall_mem_cons.mp alike
      exact entered _ _ _ _ rest (head.resumes _ _ _ _ HEq.rfl state)
    | drift hd => exact ⟨drifts _ _ state hd, alike⟩

theorem Reaches.each {V : (request : I.Request) → (Except Failure (I.Answer request) → σ → Run I σ ρ) → Prop}
    (runs : ∀ c s, (op c s).Each V) {M M' : Machine I σ κ ρ} (reaches : Reaches op C M M') (new : M.frames = []) :
    ∀ frame ∈ M'.frames, V frame.request frame.resume ∧ ∀ reply s, (frame.resume reply s).Each V := by
  have entered : ∀ (c : κ) (frames : List (Frame I σ κ ρ)) (h : History I σ κ ρ) (run : Run I σ ρ),
      (∀ frame ∈ frames, V frame.request frame.resume ∧ ∀ reply s, (frame.resume reply s).Each V) → run.Each V →
      ∀ frame ∈ (Machine.enter c frames h run).frames, V frame.request frame.resume ∧
        ∀ reply s, (frame.resume reply s).Each V := by
    intro c frames h run each entered
    cases run with
    | finished => exact each
    | waiting => exact List.forall_mem_cons.mpr ⟨entered, each⟩
  induction reaches with
  | refl => simp [new]
  | tail _ step ih =>
    cases step with
    | call => exact entered _ _ _ _ ih (runs _ _)
    | answer reply =>
      obtain ⟨head, rest⟩ := List.forall_mem_cons.mp ih
      exact entered _ _ _ _ rest (head.right _ _)
    | drift => exact ih

theorem Reaches.opens {M M' : Machine I σ κ ρ} (reaches : Reaches op C M M') (new : M.frames = []) :
    (∀ frame ∈ M'.frames.tail, C.Opens frame.call frame.request) ∧
      ((∀ request s h, M'.history ≠ .asked request s :: h) →
        ∀ frame ∈ M'.frames, C.Opens frame.call frame.request) := by
  have entered : ∀ (c : κ) (frames : List (Frame I σ κ ρ)) (h : History I σ κ ρ) (run : Run I σ ρ),
      (∀ frame ∈ frames, C.Opens frame.call frame.request) →
      (∀ frame ∈ (Machine.enter c frames h run).frames.tail, C.Opens frame.call frame.request) ∧
        ((∀ request s h', (Machine.enter c frames h run).history ≠ .asked request s :: h') →
          ∀ frame ∈ (Machine.enter c frames h run).frames, C.Opens frame.call frame.request) := by
    intro c frames h run ho
    cases run with
    | finished => exact ⟨fun frame hf => ho frame (List.mem_of_mem_tail hf), fun _ => ho⟩
    | waiting request s => exact ⟨ho, fun hn => absurd rfl (hn request s h)⟩
  induction reaches with
  | refl => simp [new]
  | @tail M _ _ step ih =>
    cases step with
    | @call _ c free =>
      refine entered _ _ _ _ fun frame hf => ?_
      cases hfs : M.frames with
      | nil => simp [hfs] at hf
      | cons top rest =>
        rw [hfs] at hf ih free
        obtain rfl | hf := List.mem_cons.mp hf
        · exact ⟨c, free frame rfl⟩
        · exact ih.left frame hf
    | answer reply => exact entered _ _ _ _ ih.left
    | drift => exact ih

end

end Machine

end Keychord
