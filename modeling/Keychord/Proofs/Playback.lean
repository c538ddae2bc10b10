import Keychord.Proofs.Lockstep

namespace Keychord

inductive Cue (I : Interface) (σ κ : Type)
  | call (c : κ)
  | answer (reply : (request : I.Request) → Except Failure (I.Answer request))
  | drift (change : σ → σ)

inductive Padded {α : Type} (extra : α → Prop) : List α → List α → Prop
  | nil : Padded extra [] []
  | cons (a : α) {l l' : List α} (rest : Padded extra l l') : Padded extra (a :: l) (a :: l')
  | insert {a : α} (added : extra a) {l l' : List α} (rest : Padded extra l l') : Padded extra l (a :: l')

namespace Padded

variable {α : Type} {extra : α → Prop}

theorem refl : (l : List α) → Padded extra l l
  | [] => .nil
  | a :: l => .cons a (refl l)

theorem append_left {added l l' : List α} (all : ∀ a ∈ added, extra a) (padded : Padded extra l l') :
    Padded extra l (added ++ l') := by
  induction added with
  | nil => exact padded
  | cons a added ih =>
    obtain ⟨head, rest⟩ := List.forall_mem_cons.mp all
    exact .insert head (ih rest)

end Padded

section Play

variable {I : Interface} {σ κ ρ : Type} {op : κ → Program I σ ρ} {C : Conduct I σ κ ρ} {cues cues' : List (Cue I σ κ)}
  {M M' : Machine I σ κ ρ}

namespace Machine

def perform (op : κ → Program I σ ρ) (M : Machine I σ κ ρ) : Cue I σ κ → Machine I σ κ ρ
  | .call c => M.enterCall op c
  | .answer reply => M.answer reply
  | .drift change => { M with state := change M.state }

def play (op : κ → Program I σ ρ) (M : Machine I σ κ ρ) (cues : List (Cue I σ κ)) : Machine I σ κ ρ :=
  cues.foldl (perform op) M

-- What every cue keeps between two machines, and so does every cue that only the second is given.
theorem play_padded {R : Machine I σ κ ρ → Machine I σ κ ρ → Prop} {extra : Cue I σ κ → Prop}
    (shared : ∀ cue M M', R M M' → R (M.perform op cue) (M'.perform op cue))
    (aside : ∀ cue M M', extra cue → R M M' → R M (M'.perform op cue)) (padded : Padded extra cues cues')
    (start : R M M') : R (M.play op cues) (M'.play op cues') := by
  induction padded generalizing M M' with
  | nil => exact start
  | cons cue _ ih => exact ih (shared cue _ _ start)
  | insert added _ ih => exact ih (aside _ _ _ added start)

end Machine

end Play

section Akin

variable {I : Interface} {σ τ κ ρ α : Type} {R : σ → τ → Prop}

inductive Run.Akin (R : σ → τ → Prop) : Run I σ α → Run I τ α → Prop
  | finished {outcome : Except Failure α} {s : σ} {t : τ} (states : R s t) :
      Akin R (.finished outcome s) (.finished outcome t)
  | waiting {request : I.Request} {s : σ} {t : τ} {resume : Except Failure (I.Answer request) → σ → Run I σ α}
      {resume' : Except Failure (I.Answer request) → τ → Run I τ α} (states : R s t)
      (resumes : ∀ reply s t, R s t → Akin R (resume reply s) (resume' reply t)) :
      Akin R (.waiting request s resume) (.waiting request t resume')

inductive Sight.Akin (R : σ → τ → Prop) : Sight I σ κ ρ → Sight I τ κ ρ → Prop
  | called (c : κ) {s : σ} {t : τ} (states : R s t) : Akin R (.called c s) (.called c t)
  | asked (request : I.Request) {s : σ} {t : τ} (states : R s t) : Akin R (.asked request s) (.asked request t)
  | answered (request : I.Request) (reply : Except Failure (I.Answer request)) :
      Akin R (.answered request reply) (.answered request reply)
  | returned (c : κ) (outcome : Except Failure ρ) {s : σ} {t : τ} (states : R s t) :
      Akin R (.returned c outcome s) (.returned c outcome t)

inductive Frame.Akin (R : σ → τ → Prop) : Frame I σ κ ρ → Frame I τ κ ρ → Prop
  | intro (c : κ) (request : I.Request) {resume : Except Failure (I.Answer request) → σ → Run I σ ρ}
      {resume' : Except Failure (I.Answer request) → τ → Run I τ ρ}
      (resumes : ∀ reply s t, R s t → (resume reply s).Akin R (resume' reply t)) :
      Akin R ⟨c, request, resume⟩ ⟨c, request, resume'⟩

-- The same calls and answers. What else is done to the states keeps them related.
inductive Cue.Akin (R : σ → τ → Prop) : Cue I σ κ → Cue I τ κ → Prop
  | call (c : κ) : Akin R (.call c) (.call c)
  | answer (reply : (request : I.Request) → Except Failure (I.Answer request)) : Akin R (.answer reply) (.answer reply)
  | drift {change : σ → σ} {change' : τ → τ} (keeps : ∀ s t, R s t → R (change s) (change' t)) :
      Akin R (.drift change) (.drift change')

namespace Machine

structure Akin (R : σ → τ → Prop) (M : Machine I σ κ ρ) (N : Machine I τ κ ρ) : Prop where
  states    : R M.state N.state
  frames    : List.Forall₂ (Frame.Akin R) M.frames N.frames
  histories : List.Forall₂ (Sight.Akin R) M.history N.history

variable {op : κ → Program I σ ρ} {op' : κ → Program I τ ρ} {M : Machine I σ κ ρ} {N : Machine I τ κ ρ}

theorem Akin.enter {c : κ} {run : Run I σ ρ} {run' : Run I τ ρ} {frames : List (Frame I σ κ ρ)}
    {frames' : List (Frame I τ κ ρ)} {h : History I σ κ ρ} {h' : History I τ κ ρ} (akin : run.Akin R run')
    (below : List.Forall₂ (Frame.Akin R) frames frames') (before : List.Forall₂ (Sight.Akin R) h h') :
    (Machine.enter c frames h run).Akin R (Machine.enter c frames' h' run') := by
  cases akin with
  | finished states => exact ⟨states, below, .cons (.returned c _ states) before⟩
  | waiting states resumes => exact ⟨states, .cons (.intro c _ resumes) below, .cons (.asked _ states) before⟩

theorem Akin.perform (ops : ∀ c s t, R s t → (op c s).Akin R (op' c t)) {cue : Cue I σ κ} {cue' : Cue I τ κ}
    (cues : cue.Akin R cue') (akin : M.Akin R N) : (M.perform op cue).Akin R (N.perform op' cue') := by
  obtain ⟨s, frames, h⟩ := M
  obtain ⟨t, frames', h'⟩ := N
  obtain ⟨states, below, before⟩ := akin
  cases cues with
  | call c => exact .enter (ops c s t states) below (.cons (.called c states) before)
  | answer reply =>
    cases below with
    | nil => exact ⟨states, .nil, before⟩
    | cons top below =>
      obtain ⟨c, request, resumes⟩ := top
      exact .enter (resumes _ s t states) below (.cons (.answered request _) before)
  | drift keeps => exact ⟨keeps s t states, below, before⟩

theorem play_akin (ops : ∀ c s t, R s t → (op c s).Akin R (op' c t)) {cues : List (Cue I σ κ)}
    {cues' : List (Cue I τ κ)} (same : List.Forall₂ (Cue.Akin R) cues cues') (akin : M.Akin R N) :
    (M.play op cues).Akin R (N.play op' cues') := by
  induction same generalizing M N with
  | nil => exact akin
  | cons cue _ ih => exact ih (akin.perform ops cue)

end Machine

end Akin

end Keychord
