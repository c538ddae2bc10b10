import Keychord.Program
import Mathlib.Logic.Relation
import Mathlib.Tactic.Common

namespace Keychord

open Relation (ReflTransGen)

structure Exchange (I : Interface) where
  request : I.Request
  reply : Except Failure (I.Answer request)

inductive Progress (I : Interface) (σ ρ : Type)
  | waiting (request : I.Request) (resume : Except Failure (I.Answer request) → σ → Run I σ ρ)
  | ended (outcome : Except Failure ρ) (s : σ)

structure Task (I : Interface) (σ κ ρ : Type) where
  call : κ
  start : σ
  exchanges : List (Exchange I)
  progress : Progress I σ ρ

structure Crowd (I : Interface) (σ κ ρ : Type) where
  state : σ
  tasks : List (Task I σ κ ρ) := []

structure Milieu (I : Interface) (σ : Type) where
  answers : σ → (request : I.Request) → Except Failure (I.Answer request) → Prop
  drifts : σ → σ → Prop

variable {I : Interface} {σ κ ρ α β : Type}

namespace Run

def state : Run I σ α → σ
  | finished _ s | waiting _ s _ => s

def progress : Run I σ α → Progress I σ α
  | finished outcome s => .ended outcome s
  | waiting request _ resume => .waiting request resume

def Yields (B : Milieu I σ) (R : σ → σ → Prop) (Q : Except Failure α → σ → List (Exchange I) → Prop) :
    Run I σ α → σ → List (Exchange I) → Prop
  | finished outcome s, s₀, done => R s₀ s ∧ Q outcome s done
  | waiting request s resume, s₀, done => R s₀ s ∧ ∀ reply s', R s s' → B.answers s' request reply →
    (resume reply s').Yields B R Q s' (done ++ [⟨request, reply⟩])

variable {B : Milieu I σ} {R : σ → σ → Prop} {run : Run I σ α} {s₀ s₁ : σ} {done : List (Exchange I)}

theorem Yields.mono {Q Q' : Except Failure α → σ → List (Exchange I) → Prop} (yields : run.Yields B R Q s₀ done)
    (hq : ∀ outcome s done, Q outcome s done → Q' outcome s done) : run.Yields B R Q' s₀ done := by
  induction run generalizing s₀ done with
  | finished outcome s => exact ⟨yields.left, hq _ _ _ yields.right⟩
  | waiting request s resume ih =>
    exact ⟨yields.left, fun reply s' moves given => ih reply s' (yields.right reply s' moves given)⟩

theorem Yields.earlier {Q : Except Failure α → σ → List (Exchange I) → Prop}
    (trans : ∀ s s' s'', R s s' → R s' s'' → R s s'')
    (moves : R s₀ s₁) (yields : run.Yields B R Q s₁ done) : run.Yields B R Q s₀ done := by
  cases run with
  | finished => exact ⟨trans _ _ _ moves yields.left, yields.right⟩
  | waiting => exact ⟨trans _ _ _ moves yields.left, yields.right⟩

theorem Yields.andThen {Q : Except Failure α → σ → List (Exchange I) → Prop}
    {Q' : Except Failure β → σ → List (Exchange I) → Prop} {next : Except Failure α → Program I σ β}
    (trans : ∀ s s' s'', R s s' → R s' s'' → R s s'') (yields : run.Yields B R Q s₀ done)
    (goesOn : ∀ outcome s done, Q outcome s done → (next outcome s).Yields B R Q' s done) :
    (run.andThen next).Yields B R Q' s₀ done := by
  induction run generalizing s₀ done with
  | finished outcome s => exact (goesOn _ _ _ yields.right).earlier trans yields.left
  | waiting request s resume ih =>
    exact ⟨yields.left, fun reply s' moves given => ih reply s' (yields.right reply s' moves given)⟩

theorem Yields.exists_end {Q : Except Failure α → σ → List (Exchange I) → Prop} (refl : ∀ s, R s s)
    (total : ∀ s request, ∃ reply, B.answers s request reply) (yields : run.Yields B R Q s₀ done) :
    ∃ outcome s more, Q outcome s (done ++ more) := by
  induction run generalizing s₀ done with
  | finished outcome s => exact ⟨outcome, s, [], by simpa using yields.right⟩
  | waiting request s resume ih =>
    have ⟨reply, given⟩ := total s request
    have ⟨outcome, s', more, ends⟩ := ih reply s (yields.right reply s (refl s) given)
    exact ⟨outcome, s', ⟨request, reply⟩ :: more, by simpa using ends⟩

end Run

namespace Crowd

inductive Step (op : κ → Program I σ ρ) (B : Milieu I σ) : Crowd I σ κ ρ → Crowd I σ κ ρ → Prop
  | call {G : Crowd I σ κ ρ} (c : κ) :
      Step op B G ⟨(op c G.state).state, G.tasks ++ [⟨c, G.state, [], (op c G.state).progress⟩]⟩
  | answer {s start : σ} {before after : List (Task I σ κ ρ)} {c : κ} {done : List (Exchange I)} {request : I.Request}
      {resume : Except Failure (I.Answer request) → σ → Run I σ ρ} (reply : Except Failure (I.Answer request))
      (given : B.answers s request reply) :
      Step op B ⟨s, before ++ ⟨c, start, done, .waiting request resume⟩ :: after⟩
        ⟨(resume reply s).state, before ++ ⟨c, start, done ++ [⟨request, reply⟩], (resume reply s).progress⟩ :: after⟩
  | drift {G : Crowd I σ κ ρ} {s : σ} (drifts : B.drifts G.state s) : Step op B G { G with state := s }

abbrev Reaches (op : κ → Program I σ ρ) (B : Milieu I σ) : Crowd I σ κ ρ → Crowd I σ κ ρ → Prop :=
  ReflTransGen (Step op B)

section

variable {B : Milieu I σ} {R : σ → σ → Prop} {Q : Except Failure ρ → σ → List (Exchange I) → Prop} {s s' : σ}
  {progress : Progress I σ ρ} {done : List (Exchange I)}

inductive Holds (B : Milieu I σ) (R : σ → σ → Prop) (Q : Except Failure ρ → σ → List (Exchange I) → Prop) :
    Progress I σ ρ → List (Exchange I) → σ → Prop
  | ended {outcome : Except Failure ρ} {s s' : σ} {done : List (Exchange I)} (ends : Q outcome s done) :
      Holds B R Q (.ended outcome s) done s'
  | waiting {request : I.Request} {resume : Except Failure (I.Answer request) → σ → Run I σ ρ} {s s' : σ}
      {done : List (Exchange I)} (moves : R s s')
      (goesOn : ∀ reply s', R s s' → B.answers s' request reply →
        (resume reply s').Yields B R Q s' (done ++ [⟨request, reply⟩])) :
      Holds B R Q (.waiting request resume) done s'

theorem Holds.moved (trans : ∀ s s' s'', R s s' → R s' s'' → R s s'') (holds : Holds B R Q progress done s)
    (moves : R s s') : Holds B R Q progress done s' := by
  cases holds with
  | ended ends => exact .ended ends
  | waiting moved goesOn => exact .waiting (trans _ _ _ moved moves) goesOn

theorem Holds.of_ended {outcome : Except Failure ρ} (holds : Holds B R Q (.ended outcome s) done s') : Q outcome s done := by
  cases holds with
  | ended ends => exact ends

theorem Holds.exists_end (refl : ∀ s, R s s) (total : ∀ s request, ∃ reply, B.answers s request reply) {request : I.Request}
    {resume : Except Failure (I.Answer request) → σ → Run I σ ρ} (holds : Holds B R Q (.waiting request resume) done s)
    {reply : Except Failure (I.Answer request)} (given : B.answers s request reply) :
    ∃ outcome s' more, Q outcome s' (done ++ ⟨request, reply⟩ :: more) := by
  cases holds with
  | waiting moves goesOn =>
    have ⟨outcome, s', more, ends⟩ := (goesOn reply s moves given).exists_end refl total
    exact ⟨outcome, s', more, by simpa using ends⟩

theorem holds_of_yields (refl : ∀ s, R s s) {run : Run I σ ρ} (yields : run.Yields B R Q s done) :
    Holds B R Q run.progress done run.state := by
  cases run with
  | finished => exact .ended yields.right
  | waiting => exact .waiting (refl _) yields.right

theorem moves_of_yields {run : Run I σ ρ} (yields : run.Yields B R Q s done) : R s run.state := by
  cases run with
  | finished => exact yields.left
  | waiting => exact yields.left

end

def enter (op : κ → Program I σ ρ) (G : Crowd I σ κ ρ) (c : κ) : Crowd I σ κ ρ :=
  ⟨(op c G.state).state, G.tasks ++ [⟨c, G.state, [], (op c G.state).progress⟩]⟩

def answer (reply : (request : I.Request) → Except Failure (I.Answer request)) (G : Crowd I σ κ ρ) (n : Nat) :
    Crowd I σ κ ρ :=
  match G.tasks.drop n with
  | ⟨c, start, done, .waiting request resume⟩ :: after => ⟨(resume (reply request) G.state).state,
      G.tasks.take n ++ ⟨c, start, done ++ [⟨request, reply request⟩], (resume (reply request) G.state).progress⟩ :: after⟩
  | _ => G

variable {op : κ → Program I σ ρ} {B : Milieu I σ} {R : σ → σ → Prop}
  {Q : κ → σ → Except Failure ρ → σ → List (Exchange I) → Prop} {s : σ} {G : Crowd I σ κ ρ}

theorem Reaches.enter {G' : Crowd I σ κ ρ} (reaches : Reaches op B G G') (c : κ) : Reaches op B G (G'.enter op c) :=
  reaches.tail (.call c)

theorem Reaches.answer {reply : (request : I.Request) → Except Failure (I.Answer request)}
    (given : ∀ s request, B.answers s request (reply request)) {G' : Crowd I σ κ ρ} (reaches : Reaches op B G G') (n : Nat) :
    Reaches op B G (G'.answer reply n) := by
  rw [Crowd.answer]
  split
  case h_1 c start done request resume after hd =>
    have step : Step op B ⟨G'.state, G'.tasks.take n ++ ⟨c, start, done, .waiting request resume⟩ :: after⟩ _ :=
      .answer (reply request) (given _ _)
    rw [← hd, List.take_append_drop] at step
    exact reaches.tail step
  case h_2 => exact reaches

-- Every call of a crowd is as its operation should be in the state in which it was made.
theorem Reaches.each (refl : ∀ s, R s s) (trans : ∀ s s' s'', R s s' → R s' s'' → R s s'')
    (drifts : ∀ s s', B.drifts s s' → R s s') (runs : ∀ c s', R s s' → (op c s').Yields B R (Q c s') s' [])
    (reaches : Reaches op B ⟨s, []⟩ G) :
    R s G.state ∧ ∀ task ∈ G.tasks, Holds B R (Q task.call task.start) task.progress task.exchanges G.state := by
  induction reaches with
  | refl => exact ⟨refl s, by simp⟩
  | tail _ step ih =>
    have ⟨moved, each⟩ := ih
    cases step with
    | call c =>
      have yields := runs c _ moved
      have moves := moves_of_yields yields
      refine ⟨trans _ _ _ moved moves, fun task ht => ?_⟩
      cases List.mem_append.mp ht with
      | inl ht => exact (each task ht).moved trans moves
      | inr ht =>
        rw [List.mem_singleton.mp ht]
        exact holds_of_yields refl yields
    | @answer _ start before after c done request resume reply given =>
      cases each ⟨c, start, done, .waiting request resume⟩ (List.mem_append_right _ List.mem_cons_self) with
      | waiting since goesOn =>
        have yields := goesOn reply _ since given
        have moves := moves_of_yields yields
        refine ⟨trans _ _ _ moved moves, fun task ht => ?_⟩
        cases List.mem_append.mp ht with
        | inl ht => exact (each task (List.mem_append_left _ ht)).moved trans moves
        | inr ht =>
          cases List.mem_cons.mp ht with
          | inl he => rw [he]; exact holds_of_yields refl yields
          | inr ht => exact (each task (List.mem_append_right _ (List.mem_cons_of_mem _ ht))).moved trans moves
    | drift moves =>
      have moves := drifts _ _ moves
      exact ⟨trans _ _ _ moved moves, fun task ht => (each task ht).moved trans moves⟩

end Crowd

end Keychord
