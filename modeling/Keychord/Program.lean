import Keychord.Failure

namespace Keychord

-- A computation over a state that may fail. What it did to the state before it failed stays done.
abbrev Action (σ α : Type) : Type := ExceptT Failure (StateM σ) α

namespace Action

variable {σ τ α : Type}

def ofExcept (outcome : Except Failure α) : Action σ α := fun s => (outcome, s)

def attempt (action : Action σ α) : Action σ (Except Failure α) := fun s =>
  let (outcome, s) := action s
  (.ok outcome, s)

def onPart (load : σ → τ) (store : τ → σ → σ) (action : Action τ α) : Action σ α := fun s =>
  let (outcome, part) := action (load s)
  (outcome, store part s)

end Action

structure Interface where
  Request : Type
  Answer : Request → Type

-- A component that runs: it has come to its end, or it waits for the answer to a request. Others may call it meanwhile,
-- so the state with which it goes on need not be the one with which it stopped.
inductive Run (I : Interface) (σ α : Type) : Type
  | finished (outcome : Except Failure α) (state : σ)
  | waiting (request : I.Request) (state : σ)
      (resume : Except Failure (I.Answer request) → σ → Run I σ α)

def Program (I : Interface) (σ α : Type) : Type := σ → Run I σ α

namespace Run

variable {I : Interface} {σ α β ω : Type}

def andThen (next : Except Failure α → Program I σ β) : Run I σ α → Run I σ β
  | finished outcome s => next outcome s
  | waiting request s resume => waiting request s fun answer s => (resume answer s).andThen next

def drive (load : ω → σ) (store : σ → ω → ω)
    (answer : (request : I.Request) → Action ω (I.Answer request)) : Run I σ α → Action ω α
  | finished outcome s => fun world => (outcome, store s world)
  | waiting request s resume => fun world =>
    let (reply, world) := answer request (store s world)
    (resume reply (load world)).drive load store answer world

theorem andThen_andThen {γ : Type} (first : Except Failure α → Program I σ β)
    (second : Except Failure β → Program I σ γ) (run : Run I σ α) :
    (run.andThen first).andThen second = run.andThen fun outcome s => (first outcome s).andThen second := by
  induction run with
  | finished outcome s => rfl
  | waiting request s resume ih => simp [andThen, ih]

theorem andThen_finished (run : Run I σ α) : (run.andThen fun outcome s => .finished outcome s) = run := by
  induction run with
  | finished outcome s => rfl
  | waiting request s resume ih => simp [andThen, ih]

end Run

namespace Program

variable {I : Interface} {σ α β : Type}

def bind (program : Program I σ α) (next : α → Program I σ β) : Program I σ β := fun s =>
  (program s).andThen fun
    | .ok a => next a
    | .error failure => fun s => .finished (.error failure) s

instance : Monad (Program I σ) where
  pure a := fun s => .finished (.ok a) s
  bind := bind

instance : LawfulMonad (Program I σ) := LawfulMonad.mk' _
  (fun program => by
    funext s
    refine Eq.trans (congrArg (program s).andThen ?_) (program s).andThen_finished
    funext outcome
    cases outcome <;> rfl)
  (fun _ _ => rfl)
  (fun program first second => by
    funext s
    refine Eq.trans (Run.andThen_andThen _ _ (program s)) (congrArg (program s).andThen ?_)
    funext outcome
    cases outcome <;> rfl)

instance : MonadStateOf σ (Program I σ) where
  get := fun s => .finished (.ok s) s
  set s := fun _ => .finished (.ok ()) s
  modifyGet f := fun s => let (a, s) := f s; .finished (.ok a) s

def fail (failure : Failure) : Program I σ α := fun s => .finished (.error failure) s

def handle (program : Program I σ α) (handler : Failure → Program I σ α) : Program I σ α := fun s =>
  (program s).andThen fun
    | .ok a => fun s => .finished (.ok a) s
    | .error failure => handler failure

instance : MonadExceptOf Failure (Program I σ) where
  throw := fail
  tryCatch := handle

def attempt (program : Program I σ α) : Program I σ (Except Failure α) := fun s =>
  (program s).andThen fun outcome s => .finished (.ok outcome) s

def ofExcept (outcome : Except Failure α) : Program I σ α := fun s => .finished outcome s

def request (r : I.Request) : Program I σ (I.Answer r) := fun s => .waiting r s .finished

end Program

end Keychord
