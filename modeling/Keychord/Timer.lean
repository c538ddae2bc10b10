import Keychord.Number.Double
import Keychord.Program

namespace Keychord.Timer

inductive Delay
  | whole (ms : Int)
  | real (ms : Float)

-- A time to wait in seconds. A whole number beyond the range of doubles has none.
def Delay.seconds : Delay → Except Failure Float
  | whole ms =>
    match Number.ofInt? ms with
    | some x => .ok (x / 1000.0)
    | none => .error .delayTooLong
  | real ms => .ok (ms / 1000.0)

structure Pending (κ : Type) where
  number : Nat
  deadline : Float
  callback : κ

-- The timers that wait, oldest first, and the number of the last timer that was made.
structure Schedule (κ : Type) where
  pending : List (Pending κ) := []
  made : Nat := 0

namespace Schedule

variable {κ : Type}

-- Makes a timer. A number is used up even if there is no such time to wait.
def arm (now : Float) (delay : Delay) (callback : κ) : Action (Schedule κ) (Pending κ) := do
  modify fun schedule => { schedule with made := schedule.made + 1 }
  let seconds ← Action.ofExcept delay.seconds
  let timer : Pending κ := ⟨(← get).made, now + seconds, callback⟩
  modify fun schedule => { schedule with pending := schedule.pending ++ [timer] }
  return timer

def disarm (schedule : Schedule κ) (number : Nat) : Schedule κ :=
  { schedule with pending := schedule.pending.filter (·.number ≠ number) }

def waits (schedule : Schedule κ) (number : Nat) : Bool := schedule.pending.any (·.number = number)

def due (schedule : Schedule κ) (now : Float) : List (Pending κ) := schedule.pending.filter (·.deadline ≤ now)

def surroundings (κ : Type) : Interface := ⟨κ, fun _ => Unit⟩

def fire : List (Pending κ) → Program (surroundings κ) (Schedule κ) Nat
  | [] => pure 0
  | timer :: rest => do
    if (← get).waits timer.number then
      modify (·.disarm timer.number)
      Program.request (I := surroundings κ) timer.callback
      let fired ← fire rest
      return fired + 1
    else fire rest

def process (now : Float) : Program (surroundings κ) (Schedule κ) Nat := do
  fire ((← get).due now)

def force : Program (surroundings κ) (Schedule κ) Nat := do
  fire (← get).pending

end Schedule

end Keychord.Timer
