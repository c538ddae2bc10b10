import Keychord.Scenario.Report
import Keychord.Timer

namespace Keychord.Scenario.Timers

open Keychord.Timer

-- One step. The steps of a timer are played when it goes off.
inductive Step
  | later (name : String) (delay : Delay) (steps : List Step)
  | cancel (name : String)
  | process
  | force
  | advance (delay : Delay)
  | raise (kind message : String)
  deriving Inhabited

namespace Step

def name : Step → String
  | later .. => "later"
  | cancel _ => "cancel"
  | process => "process"
  | force => "force"
  | advance _ => "advance"
  | raise .. => "raise"

mutual

def timers : Step → Nat
  | later _ _ steps => timersOfAll steps + 1
  | _ => 0

def timersOfAll : List Step → Nat
  | [] => 0
  | step :: rest => step.timers + timersOfAll rest

end

end Step

structure Callback where
  name : String
  steps : List Step

structure World where
  now : Float := 100.0
  schedule : Schedule Callback := {}
  numbers : OrderedMap String Nat := .empty
  log : List Value := []

def write (entry : Value) : Action World Unit := modify fun world => { world with log := world.log ++ [entry] }

def playThen (perform : Step → Action World Value) : List Step → Action World Unit
  | [] => pure ()
  | step :: rest => do
    let result ← perform step
    write (.list [.text "then", .text step.name, result])
    playThen perform rest

def goOff (perform : Step → Action World Value) (callback : Callback) : Action World Unit := do
  write (.list [.text "fired", .text callback.name])
  playThen perform callback.steps

def runPass (perform : Step → Action World Value)
    (pass : Program (Schedule.surroundings Callback) (Schedule Callback) Nat) : Action World Value := do
  let fired ← (pass (← get).schedule).drive World.schedule
    (fun schedule world => { world with schedule := schedule }) (goOff perform)
  return .int fired

def performWith (perform : Step → Action World Value) : Step → Action World Value
  | .later name delay steps => do
    let timer ← (Schedule.arm (← get).now delay ⟨name, steps⟩).onPart World.schedule
      fun schedule world => { world with schedule := schedule }
    modify fun world => { world with numbers := world.numbers.insert name timer.number }
    return .list [.int timer.number, .scalar (.double timer.deadline)]
  | .cancel name => do
    match (← get).numbers.get? name with
    | none => throw (.noSuchName name)
    | some number =>
      modify fun world => { world with schedule := world.schedule.disarm number }
      return .null
  | .process => do runPass perform (Schedule.process (← get).now)
  | .force => runPass perform Schedule.force
  | .advance delay => do
    let seconds ← Action.ofExcept delay.seconds
    modify fun world => { world with now := world.now + seconds }
    return .null
  | .raise kind message => throw (.raised kind message)

def performTo : Nat → Step → Action World Value
  | 0 => fun _ => throw .nestedTooDeep
  | depth + 1 => performWith (performTo depth)

-- The stage of timers, for steps that can make a given number of them. Each goes off once, so passes are not nested
-- deeper than that.
def stage (timers : Nat) : Stage World Step Value where
  perform := performTo (timers + 1)
  takeLog world := (world.log, { world with log := [] })
  see world := .int world.schedule.pending.length

def play (steps : List Step) : List (Report Value) := (stage (Step.timersOfAll steps)).play steps {}

end Keychord.Scenario.Timers
