import Keychord.Bus
import Keychord.Scenario.Journal
import Keychord.Scenario.Report

namespace Keychord.Scenario.Messages

inductive Step
  | subscribe (event callback : String) (handle : String)
  | unsubscribe (event callback : String)
  | dispose (handle : String)
  | emit (event : String) (payload : Value)
  | raise (kind message : String)

structure Callback where
  steps : List Step := []
  times : Nat := 1

structure World where
  bus : Bus String := {}
  callbacks : OrderedMap String Callback
  handles : OrderedMap String (String × String) := .empty
  journal : Journal

def changeBus (change : Bus String → Bus String) : Action World Unit :=
  modify fun world => { world with bus := change world.bus }

def takeSteps (name : String) : Action World (List Step) := do
  match (← get).callbacks.get? name with
  | some ⟨steps, times + 1⟩ =>
    modify fun world => { world with callbacks := world.callbacks.insert name ⟨steps, times⟩ }
    return steps
  | _ => return []

def performAll (perform : Step → Action World Unit) : List Step → Action World Unit
  | [] => pure ()
  | step :: rest => do
    perform step
    performAll perform rest

def answer (perform : Step → Action World Unit) :
    (request : Bus.Request String) → Action World ((Bus.surroundings String).Answer request)
  | .call name payload => do
    modify fun world => { world with journal := world.journal.write (.list [.text name, payload]) }
    performAll perform (← takeSteps name)
  | .telemetry op =>
    (Journal.onTelemetry (Telemetry.perform op)).onPart World.journal
      fun journal world => { world with journal := journal }

def performWith (perform : Step → Action World Unit) : Step → Action World Unit
  | .subscribe event callback handle => do
    changeBus (·.subscribe event callback)
    modify fun world => { world with handles := world.handles.insert handle (event, callback) }
  | .unsubscribe event callback => changeBus (·.unsubscribe event callback)
  | .dispose handle => do
    match (← get).handles.get? handle with
    | none => throw (.noSuchName handle)
    | some (event, callback) => changeBus (·.unsubscribe event callback)
  | .emit event payload => fun world =>
    (Bus.emit event payload world.bus).drive World.bus (fun bus world => { world with bus := bus })
      (answer perform) world
  | .raise kind message => throw (.raised kind message)

def performTo : Nat → Step → Action World Unit
  | 0 => fun _ => throw .nestedTooDeep
  | depth + 1 => performWith (performTo depth)

-- How often subscribers play steps in all. Steps are not nested deeper than that.
def turns (callbacks : OrderedMap String Callback) : Nat := callbacks.values.foldl (fun turns c => turns + c.times) 0

def stage (depth : Nat) (events : List String) : Stage World Step Unit where
  perform := performTo depth
  takeLog world :=
    let (log, journal) := world.journal.take
    (log, { world with journal := journal })
  see world := .record (events.map fun event => (event, .int (world.bus.count event)))

def play (journal : Journal) (callbacks : OrderedMap String Callback) (events : List String) (steps : List Step) :
    List (Report Unit) :=
  (stage (turns callbacks + 1) events).play steps { callbacks := callbacks, journal := journal }

end Keychord.Scenario.Messages
