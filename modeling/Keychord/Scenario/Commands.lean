import Keychord.Scenario.Handler
import Keychord.Scenario.Journal
import Keychord.Scenario.Report

namespace Keychord.Scenario.Commands

inductive Step
  | register (id description category : String) (handler : Option (Handler Step))
  | unregister (command : String)
  | execute (command : String) (arguments : List (Scalar × Value))
  | has (command : String)
  | info (command : String)
  deriving Inhabited

structure World where
  registry : Registry (Handler Step)
  journal : Journal

def write (entry : Value) : Action World Unit :=
  modify fun world => { world with journal := world.journal.write entry }

abbrev Job : Type := Handler Step × String

def answer (perform : Step → Action World Value) :
    (request : Registry.Request (Handler Step) Job) →
      Action World ((Registry.surroundings (Handler Step) Job).Answer request)
  | .telemetry op =>
    (Journal.onTelemetry (Telemetry.perform op)).onPart World.journal
      fun journal world => { world with journal := journal }
  | .publish event => write (eventEntry event.name event.payload)
  | .invoke handler context => do
    write (callEntry context)
    if handler.awaited then return some (handler, context.command)
    handler.body write perform
    return none
  | .await (handler, command) => do
    handler.body write perform
    write (resumedEntry command)

def onRegistry {α : Type} (perform : Step → Action World Value) (step : Registry.Step (Handler Step) Job α) :
    Action World α := do
  (step (← get).registry).drive World.registry (fun registry world => { world with registry := registry })
    (answer perform)

def performWith (perform : Step → Action World Value) : Step → Action World Value
  | .register id description category handler => do
    let info ← Action.ofExcept (CommandInfo.make id description category)
    onRegistry perform (Registry.register info handler)
    return .null
  | .unregister command => do
    onRegistry perform (Registry.unregister command)
    return .null
  | .execute command arguments => do
    onRegistry perform (Registry.execute command arguments)
    return .null
  | .has command => do return .bool ((← get).registry.has command)
  | .info command => do
    return match (← get).registry.info? command with
      | some info => infoValue info
      | none => .null

def performTo : Nat → Step → Action World Value
  | 0 => fun _ => throw .nestedTooDeep
  | depth + 1 => performWith (performTo depth)

def nestingLimit : Nat := 200

def stage : Stage World Step Value where
  perform := performTo nestingLimit
  takeLog world :=
    let (log, journal) := world.journal.take
    (log, { world with journal := journal })
  see world := .list (world.registry.all.map infoValue)

def play (journal : Journal) (services : List (Scalar × Value)) (steps : List Step) : List (Report Value) :=
  stage.play steps ⟨{ services := services }, journal⟩

end Keychord.Scenario.Commands
