import Keychord.Scenario.Session.Play
import Keychord.Terminal.Demo

namespace Keychord.Scenario.App

open Keychord.Scenario.Session

inductive Step
  | compose
  | mount
  | unmount
  | key (name : String) (character : Option String) (focus : Option Terminal.Widget)
  | fire (timer : Int)
  | emit (event : String) (payload : Value)

structure State where
  config : Config
  world : Session.World
  mounted : Option Nat := none

def widgets : List (String × Option String) := [
  ("Header", none), ("Static", some "command-log"), ("Input", some "scratch"), ("Static", some "pending-line"),
  ("Static", some "status-line"), ("Footer", none)]

def quitKeys : List String := ["ctrl+c", "ctrl+q"]

def handledCalls : List String := ["stop", "prevent_default"]

def player : Player := fun _ => throw .nestedTooDeep

def inWorld {α : Type} (act : Act α) : Action State α :=
  act.onPart State.world fun world app => { app with world := world }

-- Adds a matcher with the keymap of a configuration. If there is none, nothing is added.
def addSeat (config : Config) : Act Nat := do
  let seat := (← get).seats.length
  modify fun world => { world with seats := world.seats ++ [{}] }
  match ← (onMatcher player seat (Matcher.reload config)).attempt with
  | .ok _ => return seat
  | .error failure =>
    modify fun world => { world with seats := world.seats.take seat }
    throw failure

def registryBus : Nat := 0

def setUpWorld (config : Config) : Act Unit := do
  let bus ← addBus
  let registrations := (Terminal.demoCommands config).map fun info =>
    (⟨info.id, info.description, info.category, some none⟩ : Registration)
  modify fun world => { world with registry := some {}, registryBus := some bus }
  registerAll player registrations
  subscribe bus "command:afterExecute" .commandLog

def start (journal : Journal) (config : Config) : State :=
  let world : Session.World := { journal := journal, clockwork := .hostWidget }
  ⟨config, (setUpWorld config world).2, none⟩

def perform : Step → Action State Value
  | .compose => return .list (widgets.map fun (sort, name) => .list [.text sort, .ofText? name])
  | .mount => do
    let config := (← get).config
    let seat ← inWorld (addSeat config)
    inWorld (attach seat .app)
    modify fun app => { app with mounted := some seat }
    inWorld (write (.list [.text "set_focus", .null]))
    inWorld (display (.status (toString config.bindings.size ++ " bindings loaded")))
    return .null
  | .unmount => do
    match (← get).mounted with
    | none => return .null
    | some seat =>
      inWorld (onMatcher player seat Matcher.reset)
      return .null
  | .key name character focus => do
    match (← get).mounted with
    | none => return .list []
    | some seat =>
      if quitKeys.contains name then return .list []
      let handled ← inWorld (terminalKey player seat name character focus)
      return .list ((if handled then handledCalls else []).map .text)
  | .fire timer => do
    inWorld (fire player timer)
    return .null
  | .emit event payload => do
    inWorld (emitOn player registryBus event payload)
    return .null

def stage : Stage State Step Value where
  perform := perform
  takeLog app :=
    let (log, journal) := app.world.journal.take
    (log, { app with world := { app.world with journal := journal } })
  see _ := .null

def play (journal : Journal) (config : Config) (steps : List Step) : List CommandInfo × List (Report Value) :=
  let app := start journal config
  (app.world.commandRegistry.all, stage.play steps app)

end Keychord.Scenario.App
