import Keychord.Scenario.Journal
import Keychord.Scenario.Session.Step
import Keychord.Terminal.Adapter

namespace Keychord.Scenario.Session

abbrev Remainder : Type := Handler Step × String

abbrev RegistrySide : Interface := Registry.surroundings Routine Remainder

abbrev RegistryRun : Type := Run RegistrySide (Registry Routine) Unit

inductive Job
  | scripted (command : String) (pauses : Nat) (finish : Finish)
  | registry (command : String)

inductive Rest
  | scripted (command : String) (finish : Finish)
  | handler (remainder : Remainder) (resume : Except Failure Unit → Registry Routine → RegistryRun)

inductive Work
  | fresh (job : Job)
  | paused (left : Nat) (rest : Rest)

-- Who is told that work has come to its end: the matcher that dispatched the command, or whoever runs the loop until
-- then.
inductive Owner
  | matcher (seat : Nat) (command : String)
  | runner

-- A turn of the loop: a piece of work goes on, possibly to be told that it is cancelled, or its owner is told of its
-- end.
inductive Turn
  | step (owner : Owner) (work : Work) (cancelled : Bool)
  | ended (owner : Owner) (outcome : Except Failure Unit)

def Turn.isStep : Turn → Bool
  | step .. => true
  | ended .. => false

def Turn.cancel : Turn → Turn
  | step owner work _ => step owner work true
  | turn => turn

structure Loop where
  queue : List Turn := []
  outcome : Option (Except Failure Unit) := none

inductive Subscriber
  | recorder (event : String)
  | hook (index : Nat)
  | observer (observer : Terminal.Observer)
  | commandLog

structure Seat where
  matcher : Matcher := {}
  bus : Option Nat := none

inductive Screen
  | none
  | hooks
  | app
  deriving DecidableEq, Repr

structure Callback where
  seat : Nat
  expiry : Matcher.Expiry

-- The world. The delivery is that of the press that is being typed.
structure World where
  journal : Journal
  clockwork : Clockwork := .polled
  now : Float := 100.0
  schedule : Timer.Schedule Callback := {}
  hosted : List Callback := []
  seats : List Seat := []
  buses : List (Bus Subscriber) := []
  hooks : List Hook := []
  delivery : Delivery := {}
  commands : OrderedMap String Behaviour := .empty
  registry : Option (Registry Routine) := none
  registryBus : Option Nat := none
  screen : Screen := .none
  lines : List String := []
  loop : Option Loop := none
  patience : Nat := 2

abbrev Act (α : Type) : Type := Action World α

namespace World

def seat (world : World) (i : Nat) : Seat := (world.seats[i]?).getD {}

def matcher (world : World) (i : Nat) : Matcher := (world.seat i).matcher

def setMatcher (i : Nat) (m : Matcher) (world : World) : World :=
  { world with seats := world.seats.modify i fun seat => { seat with matcher := m } }

def bus (world : World) (i : Nat) : Bus Subscriber := (world.buses[i]?).getD {}

def setBus (i : Nat) (bus : Bus Subscriber) (world : World) : World :=
  { world with buses := world.buses.set i bus }

-- The callback of a timer of the host. Timers are numbered from zero in the order in which they were set, and backwards
-- from minus one, which is the last.
def hosted? (world : World) (timer : Int) : Option Callback :=
  match timer with
  | .ofNat n => world.hosted[n]?
  | .negSucc n => world.hosted.reverse[n]?

def commandRegistry (world : World) : Registry Routine := world.registry.getD {}

def setRegistry (registry : Registry Routine) (world : World) : World := { world with registry := some registry }

def enqueue (turn : Turn) (world : World) : World :=
  { world with loop := world.loop.map fun loop => { loop with queue := loop.queue ++ [turn] } }

end World

def write (entry : Value) : Act Unit := modify fun world => { world with journal := world.journal.write entry }

def onTelemetry {α : Type} (action : Action Telemetry α) : Act α :=
  (Journal.onTelemetry action).onPart World.journal fun journal world => { world with journal := journal }

def addBus : Act Nat := do
  let number := (← get).buses.length
  modify fun world => { world with buses := world.buses ++ [{}] }
  return number

def subscribe (bus : Nat) (event : String) (subscriber : Subscriber) : Act Unit :=
  modify fun world => world.setBus bus ((world.bus bus).subscribe event subscriber)

def subscribeRecorders (bus : Nat) : List String → Act Unit
  | [] => pure ()
  | event :: rest => do
    subscribe bus event (.recorder event)
    subscribeRecorders bus rest

end Keychord.Scenario.Session
