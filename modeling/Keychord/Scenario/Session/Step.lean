import Keychord.Config.Basic
import Keychord.Key.Press
import Keychord.Scenario.Handler
import Keychord.Terminal.Focus
import Keychord.Timer

namespace Keychord.Scenario.Session

open Keychord.Timer (Delay)

inductive Step
  | key (press : Press)
  | terminalKey (name : String) (character : Option String) (focus : Option Terminal.Widget)
  | advance (delay : Delay)
  | process
  | force
  | fire (timer : Int)
  | reset
  | close
  | reload (config : Except Failure Config)
  | binding (source : String)
  | bindings
  | info
  | emit (event : String) (payload : Value)
  | unregister (command : String)
  | drain
  | raise (kind message : String)

inductive Finish
  | done
  | raise (kind message : String)
  | cancel

-- What carrying out a command does: it plays steps the first so many times, it fails, or it leaves work that is awaited
-- and pauses so many times before it ends.
inductive Behaviour
  | play (steps : List Step) (times : Nat)
  | raise (kind message : String)
  | leave (pauses : Nat) (finish : Finish)

def Behaviour.nothing : Behaviour := play [] 0

structure Hook where
  event : String
  steps : List Step
  times : Nat := 1

-- How the time to wait is kept: by timers that are polled, or by a host, which is told the time in milliseconds or in
-- seconds.
inductive Clockwork
  | polled
  | hostMillis
  | hostWidget
  | hostLoop
  deriving DecidableEq, Repr

-- What a command of a registry does: what a handler does, or nothing.
abbrev Routine : Type := Option (Handler Step)

-- A command of a registry. Without a routine it cannot be registered.
structure Registration where
  id : String
  description : String
  category : String
  routine : Option Routine

inductive Executor
  | scripted (commands : OrderedMap String Behaviour)
  | registry (services : List (Scalar × Value)) (commands : List Registration)

structure Setup where
  config : Option (Except Failure Config) := none
  clockwork : Clockwork := .polled
  hasBus : Bool := true
  executor : Executor := .scripted .empty
  hooks : List Hook := []
  adapter : Bool := false
  loop : Bool := false

def Behaviour.turns : Behaviour → Nat
  | play _ times => times
  | _ => 0

def Behaviour.pauses : Behaviour → Nat
  | leave pauses _ => pauses
  | _ => 0

def Setup.turns (setup : Setup) : Nat :=
  let commands := match setup.executor with
    | .scripted commands => commands.values
    | .registry .. => []
  commands.foldl (fun turns b => turns + b.turns) (setup.hooks.foldl (fun turns hook => turns + hook.times) 0)

def Setup.longestPause (setup : Setup) : Nat :=
  match setup.executor with
  | .scripted commands => commands.values.foldl (fun longest b => max longest b.pauses) 0
  | .registry _ commands =>
    commands.foldl (fun longest r => max longest ((r.routine.join.map Handler.pauses).getD 0)) 0

end Keychord.Scenario.Session
