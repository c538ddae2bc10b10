import Keychord.Registry

namespace Keychord.Scenario

inductive Ending
  | succeed
  | raise (kind message : String)
  | assign
  deriving DecidableEq, Repr

-- A handler. It carries out its body at once or leaves it to be awaited; the body then pauses so many times before it
-- begins.
structure Handler (step : Type) where
  awaited : Bool := false
  pauses : Nat := 0
  ending : Ending := .succeed
  steps : List step := []

def Ending.failure? : Ending → Option Failure
  | succeed => none
  | raise kind message => some (.raised kind message)
  | assign => some .readOnlyArguments

def infoValue (info : CommandInfo) : Value := .list [.text info.id, .text info.description, .text info.category]

def callEntry (context : CommandContext) : Value :=
  .list [.text "handler", .text context.command, .map context.arguments, .map context.services]

def eventEntry (event : String) (payload : Value) : Value := .list [.text "bus", .text event, payload]

def nestedEntry (result : Value) : Value := .list [.text "nested", result]

def resumedEntry (command : String) : Value := .list [.text "resumed", .text command]

def playNested {ω step : Type} (write : Value → Action ω Unit) (perform : step → Action ω Value) :
    List step → Action ω Unit
  | [] => pure ()
  | s :: rest => do
    let result ← perform s
    write (nestedEntry result)
    playNested write perform rest

def Handler.body {ω step : Type} (handler : Handler step) (write : Value → Action ω Unit)
    (perform : step → Action ω Value) : Action ω Unit := do
  match handler.ending.failure? with
  | some failure => throw failure
  | none => playNested write perform handler.steps

end Keychord.Scenario
