import Keychord.Scenario.Session.World

namespace Keychord.Scenario.Session

def updateEntry (line text : String) : Value := .list [.text "update", .text line, .text text]

def update (line text : String) : Act Unit := write (updateEntry line text)

def hookEntry (hook text : String) : Value := .list [.text "ui", .text hook, .text text]

def display (shown : Terminal.Display) : Act Unit := do
  match (← get).screen, shown with
  | .none, _ => pure ()
  | .hooks, .pending keys => write (hookEntry "pending" keys)
  | .hooks, .status text => write (hookEntry "status" text)
  | .hooks, .log text => write (hookEntry "log" text)
  | .app, .pending keys => update "#pending-line" keys
  | .app, .status text => update "#status-line" text
  | .app, .log _ => pure ()

def shownLines : Nat := 50

def commandLine (payload : Value) : Except Failure String := do
  let mark := if ((payload.field? "success").getD .null).truthy then "ok" else "failed"
  let command ← Terminal.Observer.fieldText payload "command_id" .null
  return command ++ " [" ++ mark ++ "]"

def lastLines (count : Nat) (lines : List String) : List String := lines.drop (lines.length - count)

def logCommand (payload : Value) : Act Unit := do
  if payload.isMap then
    let line ← Action.ofExcept (commandLine payload)
    modify fun world => { world with lines := world.lines ++ [line] }
    update "#command-log" ("\n".intercalate (lastLines shownLines (← get).lines))

end Keychord.Scenario.Session
