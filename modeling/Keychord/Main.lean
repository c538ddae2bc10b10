import Keychord.CommandLine.Basic
import Keychord.Scenario.App

namespace Keychord.Main

open Keychord.Scenario

def variableStem : String := "GRAPH_KEYS_"

def variableNames : List String :=
  ["LEADER", "TIMEOUT_MS", "LOGGER", "LOG_LEVEL", "DISABLE_CONSOLE", "NO_COLOR", "LOG_JSON", "LOG_FILE", "LOG_BUFFERED",
    "LOG_BUFFER_SIZE"]

def readEnvironment : IO Environment := do
  let found ← variableNames.filterMapM fun name => do
    return (← IO.getEnv (variableStem ++ name)).map fun value => (name, value)
  return ⟨found⟩

def helpText : String :=
  "usage: keychord [--leader KEY] [--timeout-ms MS] [--bind NOTATION=COMMAND] [--log-preset PRESET]"

def stepOf (line : String) : App.Step :=
  if line = "" then .fire (-1)
  else .key line (if line.length = 1 then some line else none) none

def printLog (log : List Value) : IO Unit :=
  for entry in log do
    match entry with
    | .list [.scalar (.text "update"), .scalar (.text line), .scalar (.text text)] => IO.println (line ++ ": " ++ text)
    | _ => pure ()

def playStep (app : App.State) (step : App.Step) : IO App.State := do
  let (report, app) := App.stage.report (App.perform step) app
  printLog report.log
  match report.result with
  | .ok _ => pure ()
  | .error failure => IO.eprintln failure.message
  return app

partial def readLines (input : IO.FS.Stream) (app : App.State) : IO Unit := do
  let line ← input.getLine
  if line = "" then return
  readLines input (← playStep app (stepOf line.trimAscii.toString))

def run (env : Environment) (config : Config) : IO Unit := do
  let app ← playStep (App.start ⟨.start env, false, []⟩ config) .mount
  readLines (← IO.getStdin) app

end Keychord.Main

def main (words : List String) : IO UInt32 := do
  let env ← Keychord.Main.readEnvironment
  let (outcome, _) := Keychord.CommandLine.start words (.start env)
  match outcome with
  | .error failure =>
    IO.eprintln (failure.kind ++ ": " ++ failure.message)
    return 1
  | .ok (.error .help) =>
    IO.println Keychord.Main.helpText
    return 0
  | .ok (.error .usage) =>
    IO.eprintln Keychord.Main.helpText
    return 2
  | .ok (.error exit) =>
    IO.eprintln exit.status
    return 1
  | .ok (.ok config) =>
    Keychord.Main.run env config
    return 0
