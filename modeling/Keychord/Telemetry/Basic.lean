import Keychord.Environment
import Keychord.Program
import Keychord.Telemetry.Call

namespace Keychord

-- The state of telemetry: the name that loggers have unless another is given, the active settings, the loggers made
-- with them by their names, how many loggers have ever been made, and the calls so far. The default name is read from
-- the environment once, before anything else happens.
structure Telemetry where
  environment : Environment := {}
  defaultName : String := "graph_keys"
  active : Option (List Telemetry.Setting) := none
  loggers : OrderedMap String Telemetry.Logger := .empty
  made : Nat := 0
  calls : List Telemetry.Call := []

namespace Telemetry

def start (env : Environment) : Telemetry :=
  { environment := env, defaultName := (env.read? "LOGGER").getD "graph_keys" }

def call (c : Call) : Action Telemetry Unit := modify fun t => { t with calls := t.calls ++ [c] }

def makeSettings : List Setting → Action Telemetry Unit
  | [] => pure ()
  | setting :: rest => do
    call (.set setting)
    makeSettings rest

def preset? (env : Environment) (name : String) : Option (List Setting) :=
  match Text.lower name with
  | "development" => some [.minLevel "DEBUG", .consoleOutput true, .coloredOutput true, .jsonFormat false]
  | "production" => some [.minLevel "INFO", .consoleOutput false,
      .fileOutput ((env.readNonempty? "LOG_FILE").getD "graph_keys.log"), .buffering true]
  | "quiet" => some [.minLevel "ERROR", .consoleOutput false]
  | _ => none

def environmentSettings (env : Environment) : List Setting :=
  .minLevel (Text.upper ((env.readNonempty? "LOG_LEVEL").getD "INFO")) ::
    (if env.flag "DISABLE_CONSOLE" false then [.consoleOutput false]
      else [.consoleOutput true, .coloredOutput (!env.flag "NO_COLOR" false)]) ++
    (if env.flag "LOG_JSON" false then [.jsonFormat true] else []) ++
    (match env.readNonempty? "LOG_FILE" with
      | some file => [.fileOutput file]
      | none => []) ++
    (if env.flag "LOG_BUFFERED" false then [.buffering true] else [])

def environmentBuffer (env : Environment) : Except Failure (List Setting) :=
  if env.flag "LOG_BUFFERED" false then
    match Text.readInt ((env.readNonempty? "LOG_BUFFER_SIZE").getD "2048") with
    | .ok n => .ok [.bufferSize n]
    | .error fault => .error (.numeral fault)
  else .ok []

def activate (settings : List Setting) : Action Telemetry Unit := do
  let settings := settings ++ [lastSetting]
  call (.activate settings)
  modify fun t => { t with active := some settings, loggers := .empty }

def configureFromEnvironment : Action Telemetry Unit := do
  let env := (← get).environment
  let settings := environmentSettings env
  makeSettings settings
  let buffer ← Action.ofExcept (environmentBuffer env)
  makeSettings buffer
  activate (settings ++ buffer)

def configurePreset (name : String) : Action Telemetry Unit := do
  match preset? (← get).environment name with
  | none => throw (.unknownPreset name)
  | some settings =>
    makeSettings settings
    activate settings

-- Sets up the log: with given settings, as a preset says or, with neither, as the environment asks. An empty name of a
-- preset is no name.
def configure (given : Option (List Setting)) (preset : Option String) : Action Telemetry Unit :=
  match given, preset.filter (· ≠ "") with
  | some _, some _ => throw .presetAndSettings
  | none, some name => configurePreset name
  | some settings, none => activate settings
  | none, none => configureFromEnvironment

-- The settings to make loggers with. Without any, the log is set up first.
def activeSettings : Action Telemetry (List Setting) := do
  match (← get).active with
  | some settings => return settings
  | none =>
    configureFromEnvironment
    return (← get).active.getD []

-- The logger of a name. It is made when it is first asked for.
def getLogger (name : Option String) : Action Telemetry Logger := do
  let t ← get
  let name := (name.filter (· ≠ "")).getD t.defaultName
  match t.loggers.get? name with
  | some logger => return logger
  | none =>
    let settings ← activeSettings
    let logger : Logger := ⟨name, settings, (← get).made⟩
    call (.logger logger)
    modify fun t => { t with loggers := t.loggers.insert name logger, made := t.made + 1 }
    return logger

-- The levels that loggers take with fields, and the one that they only take without. Loggers are not part of this
-- library: that they have these levels and no others, and that nothing that is asked of them fails, is assumed of them.
def fieldLevels : List String := ["debug", "info", "warning", "error", "critical"]

def plainLevel : String := "trace"

def textOf (value : Value) : Except Failure String :=
  match value.text? with
  | some s => .ok s
  | none => .error .numberTooLong

def fieldTexts : List (Scalar × Value) → Except Failure (List (String × String))
  | [] => .ok []
  | (key, value) :: rest => do
    let name ← textOf (.scalar key)
    let shown ← textOf value
    let others ← fieldTexts rest
    return (name, shown) :: others

-- Writes a line. The level is read in any letter case; a plain line has its fields in its message.
def emit (logger : Logger) (level : Value) (message : String) (fields : OrderedMap Scalar Value) :
    Action Telemetry Unit := do
  let given ← Action.ofExcept (textOf level)
  let name := Text.lower given
  if fieldLevels.contains name then
    let texts ← Action.ofExcept (fieldTexts fields.entries)
    call (.line logger name message texts)
  else if name = plainLevel then
    let shown ← Action.ofExcept (textOf (.map fields.entries))
    call (.plainLine logger name (message ++ " " ++ shown))
  else throw (.unknownLevel given)

def record (name : String) (level : Value) (data : OrderedMap Scalar Value) (logger : Option String) :
    Action Telemetry Unit := do
  let logger ← getLogger logger
  let fields : OrderedMap Scalar Value := .ofList [(.text "event", .text name)]
  emit logger level ("event::" ++ name) (fields.update data)

end Telemetry

end Keychord
