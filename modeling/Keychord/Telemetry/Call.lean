import Keychord.Value

namespace Keychord.Telemetry

inductive Setting
  | minLevel (level : String)
  | consoleOutput (on : Bool)
  | coloredOutput (on : Bool)
  | jsonFormat (on : Bool)
  | fileOutput (file : String)
  | buffering (on : Bool)
  | bufferSize (lines : Int)
  | profiling (on : Bool)
  deriving DecidableEq, Repr

def Setting.name : Setting → String
  | minLevel _ => "with_min_level"
  | consoleOutput _ => "with_console_output"
  | coloredOutput _ => "with_colored_output"
  | jsonFormat _ => "with_json_format"
  | fileOutput _ => "with_file_output"
  | buffering _ => "with_buffering"
  | bufferSize _ => "with_buffer_size"
  | profiling _ => "with_profiling"

def Setting.value : Setting → Value
  | minLevel s | fileOutput s => .text s
  | consoleOutput b | coloredOutput b | jsonFormat b | buffering b | profiling b => .bool b
  | bufferSize n => .int n

inductive Block
  | profile
  | component
  deriving DecidableEq, Repr

def Block.name : Block → String
  | profile => "profile"
  | component => "component"

-- A logger and the settings with which it was made. Loggers of one name are told apart by their numbers.
structure Logger where
  name : String
  settings : List Setting
  number : Nat
  deriving DecidableEq, Repr

-- One call on the log. Settings become active with the last of them, which is always the same. A context key belongs to
-- the logger that is given with it; the sort of the failure that leaves a block is given when the block is left.
inductive Call
  | set (setting : Setting)
  | activate (settings : List Setting)
  | logger (made : Logger)
  | addContext (logger : Logger) (key : Scalar) (value : String)
  | removeContext (logger : Logger) (key : Scalar)
  | enter (logger : Logger) (block : Block) (name : String)
  | leave (logger : Logger) (block : Block) (name : String) (failure : Option String)
  | line (logger : Logger) (level message : String) (fields : List (String × String))
  | plainLine (logger : Logger) (level message : String)
  deriving DecidableEq, Repr

def lastSetting : Setting := .profiling true

def Setting.toValue (setting : Setting) : Value := .list [.text "config", .text setting.name, setting.value]

def Call.toValue : Call → Value
  | set setting => setting.toValue
  | activate _ => lastSetting.toValue
  | logger made => .list [.text "logger", .text made.name]
  | addContext _ key value => .list [.text "add_context", .scalar key, .text value]
  | removeContext _ key => .list [.text "remove_context", .scalar key]
  | enter _ block name => .list [.text "enter", .text block.name, .text name]
  | leave _ block name failure => .list [.text "exit", .text block.name, .text name, .ofText? failure]
  | line owner level message fields =>
    .list [.text "log", .text owner.name, .text level, .text message,
      .list (fields.map fun (key, value) => .list [.text key, .text value])]
  | plainLine owner level message => .list [.text "log", .text owner.name, .text level, .text message]

end Keychord.Telemetry
