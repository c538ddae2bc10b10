import Keychord.Config.Pairs
import Keychord.Environment

namespace Keychord

-- A configuration. Only `Config.build` makes one, and it checks the leader, then the time, then the bindings in their
-- order.
structure Config where
  leader : String
  timeout : Int
  bindings : OrderedMap String String
  deriving DecidableEq, Repr

namespace Config

def standardLeader : String := " "

def defaultLeader (env : Environment) : String := (env.readNonempty? "LEADER").getD standardLeader

-- The time that the environment sets. A text that is no whole number is passed over.
def defaultTimeout (env : Environment) : Int :=
  match env.read? "TIMEOUT_MS" with
  | none => Keymap.defaultTimeout
  | some raw => (Text.readInt raw).toOption.getD Keymap.defaultTimeout

def nonempty? (value : Value) : Option String := value.asText?.filter (· ≠ "")

def checkTimeout : Value → Except Fault Int
  | .scalar (.int n) => if n ≤ 0 then .error .timeoutNotPositive else .ok n
  | _ => .error .timeoutNotWhole

def invalidNotation (key : Scalar) : Fault :=
  match key.literal? with
  | some shown => .invalidNotation shown
  | none => .unshownNotation

def checkBinding (key : Scalar) (value : Value) : Except Fault (String × String) :=
  match nonempty? (.scalar key) with
  | none => .error (invalidNotation key)
  | some source =>
    match nonempty? value with
    | none => .error (.missingCommand source)
    | some command => .ok (source, command)

def checkBindings : List (Scalar × Value) → Except Fault (List (String × String))
  | [] => .ok []
  | (key, value) :: rest => do
    let b ← checkBinding key value
    let bs ← checkBindings rest
    return b :: bs

def build (leader timeout : Value) (bindings : OrderedMap Scalar Value) : Except Fault Config :=
  match nonempty? leader with
  | none => .error .emptyLeader
  | some leader => do
    let timeout ← checkTimeout timeout
    let entries ← checkBindings bindings.entries
    return ⟨leader, timeout, ⟨entries⟩⟩

def looseBindings (bindings : OrderedMap String String) : OrderedMap Scalar Value :=
  ⟨bindings.entries.map fun (source, command) => (.text source, .text command)⟩

-- A configuration with more bindings. A notation that is there already keeps its place and takes the new command.
def withBindings (config : Config) (more : OrderedMap Scalar Value) : Except Fault Config :=
  build (.text config.leader) (.int config.timeout) ((looseBindings config.bindings).update more)

def timeoutNames : List String := ["timeout_ms", "timeoutMs", "timeout"]

def wholeIfExact : Value → Value
  | .scalar (.double x) =>
    match Number.toInt? x with
    | some n => .int n
    | none => .scalar (.double x)
  | value => value

def given? (data : OrderedMap Scalar Value) (name : String) : Option Value :=
  (data.get? (.text name)).filter (!·.isNull)

-- Makes a configuration of data read from elsewhere. What it does not give is taken from the environment.
def ofData (env : Environment) (data : OrderedMap Scalar Value) : Except Fault Config := do
  let timeout := (timeoutNames.findSome? (given? data)).map wholeIfExact
  let bindings ← mappingOf ((data.get? (.text "bindings")).getD .null)
  build ((given? data "leader").getD (.text (defaultLeader env))) (timeout.getD (.int (defaultTimeout env))) bindings

def stockBindings : OrderedMap String String := ⟨[
  ("k", "navigation.up"), ("j", "navigation.down"), ("h", "navigation.left"), ("l", "navigation.right"),
  ("w", "navigation.clockwiseConnected"), ("b", "navigation.counterClockwiseConnected"),
  ("n", "navigation.clockwiseActive"), ("N", "navigation.counterClockwiseActive"),
  ("<Space>", "graph.toggleSelect"), ("+", "graph.zoomIn"), ("-", "graph.zoomOut")]⟩

-- What may be changed about the stock configuration. Null stands for what is not changed.
structure Changes where
  leader : Value := .null
  timeout : Value := .null
  included : Option (List Value) := none
  excluded : List Value := []
  extra : OrderedMap Scalar Value := .empty

-- The values of a list that is to be searched for texts. It cannot hold lists and maps, and an error is never the text.
def searchable : List Value → Except Fault (List Scalar)
  | [] => .ok []
  | .scalar s :: rest => (searchable rest).map (s :: ·)
  | .error .. :: rest => searchable rest
  | value :: _ => .error (.unhashable (kindName value))

def selects (included : Option (List Scalar)) (excluded : List Scalar) (command : String) : Bool :=
  (match included with
    | none => true
    | some commands => commands.contains (.text command)) && !excluded.contains (.text command)

def selected (changes : Changes) : Except Fault (OrderedMap String String) := do
  let included ← changes.included.mapM searchable
  let excluded ← searchable changes.excluded
  return ⟨stockBindings.entries.filter fun (_, command) => selects included excluded command⟩

def orElse (value other : Value) : Value := if value.isNull then other else value

def stock (env : Environment) (changes : Changes) : Except Fault Config := do
  let bindings ← selected changes
  build (orElse changes.leader (.text (defaultLeader env))) (orElse changes.timeout (.int (defaultTimeout env)))
    ((looseBindings bindings).update changes.extra)

end Config

end Keychord
