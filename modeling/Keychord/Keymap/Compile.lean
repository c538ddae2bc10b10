import Keychord.Keymap.Conflict
import Keychord.Keymap.Node
import Keychord.OrderedMap
import Keychord.Value

namespace Keychord

structure Keymap where
  leader : Key
  timeout : Int
  bindings : OrderedMap String String
  root : Keymap.Node

namespace Keymap

def defaultTimeout : Int := 500

def empty : Keymap := ⟨Notation.defaultLeader, defaultTimeout, .empty, {}⟩

inductive Fault
  | malformed (error : Notation.Error)
  | conflict (conflict : Conflict)
  | missingCommand (source : String)
  deriving DecidableEq, Repr

def missingCommandMessage (source : String) : String :=
  "Binding " ++ Text.quoted source ++ " needs a non-empty command id"

def Fault.message : Fault → String
  | malformed error => error.message
  | conflict c => c.message
  | missingCommand source => missingCommandMessage source

-- Reads one binding. A missing command is reported before a fault of the notation.
def readBinding (leader : Key) (source command : String) : Except Fault Binding :=
  if command = "" then .error (.missingCommand source)
  else
    match Notation.parse leader source with
    | .error error => .error (.malformed error)
    | .ok keys => .ok ⟨source, keys, command⟩

def readBindings (leader : Key) : List (String × String) → Except Fault (List Binding)
  | [] => .ok []
  | (source, command) :: rest => do
    let b ← readBinding leader source command
    let bs ← readBindings leader rest
    return b :: bs

def treeOf (bindings : List Binding) : Node :=
  bindings.foldl (fun node b => node.insert b.edges b.command) {}

def compile (leader : Notation.Leader) (timeout : Int) (bindings : OrderedMap String String) : Except Fault Keymap :=
  match leader.toKey with
  | .error error => .error (.malformed error)
  | .ok key => do
    let parsed ← readBindings key bindings.entries
    match firstConflict? parsed with
    | some c => .error (.conflict c)
    | none => .ok ⟨key, timeout, bindings, treeOf parsed⟩

def ofLoose (bindings : OrderedMap String Value) : OrderedMap String String :=
  bindings.mapValues fun value => value.asText?.getD ""

def insert (keymap : Keymap) (keys : List Key) (command : String) : Keymap :=
  { keymap with root := keymap.root.insert (keys.map Key.edge) command }

def lookup (keymap : Keymap) (keys : List Key) : Option Node := keymap.root.find? (keys.map Key.edge)

end Keymap

end Keychord
