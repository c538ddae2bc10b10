import Keychord.Notation.Reading

namespace Keychord.Keymap

structure Binding where
  source : String
  keys : List Key
  command : String
  deriving DecidableEq, Repr

def Binding.edges (b : Binding) : List Edge := b.keys.map Key.edge

def Binding.isChord (b : Binding) : Bool := 1 < b.keys.length

-- Why two bindings cannot stand beside each other: a key that starts a chord would never let it be finished, and the same
-- keys cannot lead to two commands.
inductive Clash
  | startsChord
  | sameKeys
  deriving DecidableEq, Repr

structure Conflict where
  source : String
  clash : Clash
  other : String
  deriving DecidableEq, Repr

def Clash.text : Clash → String
  | startsChord => "is a single key that also starts"
  | sameKeys => "binds the same keys as"

def Conflict.message (c : Conflict) : String :=
  "Keybinding conflict: " ++ Text.quoted c.source ++ " " ++ c.clash.text ++ " " ++ Text.quoted c.other

def startedChord? (all : List Binding) (b : Binding) : Option Binding :=
  match b.edges with
  | [edge] => all.find? fun other => other.isChord && other.edges.head? = some edge
  | _ => none

def sameKeys? (earlier : List Binding) (b : Binding) : Option Binding :=
  (earlier.find? fun other => other.edges = b.edges).filter fun other => other.command ≠ b.command

def conflictOf? (all earlier : List Binding) (b : Binding) : Option Conflict :=
  match startedChord? all b with
  | some other => some ⟨b.source, .startsChord, other.source⟩
  | none => (sameKeys? earlier b).map fun other => ⟨b.source, .sameKeys, other.source⟩

def firstConflict? (all : List Binding) : Option Conflict := go [] all
where
  go (earlier : List Binding) : List Binding → Option Conflict
    | [] => none
    | b :: rest => (conflictOf? all earlier b).or (go (earlier ++ [b]) rest)

end Keychord.Keymap
