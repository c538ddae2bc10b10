import Keychord.Config.Fault

namespace Keychord.Config

def kindName : Value → String
  | .scalar .null => "NoneType"
  | .scalar (.bool _) => "bool"
  | .scalar (.int _) => "int"
  | .scalar (.double _) => "float"
  | .scalar (.text _) => "str"
  | .list _ => "list"
  | .map _ => "dict"
  | .error kind .. => kind

-- The parts of a value that has parts: the items of a list, the characters of a text, the keys of a map.
def parts? : Value → Option (List Value)
  | .list items => some items
  | .map entries => some (entries.map fun entry => .scalar entry.1)
  | .scalar (.text s) => some (s.toList.map fun c => .text (String.singleton c))
  | _ => none

-- The item is data that has been read from elsewhere, so its parts are never errors.
def pairOf (index : Nat) (item : Value) : Except Fault (Scalar × Value) :=
  match parts? item with
  | none => .error (.pairNotSequence index)
  | some [.scalar key, value] => .ok (key, value)
  | some [key, _] => .error (.unhashable (kindName key))
  | some parts => .error (.pairWrongLength index parts.length)

def pairsFrom (index : Nat) : List Value → Except Fault (List (Scalar × Value))
  | [] => .ok []
  | item :: rest => do
    let pair ← pairOf index item
    let pairs ← pairsFrom (index + 1) rest
    return pair :: pairs

-- The mapping that a value describes. A value that counts as false describes the empty one.
def mappingOf (value : Value) : Except Fault (OrderedMap Scalar Value) :=
  if !value.truthy then .ok .empty
  else match value with
    | .map entries => .ok ⟨entries⟩
    | value =>
      match parts? value with
      | none => .error (.notIterable (kindName value))
      | some items => (pairsFrom 0 items).map OrderedMap.ofList

end Keychord.Config
