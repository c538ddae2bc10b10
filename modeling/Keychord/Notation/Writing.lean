import Keychord.Key.Name

namespace Keychord.Notation

def joinLetters : List Char → List Char
  | [] => []
  | [c] => [c]
  | c :: rest => c :: '-' :: joinLetters rest

def shownName (name : String) : String := (Key.shown? name).getD name

def writeKey (key : Key) : String :=
  match key.mods.letters with
  | [] =>
    match Key.shown? key.name with
    | some name => "<" ++ name ++ ">"
    | none => if 1 < key.name.length then "<" ++ key.name ++ ">" else key.name
  | letters => "<" ++ String.ofList (joinLetters letters) ++ "-" ++ shownName key.name ++ ">"

def write (keys : List Key) : String := String.join (keys.map writeKey)

end Keychord.Notation
