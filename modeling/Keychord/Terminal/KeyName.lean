import Keychord.Key.Press
import Keychord.Text.Split

namespace Keychord.Terminal

def keyNames : List (String × String) := [
  ("space", " "), ("tab", "Tab"), ("enter", "Enter"), ("return", "Enter"), ("escape", "Escape"),
  ("backspace", "Backspace"), ("delete", "Delete"), ("up", "ArrowUp"), ("down", "ArrowDown"), ("left", "ArrowLeft"),
  ("right", "ArrowRight")]

def parts (name : String) : List String × String :=
  if name = "+" then ([], "+")
  else
    match (Text.split '+' name.toList).reverse with
    | [] => ([], "")
    | base :: words => (words.reverse.map String.ofList, String.ofList base)

-- The modifiers that words name, in any letter case. Other words name none.
def modifiersOf (words : List String) : Modifiers :=
  let names := words.map Text.lower
  { ctrl := names.contains "ctrl", shift := names.contains "shift",
    alt := names.contains "alt" || names.contains "meta", super := names.contains "super" }

def visible? (character : Option String) : Option String :=
  character.filter fun s =>
    match s.toList with
    | [c] => Text.isPrintable c
    | _ => false

def named? (base : String) : Option String :=
  if 1 < base.length then keyNames.lookup (Text.lower base) else none

def press (name : String) (character : Option String) (target : Option Target) : Press :=
  let (words, base) := parts name
  let mods := modifiersOf words
  let typed := if mods.ctrl then none else visible? character
  ⟨((named? base).or typed).getD base, mods, target⟩

end Keychord.Terminal
