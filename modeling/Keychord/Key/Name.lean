import Keychord.Key

namespace Keychord.Key

def spellings : List (String × String) := [
  ("space", " "), ("tab", "Tab"), ("enter", "Enter"), ("escape", "Escape"), ("esc", "Escape"),
  ("bs", "Backspace"), ("backspace", "Backspace"), ("del", "Delete"), ("delete", "Delete"), ("up", "ArrowUp"),
  ("down", "ArrowDown"), ("left", "ArrowLeft"), ("right", "ArrowRight"), ("lt", "<"), ("gt", ">")]

def shownNames : List (String × String) := [
  (" ", "Space"), ("Tab", "Tab"), ("Enter", "Enter"), ("Escape", "Esc"), ("Backspace", "BS"), ("Delete", "Del"),
  ("ArrowUp", "Up"), ("ArrowDown", "Down"), ("ArrowLeft", "Left"), ("ArrowRight", "Right"), ("<", "lt"), (">", "gt")]

def nameOf? (spelling : String) : Option String := spellings.lookup (Text.lower spelling)

def shown? (name : String) : Option String := shownNames.lookup name

def modifierNames : List String :=
  ["Shift", "Control", "Alt", "AltGraph", "Meta", "OS", "Super", "CapsLock"]

end Keychord.Key
