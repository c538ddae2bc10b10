import Keychord.Key.Target

namespace Keychord.Terminal

structure Widget where
  classes : List String

def rootClass : String := "object"

def textClasses : List (String × String) := [("Input", "input"), ("TextArea", "textarea"), ("Select", "select")]

namespace Widget

def allClasses (widget : Widget) : List String := widget.classes ++ [rootClass]

def tag (widget : Widget) : String :=
  match widget.allClasses.findSome? fun name => textClasses.lookup name with
  | some tag => tag
  | none => Text.lower (widget.allClasses.headD rootClass)

def target (widget : Widget) : Target := .ofTag widget.tag

end Widget

end Keychord.Terminal
