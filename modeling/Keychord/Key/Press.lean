import Keychord.Key.Name
import Keychord.Key.Target
import Keychord.Text.Letter

namespace Keychord

structure Press where
  key : String
  mods : Modifiers := {}
  target : Option Target := none

structure Delivery where
  defaultPrevented : Bool := false
  propagationStopped : Bool := false
  deriving DecidableEq, Repr

namespace Delivery

def consume (_ : Delivery) : Delivery := ⟨true, true⟩

def consumed (d : Delivery) : Bool := d.defaultPrevented && d.propagationStopped

end Delivery

namespace Press

def forText (press : Press) : Bool :=
  match press.target with
  | some target => target.takesText
  | none => false

def isFiltered (press : Press) : Bool :=
  press.forText || press.key = "" || Key.modifierNames.contains press.key

-- Hosts report shift also where it was only needed to type the character, so it counts for letters, the space and longer
-- names alone. A capital of ASCII is its letter with shift.
def toKey? (press : Press) : Option Key :=
  match press.key.toList with
  | [c] =>
    if Text.isAsciiUpper c then
      Key.ofName? (Text.lower press.key) { press.mods with shift := true }
    else if c ≠ ' ' && !Text.isLetter c then
      Key.ofName? press.key { press.mods with shift := false }
    else
      Key.ofName? press.key press.mods
  | _ => Key.ofName? press.key press.mods

end Press

end Keychord
