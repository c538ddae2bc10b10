import Keychord.Text.Blank
import Keychord.Text.Case

namespace Keychord

structure Environment where
  entries : List (String × String) := []

namespace Environment

def read? (env : Environment) (name : String) : Option String := env.entries.lookup name

def readNonempty? (env : Environment) (name : String) : Option String :=
  (env.read? name).filter (· ≠ "")

def switchedOn : List String := ["1", "true", "yes", "on"]

-- Whether a flag is on. Blanks and letter case do not count; any text that does not switch it on switches it off.
def flag (env : Environment) (name : String) (unset : Bool) : Bool :=
  match env.read? name with
  | none => unset
  | some raw => switchedOn.contains (Text.lower (Text.trim raw))

end Environment

end Keychord
