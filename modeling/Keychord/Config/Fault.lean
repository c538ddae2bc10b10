import Keychord.Keymap.Compile

namespace Keychord.Config

-- The faults of a configuration. The last five are those of data that does not describe a mapping.
inductive Fault
  | emptyLeader
  | timeoutNotWhole
  | timeoutNotPositive
  | invalidNotation (shown : String)
  | missingCommand (source : String)
  | unshownNotation
  | notIterable (kind : String)
  | pairNotSequence (index : Nat)
  | pairWrongLength (index length : Nat)
  | unhashable (kind : String)
  deriving DecidableEq, Repr

def Fault.message : Fault → String
  | emptyLeader => "leader cannot be empty"
  | timeoutNotWhole => "timeout_ms must be an integer"
  | timeoutNotPositive => "timeout_ms must be positive"
  | invalidNotation shown => "Invalid notation " ++ shown
  | missingCommand source => Keymap.missingCommandMessage source
  | unshownNotation => Text.writeIntMessage
  | notIterable kind => "\x27" ++ kind ++ "\x27 object is not iterable"
  | pairNotSequence index =>
    "cannot convert dictionary update sequence element #" ++ toString index ++ " to a sequence"
  | pairWrongLength index length =>
    "dictionary update sequence element #" ++ toString index ++ " has length " ++ toString length ++ "; 2 is required"
  | unhashable kind => "unhashable type: \x27" ++ kind ++ "\x27"

def Fault.isOfType : Fault → Bool
  | timeoutNotWhole | notIterable _ | pairNotSequence _ | unhashable _ => true
  | _ => false

end Keychord.Config
