import Keychord.Config.Fault

namespace Keychord

-- Why an operation broke off. A cancellation is let pass by whoever handles failures.
inductive Failure
  | keymap (fault : Keymap.Fault)
  | config (fault : Config.Fault)
  | numeral (fault : Text.NumeralFault)
  | numberTooLong
  | delayTooLong
  | unknownPreset (name : String)
  | presetAndSettings
  | unknownLevel (name : String)
  | emptyKeyName
  | emptyCommandId
  | notCallable
  | readOnlyArguments
  | noPart (kind wanted : String)
  | noSuchItem
  | noSuchName (name : String)
  | nestedTooDeep
  | raised (kind message : String)
  | cancelled
  deriving DecidableEq, Repr

namespace Failure

def kind : Failure → String
  | keymap (.malformed _) => "NotationError"
  | keymap (.conflict _) => "KeybindingConflictError"
  | keymap (.missingCommand _) => "ValueError"
  | config fault => if fault.isOfType then "TypeError" else "ValueError"
  | numeral _ | numberTooLong | unknownPreset _ | presetAndSettings | unknownLevel _ | emptyKeyName
  | emptyCommandId => "ValueError"
  | delayTooLong => "OverflowError"
  | notCallable | readOnlyArguments => "TypeError"
  | noPart .. => "AttributeError"
  | noSuchItem => "IndexError"
  | noSuchName _ => "KeyError"
  | nestedTooDeep => "RecursionError"
  | raised kind _ => kind
  | cancelled => "CancelledError"

def message : Failure → String
  | keymap fault => fault.message
  | config fault => fault.message
  | numeral fault => fault.message
  | numberTooLong => Text.writeIntMessage
  | delayTooLong => "int too large to convert to float"
  | unknownPreset name => "Unknown preset \x27" ++ name ++ "\x27."
  | presetAndSettings => "Provide either \x60config\x60 or \x60preset\x60, not both."
  | unknownLevel name => "Unsupported log level \x27" ++ name ++ "\x27."
  | emptyKeyName => "key cannot be empty"
  | emptyCommandId => "command id cannot be empty"
  | notCallable => "handler must be callable"
  | readOnlyArguments => "\x27mappingproxy\x27 object does not support item assignment"
  | noPart kind wanted => "\x27" ++ kind ++ "\x27 object has no attribute \x27" ++ wanted ++ "\x27"
  | noSuchItem => "list index out of range"
  | noSuchName name => Text.quoted name
  | nestedTooDeep => "maximum recursion depth exceeded"
  | raised _ message => message
  | cancelled => ""

def isCancellation : Failure → Bool
  | cancelled => true
  | _ => false

def content : Failure → String
  | noSuchName name => name
  | failure => failure.message

def shown (failure : Failure) : String :=
  if failure.isCancellation then failure.kind ++ "()"
  else failure.kind ++ "(" ++ Text.quoted failure.content ++ ")"

def toValue (failure : Failure) : Value := .error failure.kind failure.message failure.shown

def nothingAttached (wanted : String) : Failure := .noPart "NoneType" wanted

end Failure

end Keychord
