import Keychord.Text.Quoted

namespace Keychord.Notation

inductive Fault
  | emptyText
  | unclosedBracket
  | emptyKeyName
  | unknownKeyName
  | unknownModifier (piece : String)
  | missingKey
  | leaderNotSingle
  deriving DecidableEq, Repr

structure Error where
  fault : Fault
  source : String
  fragment : String
  deriving DecidableEq, Repr

def Fault.text : Fault → String
  | emptyText => "empty notation"
  | unclosedBracket => "unclosed bracket"
  | emptyKeyName => "empty key name"
  | unknownKeyName => "unknown key name"
  | unknownModifier piece => "unknown modifier " ++ Text.quoted piece
  | missingKey => "missing key"
  | leaderNotSingle => "leader must be a single key"

def Error.message (e : Error) : String :=
  e.fault.text ++ ": " ++ Text.quoted e.fragment ++ " in " ++ Text.quoted e.source

end Keychord.Notation
