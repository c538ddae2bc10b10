import Keychord.CommandLine.Word
import Keychord.Config.Basic
import Keychord.Telemetry.Basic

namespace Keychord.CommandLine

-- What a command line asks for. Null stands for what it leaves open; an option that is given no words has the empty
-- list.
structure Request where
  leader : Value := .null
  timeout : Value := .null
  binds : List Value := []
  preset : Value := .text "quiet"

inductive Exit
  | help
  | usage
  | notBinding (word : String)
  deriving DecidableEq, Repr

def Exit.status : Exit → String
  | help => "0"
  | usage => "2"
  | notBinding word => "--bind expects NOTATION=COMMAND, got " ++ Text.quoted word

-- The value that a word gives to an option. Two dashes are no word even where they follow an equals sign.
def valueOf (word : String) : Value := if word = "--" then .list [] else .text word

def timeoutOf : Value → Except Exit Value
  | .scalar (.text word) =>
    match Text.readInt word with
    | .ok n => .ok (.int n)
    | .error _ => .error .usage
  | value => .ok value

def Request.set (request : Request) (which : Switch) (value : Value) : Except Exit Request :=
  match which with
  | .help => .error .usage
  | .leader => .ok { request with leader := value }
  | .timeout => (timeoutOf value).map fun timeout => { request with timeout := timeout }
  | .bind => .ok { request with binds := request.binds ++ [value] }
  | .preset => .ok { request with preset := value }

-- What the short option for help does with what follows it in the same word. It may be repeated, also after an equals
-- sign, but something has to follow that sign.
def shortHelp (letters : List Char) : Exit :=
  let (repeated, isEmpty) := match letters with
    | '=' :: rest => (rest, rest.isEmpty)
    | letters => (letters, false)
  if isEmpty || repeated.any (· ≠ 'h') then .usage else .help

-- Uses words in their order. Words that no option takes are refused at the end.
def use (request : Request) (refused : Bool) : List Word → Except Exit Request
  | [] => if refused then .error .usage else .ok request
  | .switch .help none :: _ => .error .help
  | .shortHelp letters :: _ => .error (shortHelp letters)
  | .switch which (some word) :: rest => do
    let request ← request.set which (valueOf word)
    use request refused rest
  | .switch which none :: .plain word :: rest => do
    let request ← request.set which (valueOf word)
    use request refused rest
  | .switch _ none :: _ => .error .usage
  | _ :: rest => use request true rest

def read (words : List String) : Except Exit Request :=
  match wordsOf? words with
  | none => .error .usage
  | some words => use {} false words

-- The notation and the command of a binding, which the first equals sign separates. Only a text can be cut.
def bindingOf : Value → ExceptT Exit (Except Failure) (String × String)
  | .scalar (.text word) =>
    match Text.cut '=' word.toList with
    | (_, none) => throw (.notBinding word)
    | (source, some command) => return (String.ofList source, String.ofList command)
  | value => throwThe Failure (.noPart (Config.kindName value) "partition")

def bindingsOf : List Value → ExceptT Exit (Except Failure) (List (String × String))
  | [] => return []
  | value :: rest => do
    let b ← bindingOf value
    let bs ← bindingsOf rest
    return b :: bs

def Request.changes (request : Request) (extra : List (String × String)) : Config.Changes :=
  { leader := request.leader, timeout := request.timeout, extra := Config.looseBindings (.ofList extra) }

def start (words : List String) : Action Telemetry (Except Exit Config) := do
  match read words with
  | .error exit => return .error exit
  | .ok request =>
    Telemetry.configure none request.preset.asText?
    match ← Action.ofExcept (bindingsOf request.binds).run with
    | .error exit => return .error exit
    | .ok extra =>
      match Config.stock (← get).environment (request.changes extra) with
      | .error fault => throw (.config fault)
      | .ok config => return .ok config

end Keychord.CommandLine
