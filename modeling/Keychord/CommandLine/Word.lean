import Keychord.Text.Digit
import Keychord.Text.Split

namespace Keychord.CommandLine

inductive Switch
  | help
  | leader
  | timeout
  | bind
  | preset
  deriving DecidableEq, Repr

def switchNames : List (String × Switch) :=
  [("--help", .help), ("--leader", .leader), ("--timeout-ms", .timeout), ("--bind", .bind), ("--log-preset", .preset)]

inductive Word
  | plain (text : String)
  | separator
  | switch (which : Switch) (attached : Option String)
  | shortHelp (letters : List Char)
  | unknown
  deriving DecidableEq, Repr

def isDigits (cs : List Char) : Bool := !cs.isEmpty && cs.all fun c => (Text.digitValue? c).isSome

-- Whether the characters after a dash are those of a number. A line feed at the end does not count.
def isUnsignedNumber (cs : List Char) : Bool :=
  let body := if cs.getLast? = some '\n' then cs.dropLast else cs
  match Text.cut '.' body with
  | (whole, none) => isDigits whole
  | (whole, some fraction) => (whole.isEmpty || isDigits whole) && isDigits fraction

def unnamed (word : String) (afterDash : List Char) : Word :=
  if isUnsignedNumber afterDash || afterDash.contains ' ' then .plain word else .unknown

-- A word that starts with two dashes. There is none if it could be more than one option.
def longWord? (word : String) (afterDash : List Char) : Option Word :=
  let (name, attached) := Text.cut '=' word.toList
  match switchNames.lookup (String.ofList name) with
  | some which => some (.switch which (attached.map String.ofList))
  | none =>
    match switchNames.filter fun entry => name.isPrefixOf entry.1.toList with
    | [] => some (unnamed word afterDash)
    | [(_, which)] => some (.switch which (attached.map String.ofList))
    | _ => none

def wordOf? (word : String) : Option Word :=
  match word.toList with
  | ['-', '-'] => some .separator
  | '-' :: '-' :: rest => longWord? word ('-' :: rest)
  | '-' :: 'h' :: letters => some (.shortHelp letters)
  | ['-'] => some (.plain word)
  | '-' :: rest => some (unnamed word rest)
  | _ => some (.plain word)

def wordsOf? : List String → Option (List Word)
  | [] => some []
  | word :: rest =>
    match wordOf? word with
    | none => none
    | some .separator => some (.separator :: rest.map .plain)
    | some w => (wordsOf? rest).map (w :: ·)

end Keychord.CommandLine
