import Keychord.Key.Name
import Keychord.Notation.Error
import Keychord.Notation.Token
import Keychord.Text.Split

namespace Keychord.Notation

def modifierLetters : List (String × Modifier) :=
  [("C", .ctrl), ("S", .shift), ("A", .alt), ("M", .alt), ("D", .super)]

def modifier? (piece : List Char) : Option Modifier :=
  modifierLetters.lookup (Text.upper (String.ofList piece))

def literal (c : Char) : Key :=
  Key.ofChar c.toLower { shift := Text.isAsciiUpper c }

def named? (spelling : List Char) (mods : Modifiers) : Option Key :=
  (Key.nameOf? (String.ofList spelling)).bind fun name => Key.ofName? name mods

-- The modifiers and the key of a chord. Two dashes at the end are the key of the dash and the dash before it.
def splitChord (content : List Char) : List (List Char) × List Char :=
  match (Text.split '-' content).reverse with
  | [] :: [] :: m :: ms => ((m :: ms).reverse, ['-'])
  | key :: ms => (ms.reverse, key)
  | [] => ([], [])

def holdAll (mods : Modifiers) : List (List Char) → Except Fault Modifiers
  | [] => .ok mods
  | piece :: rest =>
    match modifier? piece with
    | some m => holdAll (mods.hold m) rest
    | none => .error (.unknownModifier (String.ofList piece))

def chordKey (mods : Modifiers) : List Char → Except Fault Key
  | [] => .error .missingKey
  | [c] => .ok (Key.ofChar c.toLower mods)
  | spelling =>
    match named? spelling mods with
    | some key => .ok key
    | none => .error .unknownKeyName

def bracketKey (leader : Key) (content : List Char) : Except Fault Key :=
  if content = [] then .error .emptyKeyName
  else if Text.lower (String.ofList content) = "leader" then .ok leader
  else match named? content .none with
    | some key => .ok key
    | none =>
      if !content.contains '-' then .error .unknownKeyName
      else do
        let (modifiers, key) := splitChord content
        let mods ← holdAll .none modifiers
        chordKey mods key

def Token.key (leader : Key) : Token → Except Fault Key
  | char c => .ok (literal c)
  | bracket content => bracketKey leader content
  | unclosed _ => .error .unclosedBracket

def keysOf (leader : Key) (source : String) : List Token → Except Error (List Key)
  | [] => .ok []
  | token :: rest =>
    match token.key leader with
    | .error fault => .error ⟨fault, source, token.text⟩
    | .ok key => (keysOf leader source rest).map (key :: ·)

def parse (leader : Key) (source : String) : Except Error (List Key) :=
  if source = "" then .error ⟨.emptyText, source, ""⟩
  else keysOf leader source (tokens source.toList)

def defaultLeader : Key := Key.ofChar ' ' .none

inductive Leader
  | text (source : String)
  | key (key : Key)

-- The key of a leader given as text: one character or the notation of one key.
def leaderOfText (source : String) : Except Error Key :=
  match source.toList with
  | [c] => .ok (literal c)
  | _ => do
    match ← parse defaultLeader source with
    | [key] => .ok key
    | _ => .error ⟨.leaderNotSingle, source, source⟩

def Leader.toKey : Leader → Except Error Key
  | text source => leaderOfText source
  | key k => .ok k

end Keychord.Notation
