import Keychord.Text.Blank
import Keychord.Text.Digit
import Keychord.Text.Quoted

namespace Keychord.Text

def maxDigits : Nat := 4300

inductive NumeralFault
  | malformed (text : String)
  | tooLong (digits : Nat)
  deriving DecidableEq, Repr

def isPlainBlank (c : Char) : Bool := c = ' ' || (9 ≤ c.toNat && c.toNat ≤ 13)

-- The digits of every script become those of ASCII and the blanks outside ASCII become spaces. What is in ASCII stays,
-- so the information separators, though blank, do not surround a numeral.
def plainNumeralChar (c : Char) : Char :=
  if c.toNat < 127 then c
  else if isBlank c then ' '
  else match digitValue? c with
    | some d => Char.ofNat (48 + d)
    | none => '?'

def asciiDigit? (c : Char) : Option Nat :=
  if '0' ≤ c && c ≤ '9' then some (c.toNat - 48) else none

def digitRun? : List Char → Option (List Nat)
  | [] => none
  | [c] => (asciiDigit? c).map ([·])
  | c :: '_' :: rest => do
    let d ← asciiDigit? c
    let ds ← digitRun? rest
    return d :: ds
  | c :: rest => do
    let d ← asciiDigit? c
    let ds ← digitRun? rest
    return d :: ds

def ofDigits (ds : List Nat) : Nat := ds.foldl (fun n d => 10 * n + d) 0

def splitSign : List Char → Bool × List Char
  | '-' :: rest => (true, rest)
  | '+' :: rest => (false, rest)
  | cs => (false, cs)

def spanNumeral (cs : List Char) : List Char × List Char :=
  cs.span fun c => c = '_' || (asciiDigit? c).isSome

-- Reads a whole number. A run of digits that is too long is reported before anything that may follow it.
def readInt (s : String) : Except NumeralFault Int :=
  let plain := (s.toList.map plainNumeralChar).dropWhile isPlainBlank
  let (negative, unsigned) := splitSign plain
  let (run, after) := spanNumeral unsigned
  match digitRun? run with
  | none => .error (.malformed s)
  | some ds =>
    if maxDigits < ds.length then .error (.tooLong ds.length)
    else if !after.all isPlainBlank then .error (.malformed s)
    else .ok (if negative then -(ofDigits ds : Int) else ofDigits ds)

-- What is said of a text that is not a numeral. At most 200 characters of the quoted text are shown.
def NumeralFault.message : NumeralFault → String
  | .malformed text =>
    "invalid literal for int() with base 10: " ++ String.ofList ((quoted text).toList.take 200)
  | .tooLong digits =>
    "Exceeds the limit (" ++ toString maxDigits ++ " digits) for integer string conversion: value has " ++
      toString digits ++ " digits; use sys.set_int_max_str_digits() to increase the limit"

def writeInt? (n : Int) : Option String :=
  if n.natAbs < Nat.pow 10 maxDigits then some (toString n) else none

theorem writeInt?_isSome {n : Int} : (writeInt? n).isSome ↔ n.natAbs < Nat.pow 10 maxDigits := by
  rw [writeInt?]
  split
  case isTrue short => exact iff_of_true rfl short
  case isFalse long => exact iff_of_false Bool.false_ne_true long

def writeIntMessage : String :=
  "Exceeds the limit (" ++ toString maxDigits ++
    " digits) for integer string conversion; use sys.set_int_max_str_digits() to increase the limit"

end Keychord.Text
