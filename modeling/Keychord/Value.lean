import Keychord.Number.Shortest
import Keychord.OrderedMap
import Keychord.Text.Integer

namespace Keychord

-- Values without parts. They serve as the keys of maps.
inductive Scalar
  | null
  | bool (b : Bool)
  | int (n : Int)
  | double (x : Float)
  | text (s : String)
  deriving DecidableEq, Repr

-- Data of any shape. An `error` is an error met as data: its kind, its message and both in one line.
inductive Value
  | scalar (s : Scalar)
  | list (items : List Value)
  | map (entries : List (Scalar × Value))
  | error (kind message line : String)
  deriving Repr

namespace Scalar

-- The whole number that a scalar equals as a number; `true` counts as one and `false` as zero.
def whole? : Scalar → Option Int
  | bool b => some (if b then 1 else 0)
  | int n => some n
  | double x => Number.toInt? x
  | _ => none

-- Whether two scalars are the same key. Numbers of all kinds are compared by what they stand for.
def same : Scalar → Scalar → Bool
  | null, null => true
  | text s, text t => s == t
  | double x, double y => x == y
  | a, b =>
    match a.whole?, b.whole? with
    | some m, some n => m == n
    | _, _ => false

instance : BEq Scalar := ⟨same⟩

def literal? : Scalar → Option String
  | null => some "None"
  | bool b => some (if b then "True" else "False")
  | int n => Text.writeInt? n
  | double x => some (Number.text x)
  | text s => some (Text.quoted s)

def text? : Scalar → Option String
  | text s => some s
  | s => s.literal?

def truthy : Scalar → Bool
  | null => false
  | bool b => b
  | int n => n ≠ 0
  | double x => x != 0
  | text s => s ≠ ""

end Scalar

namespace Value

def null : Value := scalar .null

def bool (b : Bool) : Value := scalar (.bool b)

def int (n : Int) : Value := scalar (.int n)

def text (s : String) : Value := scalar (.text s)

instance : Inhabited Value := ⟨null⟩

def ofText? : Option String → Value
  | some s => text s
  | none => null

def record (fields : List (String × Value)) : Value :=
  map (fields.map fun (name, value) => (.text name, value))

def asText? : Value → Option String
  | scalar (.text s) => some s
  | _ => none

def isNull : Value → Bool
  | scalar .null => true
  | _ => false

def truthy : Value → Bool
  | scalar s => s.truthy
  | list items => !items.isEmpty
  | map entries => !entries.isEmpty
  | error .. => true

def joined (parts : List String) : String := ", ".intercalate parts

mutual

def literal? : Value → Option String
  | scalar s => s.literal?
  | list items => (literals? items).map fun parts => "[" ++ joined parts ++ "]"
  | map entries => (entryLiterals? entries).map fun parts => "\x7b" ++ joined parts ++ "\x7d"
  | error _ _ line => some line

def literals? : List Value → Option (List String)
  | [] => some []
  | item :: rest => do
    let shown ← literal? item
    let others ← literals? rest
    return shown :: others

def entryLiterals? : List (Scalar × Value) → Option (List String)
  | [] => some []
  | (key, value) :: rest => do
    let name ← key.literal?
    let shown ← literal? value
    let others ← entryLiterals? rest
    return (name ++ ": " ++ shown) :: others

end

def text? : Value → Option String
  | scalar s => s.text?
  | error _ message _ => some message
  | value => value.literal?

def field? (value : Value) (name : String) : Option Value :=
  match value with
  | map entries => (⟨entries⟩ : OrderedMap Scalar Value).get? (.text name)
  | _ => none

def isMap : Value → Bool
  | map _ => true
  | _ => false

end Value

end Keychord
