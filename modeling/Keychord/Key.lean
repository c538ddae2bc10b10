import Keychord.Text.Case

namespace Keychord

inductive Modifier
  | ctrl
  | shift
  | alt
  | super
  deriving DecidableEq, Repr

namespace Modifier

def all : List Modifier := [ctrl, shift, alt, super]

def letter : Modifier → Char
  | ctrl => 'C'
  | shift => 'S'
  | alt => 'A'
  | super => 'D'

def name : Modifier → String
  | ctrl => "ctrl"
  | shift => "shift"
  | alt => "alt"
  | super => "meta"

end Modifier

structure Modifiers where
  ctrl : Bool := false
  shift : Bool := false
  alt : Bool := false
  super : Bool := false
  deriving DecidableEq, Repr

namespace Modifiers

def none : Modifiers := {}

def has (mods : Modifiers) : Modifier → Bool
  | .ctrl => mods.ctrl
  | .shift => mods.shift
  | .alt => mods.alt
  | .super => mods.super

def hold (mods : Modifiers) : Modifier → Modifiers
  | .ctrl => { mods with ctrl := true }
  | .shift => { mods with shift := true }
  | .alt => { mods with alt := true }
  | .super => { mods with super := true }

def toList (mods : Modifiers) : List Modifier := Modifier.all.filter mods.has

def letters (mods : Modifiers) : List Char := mods.toList.map Modifier.letter

theorem foldl_hold_toList (mods : Modifiers) : mods.toList.foldl hold none = mods := by
  obtain ⟨ctrl, shift, alt, super⟩ := mods
  cases ctrl <;> cases shift <;> cases alt <;> cases super <;> rfl

theorem mem_toList (mods : Modifiers) {m : Modifier} : m ∈ mods.toList ↔ mods.has m := by
  cases m <;> simp [toList, Modifier.all]

theorem has_hold {mods : Modifiers} {m m' : Modifier} : (mods.hold m).has m' ↔ mods.has m' ∨ m' = m := by
  cases m <;> cases m' <;> simp [hold, has]

theorem has_none {m : Modifier} : ¬none.has m := by cases m <;> decide

theorem has_foldl_hold {mods : Modifiers} {ms : List Modifier} {m : Modifier} :
    (ms.foldl hold mods).has m ↔ mods.has m ∨ m ∈ ms := by
  induction ms generalizing mods with
  | nil => simp
  | cons m' ms ih => simp [ih, has_hold, or_assoc]

theorem eq_of_has {mods mods' : Modifiers} (h : ∀ m, mods.has m ↔ mods'.has m) : mods = mods' := by
  have same : mods.has = mods'.has := funext fun m => Bool.eq_iff_iff.mpr (h m)
  rw [← mods.foldl_hold_toList, ← mods'.foldl_hold_toList, toList, toList, same]

theorem eq_none_of_letters {mods : Modifiers} (h : mods.letters = []) : mods = none := by
  rw [← mods.foldl_hold_toList, List.map_eq_nil_iff.mp h]
  rfl

end Modifiers

abbrev Edge := String

structure Key where
  name : String
  mods : Modifiers
  name_ne : name ≠ ""
  deriving DecidableEq, Repr

namespace Key

def ofName? (name : String) (mods : Modifiers) : Option Key :=
  if h : name = "" then none else some ⟨name, mods, h⟩

theorem ofName?_self (key : Key) : ofName? key.name key.mods = some key := dif_neg key.name_ne

def ofChar (c : Char) (mods : Modifiers) : Key :=
  ⟨String.singleton c, mods, by
    intro h
    have := congrArg String.length h
    simp at this⟩

-- Keys have the same edge if they have the same modifiers and their names differ in letter case only.
def edge (key : Key) : Edge :=
  match key.mods.letters with
  | [] => Text.lower key.name
  | letters => String.ofList (letters ++ ['-']) ++ Text.lower key.name

end Key

end Keychord
