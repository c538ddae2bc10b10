import Keychord.Proofs.Matcher.Filtered
import Keychord.Terminal.KeyName

namespace Keychord.Terminal

def modifierWords : List String := ["ctrl", "shift", "alt", "meta", "super"]

def joined (words : List String) (base : Char) : String := "+".intercalate (words ++ [String.singleton base])

structure NamedBy (words : List String) (mods : Modifiers) : Prop where
  ctrl  : mods.ctrl ↔ "ctrl" ∈ words.map Text.lower
  shift : mods.shift ↔ "shift" ∈ words.map Text.lower
  alt   : mods.alt ↔ "alt" ∈ words.map Text.lower ∨ "meta" ∈ words.map Text.lower
  super : mods.super ↔ "super" ∈ words.map Text.lower

section Parts

variable {words : List String}

theorem plus_not_mem_modifierWords : ∀ word ∈ modifierWords, '+' ∉ word.toList := by decide

theorem plus_not_mem_of_lower {word : String} (modifier : Text.lower word ∈ modifierWords) : '+' ∉ word.toList :=
  fun plus => plus_not_mem_modifierWords _ modifier (Text.mem_lower (by decide) (by decide) plus)

theorem toList_joined (words : List String) (base : Char) :
    (joined words base).toList = ['+'].intercalate (words.map String.toList ++ [[base]]) := by
  simp [joined, String.toList_intercalate]

theorem split_joined (apart : ∀ word ∈ words, '+' ∉ word.toList) (base : Char) :
    Text.split '+' (joined words base).toList = words.map String.toList ++ Text.split '+' [base] := by
  rw [toList_joined]
  by_cases alone : words = []
  case pos => simp [alone]
  case neg =>
    have held : words.map String.toList ≠ [] := by simpa using alone
    rw [Text.intercalate_concat held, Text.split_intercalate_append held (List.forall_mem_map.mpr apart)]

theorem parts_of_split {name : String} (other : name ≠ "+") {pieces : List (List Char)} {last : List Char}
    (split : Text.split '+' name.toList = pieces ++ [last]) :
    parts name = (pieces.map String.ofList, String.ofList last) := by
  rw [parts, if_neg other, split, List.reverse_concat]
  simp

theorem joined_ne_plus {base : Char} (other : words ≠ [] ∨ base ≠ '+') : joined words base ≠ "+" := by
  intro plus
  have written := toList_joined words base
  rw [plus] at written
  by_cases alone : words = []
  case pos =>
    have same : base = '+' := by simpa [alone, eq_comm] using written
    exact other.elim (absurd alone) (absurd same)
  case neg =>
    rw [Text.intercalate_concat (by simpa using alone)] at written
    have longer := congrArg List.length written
    simp at longer

theorem parts_joined (apart : ∀ word ∈ words, '+' ∉ word.toList) {base : Char} (whole : words = [] ∨ base ≠ '+') :
    parts (joined words base) = (words, String.singleton base) := by
  by_cases plus : base = '+'
  case pos =>
    obtain rfl : words = [] := whole.resolve_right (absurd plus)
    rw [plus]
    rfl
  case neg =>
    have single : Text.split '+' [base] = [[base]] := Text.split_of_not_mem (by simpa using Ne.symm plus)
    have split := split_joined apart base
    rw [single] at split
    rw [parts_of_split (joined_ne_plus (.inr plus)) split]
    simp

theorem parts_joined_plus (apart : ∀ word ∈ words, '+' ∉ word.toList) (held : words ≠ []) :
    parts (joined words '+') = (words ++ [""], "") := by
  have split : Text.split '+' (joined words '+').toList = (words.map String.toList ++ [[]]) ++ [[]] := by
    rw [split_joined apart, List.append_assoc]
    rfl
  rw [parts_of_split (joined_ne_plus (.inl held)) split]
  simp

end Parts

theorem namedBy_modifiersOf (words : List String) : NamedBy words (modifiersOf words) := by
  constructor <;> simp [modifiersOf]

theorem modifiersOf_concat_empty (words : List String) : modifiersOf (words ++ [""]) = modifiersOf words := by
  have empty : Text.lower "" = "" := by decide
  simp [modifiersOf, empty]

theorem press_of_parts {name base : String} {words : List String} (h : parts name = (words, base)) (short : base.length ≤ 1)
    (target : Option Target) : press name none target = ⟨base, modifiersOf words, target⟩ := by
  have unnamed : named? base = none := if_neg (Nat.not_lt.mpr short)
  have untyped : visible? none = none := rfl
  rw [press, h]
  simp [unnamed, untyped]

-- A key that is named with its modifiers is pressed with just these. It is the key that has been named, but the plus is
-- lost after a word: no matcher takes the press, whatever it is in the middle of.
theorem press_joined {words : List String} (named : ∀ word ∈ words, Text.lower word ∈ modifierWords) (base : Char)
    (target : Option Target) : ∃ mods, NamedBy words mods ∧
      (words = [] ∨ base ≠ '+' → press (joined words base) none target = ⟨String.singleton base, mods, target⟩) ∧
      (words ≠ [] ∧ base = '+' → press (joined words base) none target = ⟨"", mods, target⟩ ∧
        ∀ (Job : Type) (m : Matcher), Matcher.handle (press (joined words base) none target) m =
          (.finished (.ok false) m : Run (Matcher.surroundings Job) Matcher Bool)) := by
  have apart : ∀ word ∈ words, '+' ∉ word.toList := fun word among => plus_not_mem_of_lower (named word among)
  refine ⟨modifiersOf words, namedBy_modifiersOf words, fun whole => ?_, ?_⟩
  · exact press_of_parts (parts_joined apart whole) (by simp) target
  · rintro ⟨held, rfl⟩
    have pressed := press_of_parts (parts_joined_plus apart held) (by simp) target
    rw [modifiersOf_concat_empty] at pressed
    refine ⟨pressed, fun Job m => ?_⟩
    have filtered : (press (joined words '+') none target).isFiltered := by simp [pressed, Press.isFiltered]
    exact congrFun (Matcher.handle_filtered filtered) m

theorem press_joined_mixed : (∀ word ∈ ["Shift", "CTRL", "meta", "shift"], Text.lower word ∈ modifierWords) ∧
    ∃ mods, NamedBy ["Shift", "CTRL", "meta", "shift"] mods ∧
      press "Shift+CTRL+meta+shift+x" none none = ⟨"x", mods, none⟩ := by
  have named : ∀ word ∈ ["Shift", "CTRL", "meta", "shift"], Text.lower word ∈ modifierWords := by decide
  obtain ⟨mods, same, whole, -⟩ := press_joined named 'x' none
  exact ⟨named, mods, same, whole (.inr (by decide))⟩

theorem plus_lost : joined ["ctrl"] '+' = "ctrl++" ∧ Text.lower "ctrl" ∈ modifierWords ∧
    (press "ctrl++" none none).mods = { ctrl := true } ∧ (press "ctrl++" none none).key = "" := by decide

end Keychord.Terminal
