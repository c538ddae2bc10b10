import Keychord.Proofs.Key.Typing
import Keychord.Proofs.Text.Capital

namespace Keychord

-- The notation of a character: the character itself, but for the mark that opens a bracket.
def Notation.ofChar (c : Char) : String := if c = '<' then "<lt>" else String.singleton c

namespace Press

def ofChar (c : Char) (shift : Bool) : Press := { key := String.singleton c, mods := { shift := shift } }

-- How a host may report shift: with capitals, not with other letters and the space, at will with any other character.
structure Delivers (c : Char) (shift : Bool) : Prop where
  capital : Text.isCapital c → shift
  other   : ¬Text.isCapital c → Text.isLetter c ∨ c = ' ' → ¬shift

end Press

-- The capitals of ASCII are looked at one by one.
theorem Text.lower_of_upper {c : Char} (h : isAsciiUpper c) : lower (String.singleton c) = String.singleton c.toLower := by
  have each : ∀ n < 91, 65 ≤ n →
      lower (String.singleton (Char.ofNat n)) = String.singleton (Char.ofNat n).toLower := by decide +kernel
  have ⟨first, last⟩ := isAsciiUpper_iff_toNat.mp h
  simpa [Char.ofNat_toNat] using each c.toNat (by omega) first

section

variable {c : Char} {shift : Bool}

theorem Notation.parse_ofChar (leader : Key) (c : Char) : parse leader (ofChar c) = .ok [literal c] := by
  rw [parse_eq_ok_iff, ofChar]
  split
  case isTrue h =>
    have read : (Token.bracket ['l', 't']).key leader = .ok (literal '<') :=
      bracketKey_eq_ok_iff.mpr (.named (by decide +kernel) rfl)
    have written : tokens "<lt>".toList = [.bracket ['l', 't']] := by decide
    rw [written, h]
    exact ⟨by decide, .cons read .nil⟩
  case isFalse h =>
    have written : tokens (String.singleton c).toList = [.char c] := by simp [tokens, scan, h]
    rw [written]
    exact ⟨by simp, .cons rfl .nil⟩

theorem Key.ofName?_singleton (c : Char) (mods : Modifiers) : ofName? (String.singleton c) mods = some (ofChar c mods) :=
  Notation.ofName?_eq_some_iff.mpr ⟨rfl, rfl⟩

theorem Press.toKey?_ofChar (c : Char) (shift : Bool) : ∃ key, (ofChar c shift).toKey? = some key ∧
    (key.edge = (Notation.literal c).edge ↔ (shift → Text.isAsciiUpper c ∨ c ≠ ' ' ∧ ¬Text.isLetter c)) := by
  have single : (ofChar c shift).key.toList = [c] := by simp [ofChar]
  rw [toKey?, single]
  dsimp only [ofChar]
  split
  case isTrue upper =>
    rw [Text.lower_of_upper upper]
    refine ⟨_, Key.ofName?_singleton _ _, iff_of_true ?_ fun _ => .inl upper⟩
    simp [Notation.literal, upper]
  case isFalse upper =>
    have plain : Notation.literal c = Key.ofChar c .none := by
      have small : Text.isAsciiUpper c = false := by simpa using upper
      simp [Notation.literal, Text.toLower_of_not_upper small, small, Modifiers.none]
    rw [plain]
    split
    case isTrue sort =>
      have dropped : c ≠ ' ' ∧ ¬Text.isLetter c := by simpa using sort
      exact ⟨_, Key.ofName?_singleton _ _, iff_of_true rfl fun _ => .inr dropped⟩
    case isFalse sort =>
      have kept : ¬(c ≠ ' ' ∧ ¬Text.isLetter c) := by simpa using sort
      refine ⟨_, Key.ofName?_singleton _ _, ?_⟩
      rw [Key.edge_eq_iff]
      cases shift with
      | false => simp [Key.ofChar, Modifiers.none]
      | true => simpa [Key.ofChar, Modifiers.none, upper] using kept

end

theorem Press.Delivers.loses_shift_iff {c : Char} {shift : Bool} (delivers : Delivers c shift) :
    (shift → Text.isAsciiUpper c ∨ c ≠ ' ' ∧ ¬Text.isLetter c) ↔ ¬(Text.isCapital c ∧ ¬Text.isAsciiUpper c) := by
  constructor
  case mp =>
    intro counts ⟨capital, foreign⟩
    cases counts (delivers.capital capital)
    case inl upper => exact foreign upper
    case inr sort => exact sort.right (Text.isLetter_of_isCapital capital)
  case mpr =>
    intro usual shift
    by_cases capital : Text.isCapital c
    case pos =>
      have upper : Text.isAsciiUpper c := by
        by_contra foreign
        exact usual ⟨capital, foreign⟩
      exact .inl upper
    case neg =>
      have sort : ¬(Text.isLetter c ∨ c = ' ') := fun sort => delivers.other capital sort shift
      have ⟨letter, space⟩ := not_or.mp sort
      exact .inr ⟨space, letter⟩

-- A character that a host delivers comes to the edge of its notation, unless it is a capital outside ASCII.
theorem Press.typed_character_iff {c : Char} {shift : Bool} (delivers : Delivers c shift) (leader : Key) :
    ∃ key key', Notation.parse leader (Notation.ofChar c) = .ok [key] ∧ (ofChar c shift).toKey? = some key' ∧
      (key'.edge = key.edge ↔ ¬(Text.isCapital c ∧ ¬Text.isAsciiUpper c)) := by
  have ⟨key', typed, edge⟩ := toKey?_ofChar c shift
  exact ⟨_, key', Notation.parse_ofChar leader c, typed, edge.trans delivers.loses_shift_iff⟩

theorem Press.typed_character_iff_digit : Delivers '5' true ∧ ∃ key key',
    Notation.parse Notation.defaultLeader "5" = .ok [key] ∧ (ofChar '5' true).toKey? = some key' ∧
      key'.edge = key.edge := by
  have delivers : Delivers '5' true := ⟨fun _ => rfl, by decide +kernel⟩
  have ⟨key, key', written, typed, edge⟩ := typed_character_iff delivers Notation.defaultLeader
  exact ⟨delivers, key, key', written, typed, edge.mpr (by decide +kernel)⟩

-- A capital with an accent, typed with shift, is not the key that its notation stands for.
theorem Press.untyped_capital : ¬∀ (c : Char) (shift : Bool), Delivers c shift → ∀ leader, ∃ key key',
    Notation.parse leader (Notation.ofChar c) = .ok [key] ∧ (ofChar c shift).toKey? = some key' ∧
      key'.edge = key.edge := by
  intro same
  have delivers : Delivers 'É' true := ⟨fun _ => rfl, by decide +kernel⟩
  have ⟨key, key', written, typed, edge⟩ := same 'É' true delivers Notation.defaultLeader
  have read : Notation.parse Notation.defaultLeader (Notation.ofChar 'É') = .ok [.ofChar 'É' .none] := by decide +kernel
  have pressed : (ofChar 'É' true).toKey? = some (.ofChar 'É' { shift := true }) := by decide +kernel
  rw [read] at written
  rw [pressed] at typed
  cases written
  cases typed
  revert edge
  decide +kernel

end Keychord
