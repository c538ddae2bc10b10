import Keychord.Key
import Keychord.Proofs.Text.LowerCase
import Mathlib.Data.List.Basic

namespace Keychord

theorem Modifier.letter_injective : Function.Injective letter := by
  intro m m' h
  cases m <;> cases m' <;> first | rfl | cases h

namespace Modifiers

theorem eq_of_letters {mods mods' : Modifiers} (h : mods.letters = mods'.letters) : mods = mods' := by
  have same : mods.toList = mods'.toList := List.map_injective_iff.mpr Modifier.letter_injective h
  rw [← mods.foldl_hold_toList, same, foldl_hold_toList]

theorem upper_of_mem_letters {mods : Modifiers} {c : Char} (h : c ∈ mods.letters) : Text.isAsciiUpper c := by
  have ⟨m, _, hm⟩ := List.mem_map.mp h
  rw [← hm]
  cases m <;> decide

end Modifiers

namespace Key

variable {key key' : Key}

theorem takeWhile_edge (key : Key) : key.edge.toList.takeWhile Text.isAsciiUpper = key.mods.letters := by
  rw [edge]
  split
  case h_1 hl =>
    rw [hl]
    cases hn : (Text.lower key.name).toList with
    | nil => rfl
    | cons c rest =>
      have first : ¬Text.isAsciiUpper c := Text.not_upper_of_mem_lower (s := key.name) (by simp [hn])
      simp [first]
  case h_2 =>
    have upper : ∀ c ∈ key.mods.letters, Text.isAsciiUpper c := fun _ => Modifiers.upper_of_mem_letters
    have dash : ¬Text.isAsciiUpper '-' := by decide
    simp [List.takeWhile_append_of_pos upper, dash]

theorem edge_eq_iff : key.edge = key'.edge ↔ key.mods = key'.mods ∧ Text.lower key.name = Text.lower key'.name := by
  constructor
  case mp =>
    intro h
    have letters : key.mods.letters = key'.mods.letters := by rw [← takeWhile_edge, h, takeWhile_edge]
    refine ⟨Modifiers.eq_of_letters letters, ?_⟩
    rw [edge, edge, letters] at h
    split at h
    case h_1 => exact h
    case h_2 => simpa using h
  case mpr =>
    intro ⟨mods, name⟩
    rw [edge, edge, mods, name]

-- The edge of a key tells which modifiers it has, and its name up to letter case.
theorem edge_tells_keys (key key' : Key) :
    (key.edge = key'.edge ↔
      (∀ m, key.mods.has m ↔ key'.mods.has m) ∧ Text.lower key.name = Text.lower key'.name) ∧
    ((∀ m, ¬key.mods.has m) → (∃ m, key'.mods.has m) → key.edge ≠ key'.edge) := by
  have same : key.mods = key'.mods ↔ ∀ m, key.mods.has m ↔ key'.mods.has m := by
    constructor
    case mp => intro h; simp [h]
    case mpr => exact Modifiers.eq_of_has
  have edges : key.edge = key'.edge ↔
      (∀ m, key.mods.has m ↔ key'.mods.has m) ∧ Text.lower key.name = Text.lower key'.name := by
    rw [edge_eq_iff, same]
  constructor
  case left => exact edges
  case right =>
    intro plain ⟨m, modified⟩ h
    have ⟨mods, _⟩ := edges.mp h
    exact plain m ((mods m).mpr modified)

end Key

end Keychord
