import Keychord.Key.Press
import Keychord.Proofs.Key.Edge
import Keychord.Proofs.Notation.RoundTrip

namespace Keychord

namespace Key

variable {key key' : Key}

def Typable (key : Key) : Prop :=
  key.mods.shift → ∀ c, key.name = String.singleton c → c = ' ' ∨ Text.isLetter c

theorem Typable.congr (h : key.edge = key'.edge) (typable : key'.Typable) : key.Typable := by
  have ⟨mods, name⟩ := edge_eq_iff.mp h
  intro shift c hc
  have lowers := Text.lower_singleton c
  rw [← hc, name] at lowers
  generalize hl : (Text.lower key'.name).toList = lowered at lowers
  cases lowers with
  | two => exact .inr (by decide +kernel)
  | one lowers =>
    have ⟨c', hc', lowers'⟩ := Text.singleton_of_lower key'.name_ne hl
    have sort := typable (mods ▸ shift) c' hc'
    rwa [← lowers'.space, ← lowers'.letter, lowers.space, lowers.letter] at sort

end Key

namespace Press

-- A press that types a key: it is not for a control that has focus, is not passed over, and comes to the same edge.
structure Types (press : Press) (key : Key) : Prop where
  untargeted : press.target = none
  unfiltered : ¬press.isFiltered
  edge       : press.toKey?.map Key.edge = some key.edge

variable {key : Key} {press : Press}

-- The key of a press can be typed: where shift counts for nothing, it is dropped.
theorem typable_of_toKey? (h : press.toKey? = some key) : key.Typable := by
  rw [toKey?] at h
  split at h
  case h_1 c hc =>
    have single : press.key = String.singleton c := String.toList_injective (by simp [hc])
    split at h
    case isTrue upper =>
      have ⟨name, _⟩ := Notation.ofName?_eq_some_iff.mp h
      intro _ d hd
      have lowers := Text.lower_singleton c
      rw [← single, ← name, hd, String.toList_singleton] at lowers
      cases lowers with
      | one lowers => exact .inr (lowers.letter.mpr (Text.isLetter_of_upper upper))
    case isFalse =>
      split at h
      case isTrue =>
        have ⟨_, mods⟩ := Notation.ofName?_eq_some_iff.mp h
        intro shift
        simp [mods] at shift
      case isFalse sort =>
        have ⟨name, _⟩ := Notation.ofName?_eq_some_iff.mp h
        intro _ d hd
        have same : c = d := by simpa [← name, hd] using hc.symm
        rw [← same]
        simpa [Classical.or_iff_not_imp_left] using sort
  case h_2 several =>
    have ⟨name, _⟩ := Notation.ofName?_eq_some_iff.mp h
    intro _ d hd
    have single : press.key.toList = [d] := by simp [← name, hd]
    exact absurd single (several d)

theorem Types.typable (types : press.Types key) : key.Typable := by
  have ⟨key', hk, edge⟩ := Option.map_eq_some_iff.mp types.edge
  exact (typable_of_toKey? hk).congr edge.symm

end Press

namespace Key

variable {key : Key}

theorem shownNames_plain : ∀ row ∈ shownNames, row.1 ∉ modifierNames ∧
    (row.1.toList.length = 1 → row.1.toList.all fun c => !Text.isAsciiUpper c) := by decide

theorem modifierNames_long : ∀ name ∈ modifierNames, name.toList.length ≠ 1 := by decide

theorem exists_shownName {name : String} (h : (shown? name).isSome) : ∃ shown, (name, shown) ∈ shownNames := by
  have ⟨shown, hs⟩ := Option.isSome_iff_exists.mp h
  exact ⟨shown, (Notation.lookup_eq_some_iff (by decide)).mp hs⟩

theorem Spelled.not_upper (spelled : key.Spelled) {c : Char} (h : key.name = String.singleton c) :
    ¬Text.isAsciiUpper c := by
  cases spelled
  case inl shown =>
    have ⟨_, row⟩ := exists_shownName shown
    have ⟨_, plain⟩ := shownNames_plain _ row
    simpa [h] using plain
  case inr single =>
    have ⟨d, upper, hd⟩ := single
    have same : d = c := by simpa [h] using congrArg String.toList hd.symm
    simp [← same, upper]

theorem Spelled.no_modifier (spelled : key.Spelled) : key.name ∉ modifierNames := by
  cases spelled
  case inl shown =>
    have ⟨_, row⟩ := exists_shownName shown
    exact (shownNames_plain _ row).left
  case inr single =>
    have ⟨c, _, hc⟩ := single
    intro hm
    exact modifierNames_long _ hm (by simp [hc])

theorem modifierNames_apart : ∀ name ∈ modifierNames, (Text.lower name).toList.length ≠ 1 ∧
    (Text.lower name).toList ≠ ['i', '\u0307'] ∧ ∀ row ∈ shownNames, Text.lower row.1 ≠ Text.lower name := by
  decide +kernel

theorem Spelled.no_modifier_alike {key' : Key} (spelled : key'.Spelled) (same : key.edge = key'.edge) :
    key.name ∉ modifierNames := by
  intro hm
  have ⟨_, name⟩ := edge_eq_iff.mp same
  have ⟨single, dotted, apart⟩ := modifierNames_apart _ hm
  cases spelled
  case inl shown =>
    have ⟨_, row⟩ := exists_shownName shown
    exact apart _ row name.symm
  case inr character =>
    have ⟨c, _, hc⟩ := character
    have lowers := Text.lower_singleton c
    rw [← hc, ← name] at lowers
    generalize (Text.lower key.name).toList = lowered at lowers single dotted
    cases lowers with
    | one => exact single rfl
    | two => exact dotted rfl

def press (key : Key) : Press := ⟨key.name, key.mods, none⟩

theorem not_filtered {press : Press} (untargeted : ¬press.forText) (hk : press.toKey? = some key)
    (hm : key.name ∉ modifierNames) : ¬press.isFiltered := by
  rw [Press.toKey?] at hk
  split at hk
  case h_1 c hc =>
    have single : press.key ∉ modifierNames := fun hm => modifierNames_long _ hm (by simp [hc])
    have some : press.key ≠ "" := by rintro empty; simp [empty] at hc
    simp [Press.isFiltered, untargeted, some, single]
  case h_2 =>
    have ⟨name, _⟩ := Notation.ofName?_eq_some_iff.mp hk
    simp [Press.isFiltered, untargeted, ← name, key.name_ne, hm]

theorem Spelled.toKey?_press (spelled : key.Spelled) (typable : key.Typable) : key.press.toKey? = some key := by
  rw [Press.toKey?]
  split
  case h_1 c hc =>
    have hc : key.name.toList = [c] := hc
    have single : key.name = String.singleton c := String.toList_injective (by simp [hc])
    rw [if_neg (spelled.not_upper single)]
    split
    case isTrue sort =>
      have none : key.mods.shift = false := by
        by_contra shift
        have counts := typable (by simpa using shift) c single
        simp at sort
        simp [sort] at counts
      have mods : { key.mods with shift := false } = key.mods := by rw [← none]
      exact mods ▸ key.ofName?_self
    case isFalse => exact key.ofName?_self
  case h_2 => exact key.ofName?_self

theorem Spelled.types_press (spelled : key.Spelled) (typable : key.Typable) : key.press.Types key where
  untargeted := rfl
  unfiltered := by simp [Press.isFiltered, Press.forText, press, key.name_ne, spelled.no_modifier]
  edge := by rw [spelled.toKey?_press typable]; rfl

theorem Spelled.exists_press_iff (spelled : key.Spelled) : (∃ press : Press, press.Types key) ↔ key.Typable := by
  constructor
  case mp => intro ⟨press, types⟩; exact types.typable
  case mpr => intro typable; exact ⟨key.press, spelled.types_press typable⟩

-- Keys of a notation can be typed one after the other if each of them can.
theorem exists_presses_iff {keys : List Key} (spelled : ∀ key ∈ keys, key.Spelled) :
    (∃ presses : List Press, presses.Forall₂ Press.Types keys) ↔ ∀ key ∈ keys, key.Typable := by
  induction keys with
  | nil => simp
  | cons key keys ih =>
    have ⟨first, rest⟩ := List.forall_mem_cons.mp spelled
    rw [List.forall_mem_cons, ← first.exists_press_iff, ← ih rest]
    constructor
    case mp =>
      intro ⟨presses, types⟩
      cases types with
      | cons type types => exact ⟨⟨_, type⟩, _, types⟩
    case mpr =>
      intro ⟨⟨press, type⟩, presses, types⟩
      exact ⟨press :: presses, .cons type types⟩

end Key

end Keychord
