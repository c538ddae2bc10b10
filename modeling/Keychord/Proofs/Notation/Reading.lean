import Keychord.Notation.Reading
import Mathlib.Data.List.Forall2

namespace Keychord.Notation

variable {leader : Key} {source : String} {token : Token} {ts : List Token} {keys : List Key}

theorem keysOf_cons_eq_ok_iff : keysOf leader source (token :: ts) = .ok keys ↔
    ∃ key more, token.key leader = .ok key ∧ keysOf leader source ts = .ok more ∧ keys = key :: more := by
  rw [keysOf]
  cases token.key leader with
  | error fault => simp
  | ok key => cases keysOf leader source ts <;> simp [Except.map, eq_comm]

theorem keysOf_eq_ok_iff :
    keysOf leader source ts = .ok keys ↔ List.Forall₂ (fun token key => token.key leader = .ok key) ts keys := by
  induction ts generalizing keys with
  | nil => cases keys <;> simp [keysOf]
  | cons token ts ih => simp [keysOf_cons_eq_ok_iff, List.forall₂_cons_left_iff, ih]

theorem parse_eq_ok_iff : parse leader source = .ok keys ↔
    source ≠ "" ∧ List.Forall₂ (fun token key => token.key leader = .ok key) (tokens source.toList) keys := by
  rw [parse]
  by_cases hs : source = "" <;> simp [hs, keysOf_eq_ok_iff]

theorem parse_ne_nil (h : parse leader source = .ok keys) : keys ≠ [] := by
  obtain ⟨hs, hk⟩ := parse_eq_ok_iff.mp h
  rintro rfl
  have no_tokens : tokens source.toList = [] := List.forall₂_nil_right_iff.mp hk
  have written := written_tokens source.toList
  rw [no_tokens] at written
  exact hs (String.toList_eq_nil_iff.mp written.symm)

end Keychord.Notation
