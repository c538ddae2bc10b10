import Keychord.OrderedMap
import Mathlib.Data.List.Induction

namespace Keychord.OrderedMap

variable {κ ν : Type} [BEq κ]

-- No key comes twice.
def Distinct (m : OrderedMap κ ν) : Prop := m.keys.Pairwise (· != ·)

instance (m : OrderedMap κ ν) : Decidable m.Distinct := inferInstanceAs (Decidable (m.keys.Pairwise (· != ·)))

-- A key that only equals itself. Numbers of different kinds may equal each other.
def Exact (key : κ) : Prop := (key == key) ∧ ∀ other, other == key → other = key

section Keys

variable {m : OrderedMap κ ν}

theorem distinct_empty : (empty : OrderedMap κ ν).Distinct := .nil

theorem keys_setEntry (key : κ) (value : ν) (entries : List (κ × ν)) : (setEntry key value entries).map (·.1) =
    entries.map (·.1) ++ if entries.any (·.1 == key) then [] else [key] := by
  induction entries with
  | nil => rfl
  | cons entry rest ih =>
    obtain ⟨k, v⟩ := entry
    rw [setEntry]
    split
    case isTrue same => simp [same]
    case isFalse other => simp only [List.map_cons, ih, List.any_cons, Bool.eq_false_iff.mpr other, Bool.false_or,
        List.cons_append]

theorem keys_insert (m : OrderedMap κ ν) (key : κ) (value : ν) :
    (m.insert key value).keys = m.keys ++ if m.contains key then [] else [key] := keys_setEntry key value m.entries

theorem Distinct.insert (distinct : m.Distinct) (key : κ) (value : ν) : (m.insert key value).Distinct := by
  rw [Distinct, keys, OrderedMap.insert, keys_setEntry]
  split
  case isTrue => exact (List.append_nil _).symm ▸ distinct
  case isFalse new =>
    refine List.pairwise_append.mpr ⟨distinct, List.pairwise_singleton _ _, ?_⟩
    simp only [Bool.not_eq_true, List.any_eq_false] at new
    intro k hk k' hk'
    obtain ⟨entry, he, rfl⟩ := List.mem_map.mp hk
    obtain rfl := List.mem_singleton.mp hk'
    simpa [bne] using new entry he

theorem Distinct.insertAll (distinct : m.Distinct) (entries : List (κ × ν)) : (m.insertAll entries).Distinct := by
  induction entries generalizing m with
  | nil => exact distinct
  | cons entry rest ih => exact ih (distinct.insert entry.1 entry.2)

theorem distinct_ofList (entries : List (κ × ν)) : (ofList entries).Distinct := distinct_empty.insertAll entries

theorem mem_keys_insert_of_mem {k : κ} (key : κ) (value : ν) (h : k ∈ m.keys) : k ∈ (m.insert key value).keys := by
  rw [keys_insert]
  exact List.mem_append_left _ h

theorem eq_of_mem_keys_insert {k key : κ} {value : ν} (h : k ∈ (m.insert key value).keys) (new : k ∉ m.keys) : k = key := by
  rw [keys_insert, List.mem_append] at h
  have added := h.resolve_left new
  split at added
  case isTrue => cases added
  case isFalse => exact List.mem_singleton.mp added

theorem contains_iff {key : κ} : m.contains key ↔ ∃ k ∈ m.keys, k == key := by simp [contains, keys]

theorem contains_insert {key : κ} (known : m.contains key) (k : κ) (value : ν) : (m.insert k value).contains key := by
  obtain ⟨k', hk', same⟩ := contains_iff.mp known
  exact contains_iff.mpr ⟨k', mem_keys_insert_of_mem k value hk', same⟩

theorem exists_key_insert (m : OrderedMap κ ν) (key : κ) (value : ν) :
    ∃ k ∈ (m.insert key value).keys, k = key ∨ k == key := by
  by_cases known : m.contains key
  case pos =>
    obtain ⟨k, hk, same⟩ := contains_iff.mp known
    exact ⟨k, mem_keys_insert_of_mem key value hk, .inr same⟩
  case neg => exact ⟨key, by simp [keys_insert, known], .inl rfl⟩

theorem mem_keys_insertAll {k : κ} {entries : List (κ × ν)} (h : k ∈ m.keys) : k ∈ (m.insertAll entries).keys := by
  induction entries generalizing m with
  | nil => exact h
  | cons entry rest ih => exact ih (mem_keys_insert_of_mem entry.1 entry.2 h)

theorem exists_key_insertAll {entry : κ × ν} {entries : List (κ × ν)} (h : entry ∈ entries) :
    ∃ k ∈ (m.insertAll entries).keys, k = entry.1 ∨ k == entry.1 := by
  induction entries generalizing m with
  | nil => cases h
  | cons other rest ih =>
    obtain rfl | later := List.mem_cons.mp h
    case inl =>
      obtain ⟨k, hk, same⟩ := exists_key_insert m entry.1 entry.2
      exact ⟨k, mem_keys_insertAll (m := m.insert entry.1 entry.2) hk, same⟩
    case inr => exact ih later

end Keys

section Updates

variable {m : OrderedMap κ ν} {key k : κ} {value value' v : ν} {entries : List (κ × ν)}

theorem setEntry_setEntry (exact : Exact key) :
    setEntry key value' (setEntry key value entries) = setEntry key value' entries := by
  induction entries with
  | nil => simp [setEntry, exact.left]
  | cons entry rest ih => by_cases same : entry.1 == key <;> simp [setEntry, same, ih]

theorem setEntry_comm (exact : Exact key) (other : ¬key == k) (known : entries.any (·.1 == key)) :
    setEntry key value (setEntry k v entries) = setEntry k v (setEntry key value entries) := by
  induction entries with
  | nil => cases known
  | cons entry rest ih =>
    obtain ⟨e, u⟩ := entry
    by_cases here : e == key
    case pos =>
      obtain rfl := exact.right e here
      simp [setEntry, here, other]
    case neg =>
      have later : rest.any (·.1 == key) := by simpa [here] using known
      by_cases there : e == k <;> simp [setEntry, here, there, ih later]

theorem insert_insertAll (exact : Exact key) (known : m.contains key) (others : ∀ entry ∈ entries, ¬key == entry.1) :
    (m.insertAll entries).insert key value = (m.insert key value).insertAll entries := by
  induction entries generalizing m with
  | nil => rfl
  | cons entry rest ih =>
    obtain ⟨other, others⟩ := List.forall_mem_cons.mp others
    have swapped : (m.insert entry.1 entry.2).insert key value = (m.insert key value).insert entry.1 entry.2 :=
      congrArg mk (setEntry_comm exact other known)
    have later := ih (contains_insert known entry.1 entry.2) others
    rw [swapped] at later
    exact later

theorem contains_insert_self (exact : Exact key) (m : OrderedMap κ ν) (value : ν) : (m.insert key value).contains key := by
  obtain ⟨k, hk, same⟩ := exists_key_insert m key value
  exact contains_iff.mpr ⟨k, hk, same.elim (fun here => here ▸ exact.left) id⟩

theorem insertAll_setEntry (distinct : (entries.map (·.1)).Pairwise (· != ·))
    (exact : ∀ entry ∈ entries, entry.1 == key → Exact key) :
    m.insertAll (setEntry key value entries) = (m.insertAll entries).insert key value := by
  induction entries generalizing m with
  | nil => rfl
  | cons entry rest ih =>
    obtain ⟨e, u⟩ := entry
    obtain ⟨apart, distinct⟩ := List.pairwise_cons.mp distinct
    by_cases here : e == key
    case pos =>
      have exact := exact (e, u) (by simp) here
      obtain rfl := exact.right e here
      have others : ∀ entry ∈ rest, ¬e == entry.1 := fun entry he => by
        simpa [bne] using apart entry.1 (List.mem_map_of_mem he)
      have late : ((m.insert e u).insertAll rest).insert e value = ((m.insert e u).insert e value).insertAll rest :=
        insert_insertAll exact (contains_insert_self exact m u) others
      have again : (m.insert e u).insert e value = m.insert e value := congrArg mk (setEntry_setEntry exact)
      rw [again] at late
      rw [setEntry, if_pos here]
      exact late.symm
    case neg =>
      rw [setEntry, if_neg here]
      exact ih distinct fun entry he => exact entry (List.mem_cons_of_mem _ he)

-- Two updates are one, by the first changes updated by the second.
theorem update_update {first more : OrderedMap κ ν} (distinct : first.Distinct) (distinct' : more.Distinct)
    (exact : ∀ k ∈ first.keys, ∀ key ∈ more.keys, k == key → Exact key) :
    (m.update first).update more = m.update (first.update more) := by
  obtain ⟨entries⟩ := more
  induction entries generalizing first with
  | nil => rfl
  | cons entry rest ih =>
    obtain ⟨apart, distinct'⟩ := List.pairwise_cons.mp distinct'
    have set : m.update (first.insert entry.1 entry.2) = (m.update first).insert entry.1 entry.2 :=
      insertAll_setEntry distinct fun e he => exact e.1 (List.mem_map_of_mem he) entry.1 (by simp [keys])
    have later := ih (distinct.insert entry.1 entry.2) distinct' ?_
    · rw [set] at later
      exact later
    · intro k hk key hkey same
      by_cases old : k ∈ first.keys
      case pos => exact exact k old key (List.mem_cons_of_mem _ hkey) same
      case neg =>
        -- A key that is new comes from the second changes, where no other key equals it.
        have other : (entry.1 != key) = true := apart key hkey
        rw [← eq_of_mem_keys_insert hk old, bne, same] at other
        cases other

end Updates

section Made

theorem ofList_concat (entries : List (κ × ν)) (entry : κ × ν) :
    ofList (entries ++ [entry]) = (ofList entries).insert entry.1 entry.2 := by
  simp [ofList, insertAll]

variable [LawfulBEq κ]

-- Each key stands where it came first.
theorem keys_ofList (entries : List (κ × ν)) : (ofList entries).keys = (entries.map (·.1)).eraseDups := by
  induction entries using List.reverseRecOn with
  | nil => rfl
  | append_singleton entries entry ih =>
    have known : (ofList entries).contains entry.1 = (entries.map (·.1)).contains entry.1 := by
      rw [Bool.eq_iff_iff, contains_iff, ih, List.contains_iff_mem]
      simp
    rw [ofList_concat, keys_insert, known, List.map_append, List.eraseDups_append, ih]
    by_cases again : entry.1 ∈ entries.map (·.1)
    case pos => simp [again, List.removeAll]
    case neg => simp [again, List.removeAll, List.eraseDups_cons]

-- Each key has the value that came last.
theorem get?_ofList (entries : List (κ × ν)) (key : κ) : (ofList entries).get? key = entries.reverse.lookup key := by
  induction entries using List.reverseRecOn with
  | nil => rfl
  | append_singleton entries entry ih =>
    obtain ⟨k, value⟩ := entry
    rw [ofList_concat, get?_insert, ih, List.reverse_concat, List.lookup_cons]
    by_cases here : k = key
    case pos => simp [here]
    case neg =>
      have other : (key == k) = false := beq_eq_false_iff_ne.mpr (Ne.symm here)
      simp [here, other]

end Made

end Keychord.OrderedMap
