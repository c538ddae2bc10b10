namespace Keychord

-- A key that is set again keeps its place and gets the new value; a new key goes to the end.
structure OrderedMap (κ ν : Type) where
  entries : List (κ × ν) := []
  deriving DecidableEq, Repr

namespace OrderedMap

variable {κ ν μ : Type}

def empty : OrderedMap κ ν := {}

instance : Inhabited (OrderedMap κ ν) := ⟨empty⟩

def keys (m : OrderedMap κ ν) : List κ := m.entries.map (·.1)

def values (m : OrderedMap κ ν) : List ν := m.entries.map (·.2)

def size (m : OrderedMap κ ν) : Nat := m.entries.length

def mapValues (f : ν → μ) (m : OrderedMap κ ν) : OrderedMap κ μ :=
  ⟨m.entries.map fun (k, v) => (k, f v)⟩

variable [BEq κ]

def setEntry (key : κ) (value : ν) : List (κ × ν) → List (κ × ν)
  | [] => [(key, value)]
  | (k, v) :: rest => if k == key then (k, value) :: rest else (k, v) :: setEntry key value rest

def insert (m : OrderedMap κ ν) (key : κ) (value : ν) : OrderedMap κ ν :=
  ⟨setEntry key value m.entries⟩

def erase (m : OrderedMap κ ν) (key : κ) : OrderedMap κ ν :=
  ⟨m.entries.filter fun entry => !(entry.1 == key)⟩

def get? (m : OrderedMap κ ν) (key : κ) : Option ν :=
  (m.entries.find? fun entry => entry.1 == key).map (·.2)

def contains (m : OrderedMap κ ν) (key : κ) : Bool := m.entries.any fun entry => entry.1 == key

def insertAll (m : OrderedMap κ ν) (entries : List (κ × ν)) : OrderedMap κ ν :=
  entries.foldl (fun acc (k, v) => acc.insert k v) m

def ofList (entries : List (κ × ν)) : OrderedMap κ ν := empty.insertAll entries

def update (m changes : OrderedMap κ ν) : OrderedMap κ ν := m.insertAll changes.entries

section Lookup

variable [LawfulBEq κ]

theorem find?_setEntry (key : κ) (value : ν) (k : κ) (entries : List (κ × ν)) :
    ((setEntry key value entries).find? fun entry => entry.1 == k).map (·.2) =
      if key == k then some value else (entries.find? fun entry => entry.1 == k).map (·.2) := by
  induction entries with
  | nil => by_cases h : key == k <;> simp [setEntry, h]
  | cons entry rest ih =>
    obtain ⟨a, b⟩ := entry
    by_cases hk : a == key
    · have := eq_of_beq hk
      subst this
      by_cases h : a == k <;> simp [setEntry, h]
    · by_cases h : a == k
      · have := eq_of_beq h
        subst this
        have : (key == a) = false := by simpa [BEq.comm] using hk
        simp [setEntry, hk, this]
      · simp [setEntry, hk, h, ih]

theorem get?_insert (m : OrderedMap κ ν) (key : κ) (value : ν) (k : κ) :
    (m.insert key value).get? k = if key == k then some value else m.get? k :=
  find?_setEntry key value k m.entries

theorem get?_erase (m : OrderedMap κ ν) (key k : κ) :
    (m.erase key).get? k = if key == k then none else m.get? k := by
  obtain ⟨entries⟩ := m
  simp only [erase, get?]
  induction entries with
  | nil => simp
  | cons entry rest ih =>
    obtain ⟨a, b⟩ := entry
    by_cases ha : a == key
    · have := eq_of_beq ha
      subst this
      by_cases h : a == k <;> simpa [h] using ih
    · by_cases h : a == k
      · have := eq_of_beq h
        subst this
        have : (key == a) = false := by simpa [BEq.comm] using ha
        simp [ha, this]
      · simpa [ha, h] using ih

end Lookup

section Entries

variable [LawfulBEq κ]

theorem setEntry_of_new {key : κ} {entries : List (κ × ν)} (value : ν) (h : key ∉ entries.map (·.1)) :
    setEntry key value entries = entries ++ [(key, value)] := by
  induction entries with
  | nil => rfl
  | cons entry rest ih =>
    have ⟨other, later⟩ : key ≠ entry.1 ∧ key ∉ rest.map (·.1) := by simpa using h
    simp [setEntry, other.symm, ih later]

theorem setEntry_of_mem {key : κ} {entries : List (κ × ν)} (value : ν) (distinct : (entries.map (·.1)).Nodup)
    (h : key ∈ entries.map (·.1)) :
    setEntry key value entries = entries.map fun entry => if entry.1 == key then (key, value) else entry := by
  induction entries with
  | nil => simp at h
  | cons entry rest ih =>
    have ⟨new, distinct⟩ : entry.1 ∉ rest.map (·.1) ∧ (rest.map (·.1)).Nodup := by simpa using distinct
    by_cases here : entry.1 = key
    case pos =>
      have others : (rest.map fun entry => if entry.1 == key then (key, value) else entry) = rest := by
        refine (List.map_congr_left fun other ho => ?_).trans (List.map_id rest)
        have differs : other.1 ≠ key := fun same => new (here.trans same.symm ▸ List.mem_map_of_mem ho)
        simp [differs]
      simp [setEntry, here, others]
    case neg =>
      have later : key ∈ rest.map (·.1) := by simpa [Ne.symm here] using h
      simp [setEntry, here, ih distinct later]

theorem insertAll_of_new {entries : List (κ × ν)} : ∀ {m : OrderedMap κ ν}, (m.keys ++ entries.map (·.1)).Nodup →
    m.insertAll entries = ⟨m.entries ++ entries⟩ := by
  induction entries with
  | nil => simp [insertAll]
  | cons entry rest ih =>
    intro m distinct
    have new : entry.1 ∉ m.entries.map (·.1) := by
      have ⟨_, _, apart⟩ := List.nodup_append.mp distinct
      exact fun hm => apart _ hm entry.1 (by simp) rfl
    have inserted : m.insert entry.1 entry.2 = ⟨m.entries ++ [entry]⟩ := by rw [insert, setEntry_of_new _ new]
    have step : m.insertAll (entry :: rest) = (m.insert entry.1 entry.2).insertAll rest := rfl
    rw [step, inserted, ih (by simpa [keys] using distinct)]
    simp

theorem ofList_of_nodup {entries : List (κ × ν)} (distinct : (entries.map (·.1)).Nodup) : ofList entries = ⟨entries⟩ := by
  rw [ofList, insertAll_of_new (by simpa [keys, empty] using distinct)]
  simp [empty]

end Entries

end OrderedMap

end Keychord
