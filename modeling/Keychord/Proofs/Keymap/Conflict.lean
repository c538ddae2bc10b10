import Keychord.Proofs.Keymap.Compiled

namespace Keychord.Keymap

namespace Binding

-- How a binding is in the way of another one: it is the first key of a chord, or it has the same keys and another
-- command.
def Clashes (b : Binding) : Clash → Binding → Prop
  | .startsChord, other => b.keys.length = 1 ∧ 1 < other.keys.length ∧ other.edges.head? = b.edges.head?
  | .sameKeys, other => b.edges = other.edges ∧ b.command ≠ other.command

instance (b other : Binding) : (clash : Clash) → Decidable (b.Clashes clash other)
  | .startsChord => inferInstanceAs (Decidable (_ ∧ _ ∧ _))
  | .sameKeys => inferInstanceAs (Decidable (_ ∧ _))

end Binding

section Search

variable {all earlier rest : List Binding} {b other : Binding} {c : Conflict}

theorem startedChord?_eq (all : List Binding) (b : Binding) : startedChord? all b =
    if b.keys.length = 1 then all.find? fun other => other.isChord && other.edges.head? = b.edges.head? else none := by
  rw [startedChord?]
  split
  case h_1 edge he =>
    have single : b.keys.length = 1 := by simpa [Binding.edges] using congrArg List.length he
    rw [if_pos single, he]
    rfl
  case h_2 hs =>
    rw [if_neg]
    intro single
    obtain ⟨key, hk⟩ := List.length_eq_one_iff.mp single
    exact hs key.edge (by simp [Binding.edges, hk])

theorem startedChord?_eq_some (h : startedChord? all b = some other) : other ∈ all ∧ b.Clashes .startsChord other := by
  rw [startedChord?_eq] at h
  split at h
  case isFalse => cases h
  case isTrue single =>
    have found := List.find?_some h
    simp [Binding.isChord] at found
    exact ⟨List.mem_of_find?_eq_some h, single, found⟩

theorem startedChord?_eq_none_iff :
    startedChord? all b = none ↔ ∀ other ∈ all, ¬b.Clashes .startsChord other := by
  rw [startedChord?_eq]
  split
  case isTrue single =>
    rw [List.find?_eq_none]
    simp [Binding.Clashes, Binding.isChord, single]
  case isFalse single => simp [Binding.Clashes, single]

theorem sameKeys?_eq_some (h : sameKeys? earlier b = some other) : other ∈ earlier ∧ b.Clashes .sameKeys other := by
  obtain ⟨hf, hc⟩ := Option.filter_eq_some_iff.mp h
  have same : other.edges = b.edges := by simpa using List.find?_some hf
  have differs : other.command ≠ b.command := by simpa using hc
  exact ⟨List.mem_of_find?_eq_some hf, same.symm, differs.symm⟩

theorem sameKeys?_eq_none (ha : Agree (earlier ++ b :: rest)) : sameKeys? earlier b = none := by
  cases h : sameKeys? earlier b with
  | none => rfl
  | some other =>
    obtain ⟨hm, same, differs⟩ := sameKeys?_eq_some h
    exact absurd (ha b (by simp) other (by simp [hm]) same) differs

theorem conflictOf?_eq_some (h : conflictOf? all earlier b = some c) : ∃ other,
    (other ∈ all ∨ other ∈ earlier) ∧ b.Clashes c.clash other ∧ c.source = b.source ∧ c.other = other.source := by
  rw [conflictOf?] at h
  split at h
  case h_1 other hs =>
    cases h
    obtain ⟨hm, clash⟩ := startedChord?_eq_some hs
    exact ⟨other, .inl hm, clash, rfl, rfl⟩
  case h_2 =>
    obtain ⟨other, hs, rfl⟩ := Option.map_eq_some_iff.mp h
    obtain ⟨hm, clash⟩ := sameKeys?_eq_some hs
    exact ⟨other, .inr hm, clash, rfl, rfl⟩

theorem clashes_of_go (h : firstConflict?.go all earlier rest = some c) : ∃ b ∈ rest, ∃ other,
    (other ∈ all ∨ other ∈ earlier ++ rest) ∧ b.Clashes c.clash other ∧ c.source = b.source ∧
      c.other = other.source := by
  induction rest generalizing earlier with
  | nil => cases h
  | cons b rest ih =>
    rw [firstConflict?.go, Option.or_eq_some_iff] at h
    obtain h | ⟨-, h⟩ := h
    · obtain ⟨other, hm, clash⟩ := conflictOf?_eq_some h
      exact ⟨b, by simp, other, hm.imp_right (List.mem_append_left _), clash⟩
    · obtain ⟨b', hb, other, hm, clash⟩ := ih h
      exact ⟨b', List.mem_cons_of_mem b hb, other, by simpa using hm, clash⟩

theorem clashes_of_firstConflict? (h : firstConflict? all = some c) : ∃ b ∈ all, ∃ other ∈ all,
    b.Clashes c.clash other ∧ c.source = b.source ∧ c.other = other.source := by
  obtain ⟨b, hb, other, hm, clash⟩ := clashes_of_go h
  exact ⟨b, hb, other, by simpa using hm, clash⟩

theorem go_eq_none (hs : ∀ b ∈ rest, ∀ other ∈ all, ¬b.Clashes .startsChord other) (ha : Agree (earlier ++ rest)) :
    firstConflict?.go all earlier rest = none := by
  induction rest generalizing earlier with
  | nil => rfl
  | cons b rest ih =>
    obtain ⟨hb, hr⟩ := List.forall_mem_cons.mp hs
    have later : firstConflict?.go all (earlier ++ [b]) rest = none := ih hr (by simpa using ha)
    rw [firstConflict?.go, later, conflictOf?, startedChord?_eq_none_iff.mpr hb, sameKeys?_eq_none ha]
    rfl

theorem unstarted_of_go (h : firstConflict?.go all earlier rest = none) :
    ∀ b ∈ rest, ∀ other ∈ all, ¬b.Clashes .startsChord other := by
  induction rest generalizing earlier with
  | nil => nofun
  | cons b rest ih =>
    rw [firstConflict?.go, Option.or_eq_none_iff, conflictOf?] at h
    obtain ⟨hb, hr⟩ := h
    refine List.forall_mem_cons.mpr ⟨?_, ih hr⟩
    split at hb
    case h_1 => cases hb
    case h_2 hs => exact startedChord?_eq_none_iff.mp hs

-- No clash is missed: of several bindings with the same keys, each is compared with the first, so all agree.
theorem firstConflict?_eq_none_iff :
    firstConflict? all = none ↔ ∀ b ∈ all, ∀ other ∈ all, ∀ clash, ¬b.Clashes clash other := by
  constructor
  · intro h b hb other ho clash hc
    cases clash with
    | startsChord => exact unstarted_of_go h b hb other ho hc
    | sameKeys => exact hc.right (agree_of_firstConflict? h b hb other ho hc.left)
  · intro h
    have agree : Agree all := by
      intro b hb other ho same
      by_contra differs
      exact h b hb other ho .sameKeys ⟨same, differs⟩
    exact go_eq_none (fun b hb other ho => h b hb other ho .startsChord) agree

end Search

def Readable (leader : Key) (bindings : OrderedMap String String) : Prop :=
  ∀ entry ∈ bindings.entries, entry.2 ≠ "" ∧ ∃ keys, Notation.parse leader entry.1 = .ok keys

instance (leader : Key) (bindings : OrderedMap String String) : Decidable (Readable leader bindings) :=
  decidable_of_iff (∀ entry ∈ bindings.entries, entry.2 ≠ "" ∧ (Notation.parse leader entry.1).isOk) <| by
    simp [Readable, isOk_iff]

section Compile

variable {leader : Notation.Leader} {timeout : Int} {key : Key} {bindings : OrderedMap String String}
  {parsed : List Binding}

theorem Readable.exists_readBindings (h : Readable key bindings) :
    ∃ parsed, readBindings key bindings.entries = .ok parsed := by
  obtain ⟨entries⟩ := bindings
  simp only [Readable] at h
  induction entries with
  | nil => exact ⟨[], rfl⟩
  | cons entry rest ih =>
    obtain ⟨⟨hc, keys, hk⟩, hr⟩ := List.forall_mem_cons.mp h
    obtain ⟨parsed, hp⟩ := ih hr
    have read : readBinding key entry.1 entry.2 = .ok ⟨entry.1, keys, entry.2⟩ :=
      readBinding_eq_ok_iff.mpr ⟨rfl, hc, hk⟩
    exact ⟨_, readBindings_cons_eq_ok_iff.mpr ⟨_, parsed, read, hp, rfl⟩⟩

theorem compile_of_read (hl : leader.toKey = .ok key) (hr : readBindings key bindings.entries = .ok parsed) :
    compile leader timeout bindings = match firstConflict? parsed with
      | some c => .error (.conflict c)
      | none => .ok ⟨key, timeout, bindings, treeOf parsed⟩ := by
  rw [compile, hl]
  dsimp only
  rw [hr]
  rfl

theorem compile_eq_conflict_iff (hl : leader.toKey = .ok key) (hr : readBindings key bindings.entries = .ok parsed)
    {c : Conflict} : compile leader timeout bindings = .error (.conflict c) ↔ firstConflict? parsed = some c := by
  rw [compile_of_read hl hr]
  cases firstConflict? parsed <;> simp

theorem compile_conflict_iff (hl : leader.toKey = .ok key) (hr : Readable key bindings) :
    ((∃ c, compile leader timeout bindings = .error (.conflict c)) ↔
      ∃ b other : Binding, b.IsIn key bindings ∧ other.IsIn key bindings ∧ ∃ clash, b.Clashes clash other) ∧
    ∀ c, compile leader timeout bindings = .error (.conflict c) → ∃ b other : Binding, b.IsIn key bindings ∧
      other.IsIn key bindings ∧ b.Clashes c.clash other ∧ c.source = b.source ∧ c.other = other.source := by
  obtain ⟨parsed, hp⟩ := hr.exists_readBindings
  simp only [compile_eq_conflict_iff hl hp, ← mem_iff_of_readBindings hp]
  constructor
  · rw [← Option.isSome_iff_exists, ← Option.ne_none_iff_isSome, ne_eq, firstConflict?_eq_none_iff]
    push Not
    constructor
    · rintro ⟨b, hb, other, ho, clash, hc⟩
      exact ⟨b, other, hb, ho, clash, hc⟩
    · rintro ⟨b, other, hb, ho, clash, hc⟩
      exact ⟨b, hb, other, ho, clash, hc⟩
  · intro c hc
    obtain ⟨b, hb, other, ho, clash⟩ := clashes_of_firstConflict? hc
    exact ⟨b, other, hb, ho, clash⟩

def respelled : OrderedMap String String := ⟨[("<C-M-x>", "cut"), ("<a-c-X>", "cut"), ("<M-C-x>", "copy")]⟩

theorem compile_conflict_respelled : Readable Notation.defaultLeader respelled ∧
    ∃ c, compile (.text " ") 500 respelled = .error (.conflict c) := by
  have leader : (Notation.Leader.text " ").toKey = .ok Notation.defaultLeader := by decide +kernel
  have readable : Readable Notation.defaultLeader respelled := by decide +kernel
  have clash : ∃ b other : Binding, b.IsIn Notation.defaultLeader respelled ∧
      other.IsIn Notation.defaultLeader respelled ∧ ∃ clash, b.Clashes clash other := by
    refine ⟨⟨"<a-c-X>", [⟨"x", { ctrl := true, alt := true }, by decide⟩], "cut"⟩,
      ⟨"<M-C-x>", [⟨"x", { ctrl := true, alt := true }, by decide⟩], "copy"⟩, ?_, ?_, .sameKeys, by decide +kernel⟩
    · exact ⟨by decide +kernel, by decide +kernel⟩
    · exact ⟨by decide +kernel, by decide +kernel⟩
  exact ⟨readable, (compile_conflict_iff leader readable).left.mpr clash⟩

end Compile

end Keychord.Keymap
