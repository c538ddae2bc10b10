import Keychord.Keymap.Compile
import Keychord.Proofs.Keymap.Tree
import Mathlib.Data.List.Induction

namespace Keychord.Keymap

theorem isOk_iff {ε α : Type} {result : Except ε α} : result.isOk ↔ ∃ a, result = .ok a := by
  cases result <;> simp [Except.isOk, Except.toBool]

namespace Node

structure Represents (root : Node) (bindings : List Binding) : Prop where
  sorted : root.Sorted
  found  : ∀ path, (root.find? path).isSome ↔ path = [] ∨ ∃ b ∈ bindings, path <+: b.edges
  bound  : ∀ path command, (root.find? path).bind Node.command = some command →
    ∃ b ∈ bindings, b.edges = path ∧ b.command = command
  binds  : ∀ b ∈ bindings, ((root.find? b.edges).bind Node.command).isSome

theorem represents_nil : ({} : Node).Represents [] where
  sorted := sorted_empty
  found path := by cases path <;> simp [find?, Branches.child?]
  bound path command h := by cases path <;> simp [find?, Branches.child?] at h
  binds := nofun

theorem command_insert {root : Node} (h : root.Sorted) (edges path : List Edge) (command : String) :
    ((root.insert edges command).find? path).bind Node.command =
      if path = edges then some command else (root.find? path).bind Node.command := by
  rw [find?_insert h]
  by_cases hp : path <+: edges
  case neg => rw [if_neg hp, if_neg (by rintro rfl; exact hp List.prefix_rfl)]
  case pos =>
    obtain ⟨rest, rfl⟩ := hp
    rw [if_pos (List.prefix_append _ _)]
    cases rest with
    | nil => simp [Node.insert]
    | cons edge more =>
      have hn : path ≠ path ++ edge :: more := by simp
      rw [if_neg hn, List.drop_left]
      cases root.find? path <;> rfl

theorem Represents.insert {root : Node} {bindings : List Binding} (r : root.Represents bindings) (b : Binding) :
    (root.insert b.edges b.command).Represents (bindings ++ [b]) where
  sorted := r.sorted.insert _ _
  found path := by
    rw [find?_insert r.sorted]
    by_cases hp : path <+: b.edges
    · simp [hp]
    · simp [hp, r.found]
  bound path command h := by
    rw [command_insert r.sorted] at h
    split at h
    case isTrue he => exact ⟨b, by simp, he.symm, by simpa using h⟩
    case isFalse =>
      obtain ⟨b', hb, h⟩ := r.bound path command h
      exact ⟨b', List.mem_append_left _ hb, h⟩
  binds b' hb := by
    rw [command_insert r.sorted]
    split
    case isTrue => rfl
    case isFalse hne =>
      obtain hb | hb := List.mem_append.mp hb
      · exact r.binds b' hb
      · obtain rfl := List.mem_singleton.mp hb
        exact absurd rfl hne

theorem represents_treeOf (bindings : List Binding) : (treeOf bindings).Represents bindings := by
  rw [treeOf]
  induction bindings using List.reverseRecOn with
  | nil => exact represents_nil
  | append_singleton bindings b ih =>
    rw [List.foldl_append]
    exact ih.insert b

theorem isLeaf_iff (node : Node) : node.isLeaf ↔ ∀ edge, node.find? [edge] = none := by
  obtain ⟨command, branches⟩ := node
  cases branches with
  | none => simp [isLeaf, find?, Branches.child?]
  | branch e c below rest =>
    have hc : (⟨command, .branch e c below rest⟩ : Node).find? [e] ≠ none := by simp [find?, Branches.child?]
    simp only [isLeaf, reduceCtorEq, decide_false, Bool.false_eq_true, false_iff]
    exact fun h => hc (h e)

theorem find?_append (node : Node) (path more : List Edge) :
    node.find? (path ++ more) = (node.find? path).bind fun found => found.find? more := by
  induction path generalizing node with
  | nil => rfl
  | cons edge path ih => simp [find?, ih, Option.bind_assoc]

end Node

def Agree (bindings : List Binding) : Prop :=
  ∀ b ∈ bindings, ∀ b' ∈ bindings, b.edges = b'.edges → b.command = b'.command

theorem agree_of_sameKeys? {earlier : List Binding} {b : Binding} (h : sameKeys? earlier b = none) (ha : Agree earlier) :
    Agree (earlier ++ [b]) := by
  have hb : ∀ b' ∈ earlier, b'.edges = b.edges → b'.command = b.command := by
    intro b' hb he
    cases hf : earlier.find? fun other => other.edges = b.edges with
    | none => exact absurd he (by simpa using List.find?_eq_none.mp hf b' hb)
    | some first =>
      have hfe : first.edges = b.edges := by simpa using List.find?_some hf
      have hfc : first.command = b.command := by simpa [sameKeys?, hf] using h
      exact (ha b' hb first (List.mem_of_find?_eq_some hf) (he.trans hfe.symm)).trans hfc
  intro b₁ h₁ b₂ h₂ he
  simp only [List.mem_append, List.mem_singleton] at h₁ h₂
  obtain h₁ | rfl := h₁ <;> obtain h₂ | rfl := h₂
  · exact ha b₁ h₁ b₂ h₂ he
  · exact hb b₁ h₁ he
  · exact (hb b₂ h₂ he.symm).symm
  · rfl

theorem agree_of_go {all earlier rest : List Binding} (h : firstConflict?.go all earlier rest = none)
    (ha : Agree earlier) : Agree (earlier ++ rest) := by
  induction rest generalizing earlier with
  | nil => simpa using ha
  | cons b rest ih =>
    rw [firstConflict?.go, Option.or_eq_none_iff] at h
    have hs : sameKeys? earlier b = none := by
      have hc := h.left
      rw [conflictOf?] at hc
      split at hc
      case h_1 => cases hc
      case h_2 => simpa using hc
    simpa using ih h.right (agree_of_sameKeys? hs ha)

theorem agree_of_firstConflict? {bindings : List Binding} (h : firstConflict? bindings = none) : Agree bindings :=
  agree_of_go h nofun

structure Binding.IsIn (b : Binding) (leader : Key) (bindings : OrderedMap String String) : Prop where
  entry : (b.source, b.command) ∈ bindings.entries
  keys  : Notation.parse leader b.source = .ok b.keys

section

variable {leader : Key} {entries : List (String × String)} {bindings : List Binding} {b : Binding}

theorem readBinding_eq_ok_iff {source command : String} : readBinding leader source command = .ok b ↔
    (b.source, b.command) = (source, command) ∧ b.command ≠ "" ∧ Notation.parse leader b.source = .ok b.keys := by
  constructor
  · intro h
    rw [readBinding] at h
    split at h
    case isTrue => cases h
    case isFalse hc =>
      split at h
      case h_1 => cases h
      case h_2 keys hk => cases h; exact ⟨rfl, hc, hk⟩
  · rintro ⟨he, hc, hk⟩
    cases he
    rw [readBinding, if_neg hc, hk]

theorem readBindings_cons_eq_ok_iff {entry : String × String} {rest : List (String × String)} :
    readBindings leader (entry :: rest) = .ok bindings ↔
      ∃ b more, readBinding leader entry.1 entry.2 = .ok b ∧ readBindings leader rest = .ok more ∧
        bindings = b :: more := by
  rw [readBindings]
  cases readBinding leader entry.1 entry.2 with
  | error fault => simp [bind, Except.bind]
  | ok b => cases readBindings leader rest <;> simp [bind, Except.bind, pure, Except.pure, eq_comm]

theorem readBindings_eq_ok_iff : readBindings leader entries = .ok bindings ↔
    bindings.map (fun b => (b.source, b.command)) = entries ∧
      ∀ b ∈ bindings, b.command ≠ "" ∧ Notation.parse leader b.source = .ok b.keys := by
  induction entries generalizing bindings with
  | nil => cases bindings <;> simp [readBindings]
  | cons entry rest ih =>
    simp only [readBindings_cons_eq_ok_iff, readBinding_eq_ok_iff, ih]
    cases bindings with
    | nil => simp
    | cons b more =>
      simp
      tauto

theorem mem_iff_isIn {map : OrderedMap String String} (he : bindings.map (fun b => (b.source, b.command)) = map.entries)
    (hk : ∀ b ∈ bindings, Notation.parse leader b.source = .ok b.keys) : b ∈ bindings ↔ b.IsIn leader map := by
  constructor
  · intro hb
    have entry : (b.source, b.command) ∈ map.entries := he ▸ List.mem_map_of_mem hb
    exact ⟨entry, hk b hb⟩
  · rintro ⟨entry, keys⟩
    rw [← he] at entry
    obtain ⟨⟨source, keys', command⟩, hb, hbe⟩ := List.mem_map.mp entry
    cases hbe
    have same : keys' = b.keys := by simpa [hk _ hb] using keys
    rwa [same] at hb

theorem mem_iff_of_readBindings {map : OrderedMap String String} (h : readBindings leader map.entries = .ok bindings) :
    b ∈ bindings ↔ b.IsIn leader map := by
  obtain ⟨entries, read⟩ := readBindings_eq_ok_iff.mp h
  exact mem_iff_isIn entries fun b hb => (read b hb).right

end

end Keymap

structure Keymap.Compiled (keymap : Keymap) (bindings : List Keymap.Binding) : Prop where
  entries    : bindings.map (fun b => (b.source, b.command)) = keymap.bindings.entries
  parsed     : ∀ b ∈ bindings, Notation.parse keymap.leader b.source = .ok b.keys
  agree      : Keymap.Agree bindings
  represents : keymap.root.Represents bindings

namespace Keymap

theorem compiled_empty : Keymap.empty.Compiled [] where
  entries := rfl
  parsed := nofun
  agree := nofun
  represents := Node.represents_nil

theorem compile_ok {leader : Notation.Leader} {timeout : Int} {bindings : OrderedMap String String} {keymap : Keymap}
    (h : compile leader timeout bindings = .ok keymap) :
    keymap.bindings = bindings ∧ keymap.timeout = timeout ∧ leader.toKey = .ok keymap.leader ∧
      ∃ parsed, keymap.Compiled parsed := by
  rw [compile] at h
  split at h
  case h_1 => cases h
  case h_2 key hk =>
    cases hr : readBindings key bindings.entries with
    | error fault => rw [hr] at h; cases h
    | ok parsed =>
      rw [hr] at h
      dsimp only [bind, Except.bind] at h
      split at h
      case h_1 => cases h
      case h_2 hc =>
        obtain ⟨he, hp⟩ := readBindings_eq_ok_iff.mp hr
        have compiled : (⟨key, timeout, bindings, treeOf parsed⟩ : Keymap).Compiled parsed :=
          ⟨he, fun b hb => (hp b hb).right, agree_of_firstConflict? hc, Node.represents_treeOf parsed⟩
        cases h
        exact ⟨rfl, rfl, hk, parsed, compiled⟩

namespace Compiled

variable {keymap : Keymap} {bindings : List Binding} {path : List Edge} {node : Node}

theorem mem_iff (compiled : keymap.Compiled bindings) {b : Binding} :
    b ∈ bindings ↔ b.IsIn keymap.leader keymap.bindings := mem_iff_isIn compiled.entries compiled.parsed

theorem command_eq_some_iff (compiled : keymap.Compiled bindings) (hn : keymap.root.find? path = some node)
    {command : String} : node.command = some command ↔ ∃ b ∈ bindings, b.edges = path ∧ b.command = command := by
  have bound : ∀ command, node.command = some command → ∃ b ∈ bindings, b.edges = path ∧ b.command = command :=
    fun command hc => compiled.represents.bound path command (by simp [hn, hc])
  refine ⟨bound command, ?_⟩
  rintro ⟨b, hb, rfl, rfl⟩
  have binds := compiled.represents.binds b hb
  rw [hn, Option.bind_some] at binds
  obtain ⟨command, hc⟩ := Option.isSome_iff_exists.mp binds
  obtain ⟨b', hb', he, rfl⟩ := bound command hc
  rw [hc, compiled.agree b' hb' b hb he]

theorem binding_of_command (compiled : keymap.Compiled bindings) (hn : keymap.root.find? path = some node)
    {command : String} (hc : node.command = some command) :
    ∃ source keys, (source, command) ∈ keymap.bindings.entries ∧ Notation.parse keymap.leader source = .ok keys ∧
      keys.map Key.edge = path := by
  obtain ⟨b, hb, rfl, rfl⟩ := (compiled.command_eq_some_iff hn).mp hc
  obtain ⟨entry, parsed⟩ := compiled.mem_iff.mp hb
  exact ⟨b.source, b.keys, entry, parsed, rfl⟩

end Compiled

end Keychord.Keymap
