import Keychord.Proofs.Keymap.Compiled
import Keychord.Proofs.Notation.Reading

namespace Keychord.Keymap

-- What a node says of the path to it: the command that is bound there, and the edges by which some binding goes on.
structure Node.Reports (node : Node) (bound : Binding → Prop) (path : List Edge) : Prop where
  command : ∀ command, node.command = some command ↔ ∃ b, bound b ∧ b.edges = path ∧ b.command = command
  leaf    : node.isLeaf ↔ ∀ b, bound b → path <+: b.edges → b.edges = path
  sorted  : node.nextEdges.Pairwise (· < ·)
  next    : ∀ edge, edge ∈ node.nextEdges ↔ ∃ b, bound b ∧ path ++ [edge] <+: b.edges

theorem Node.isLeaf_of_nextEdges {node : Node} (none : node.nextEdges = []) : node.isLeaf := by
  obtain ⟨command, branches⟩ := node
  cases branches with
  | none => rfl
  | branch => simp [nextEdges, Branches.edges] at none

theorem exists_next_edge {path edges : List Edge} (hp : path <+: edges) (hne : edges ≠ path) :
    ∃ edge, path ++ [edge] <+: edges := by
  obtain ⟨rest, rfl⟩ := hp
  cases rest with
  | nil => simp at hne
  | cons edge rest => exact ⟨edge, rest, by simp⟩

namespace Node.Represents

variable {root node : Node} {bindings : List Binding} {path : List Edge}

theorem leads_iff (r : root.Represents bindings) (hn : root.find? path = some node) (edge : Edge) :
    (node.find? [edge]).isSome ↔ ∃ b ∈ bindings, path ++ [edge] <+: b.edges := by
  have found := r.found (path ++ [edge])
  rw [find?_append, hn] at found
  simpa using found

theorem isLeaf_iff (r : root.Represents bindings) (hn : root.find? path = some node) :
    node.isLeaf ↔ ∀ b ∈ bindings, path <+: b.edges → b.edges = path := by
  rw [Node.isLeaf_iff]
  constructor
  · intro leaf b hb hp
    by_contra hne
    obtain ⟨edge, he⟩ := exists_next_edge hp hne
    have leads := (r.leads_iff hn edge).mpr ⟨b, hb, he⟩
    simp [leaf edge] at leads
  · intro last edge
    by_contra hne
    obtain ⟨b, hb, he⟩ := (r.leads_iff hn edge).mp (Option.isSome_iff_ne_none.mpr hne)
    have ends : b.edges = path := last b hb ((List.prefix_append _ _).trans he)
    have longer := he.length_le
    simp [ends] at longer

end Node.Represents

namespace Compiled

variable {keymap : Keymap} {bindings : List Binding} {path : List Edge} {node : Node}

theorem reports (compiled : keymap.Compiled bindings) (hn : keymap.root.find? path = some node) :
    node.Reports (· ∈ bindings) path where
  command _ := compiled.command_eq_some_iff hn
  leaf := compiled.represents.isLeaf_iff hn
  sorted := (compiled.represents.sorted.find? hn).edges_pairwise
  next edge := Node.mem_nextEdges_iff.trans (compiled.represents.leads_iff hn edge)

theorem command_of_isLeaf (compiled : keymap.Compiled bindings) (hn : keymap.root.find? path = some node)
    (some : path ≠ []) (leaf : node.isLeaf) : node.command.isSome := by
  have found := (compiled.represents.found path).mp (by simp [hn])
  have ⟨b, hb, begins⟩ := found.resolve_left some
  have ends := (compiled.represents.isLeaf_iff hn).mp leaf b hb begins
  exact Option.isSome_iff_exists.mpr ⟨b.command, (compiled.command_eq_some_iff hn).mpr ⟨b, hb, ends, rfl⟩⟩

theorem command_root (compiled : keymap.Compiled bindings) : keymap.root.command = none := by
  by_contra hne
  obtain ⟨command, hc⟩ := Option.ne_none_iff_exists'.mp hne
  have hr : keymap.root.find? [] = some keymap.root := rfl
  obtain ⟨b, hb, he, -⟩ := (compiled.command_eq_some_iff hr).mp hc
  exact Notation.parse_ne_nil (compiled.parsed b hb) (List.map_eq_nil_iff.mp he)

theorem lookup_source (compiled : keymap.Compiled bindings) {source command : String}
    (hs : keymap.bindings.get? source = some command) : ∃ keys node, Notation.parse keymap.leader source = .ok keys ∧
      keymap.lookup keys = some node ∧ node.command = some command := by
  obtain ⟨⟨source', command'⟩, hf, rfl⟩ := Option.map_eq_some_iff.mp hs
  obtain rfl : source' = source := by simpa using List.find?_some hf
  have entry := List.mem_of_find?_eq_some hf
  rw [← compiled.entries] at entry
  obtain ⟨b, hb, he⟩ := List.mem_map.mp entry
  cases he
  obtain ⟨node, hn⟩ : ∃ node, keymap.root.find? b.edges = some node := by
    rw [← Option.isSome_iff_exists, compiled.represents.found]
    exact .inr ⟨b, hb, List.prefix_rfl⟩
  exact ⟨b.keys, node, compiled.parsed b hb, hn, (compiled.command_eq_some_iff hn).mpr ⟨b, hb, rfl, rfl⟩⟩

end Compiled

theorem lookup_compile {leader : Notation.Leader} {timeout : Int} {bindings : OrderedMap String String}
    {keymap : Keymap} (h : compile leader timeout bindings = .ok keymap) :
    leader.toKey = .ok keymap.leader ∧
      (∀ keys, ((keymap.lookup keys).isSome ↔
          keys = [] ∨ ∃ b : Binding, b.IsIn keymap.leader bindings ∧ keys.map Key.edge <+: b.edges) ∧
        ∀ node, keymap.lookup keys = some node →
          node.Reports (·.IsIn keymap.leader bindings) (keys.map Key.edge)) ∧
      (∃ root, keymap.lookup [] = some root ∧ root.command = none) ∧
      ∀ source command, bindings.get? source = some command → ∃ keys node,
        Notation.parse keymap.leader source = .ok keys ∧ keymap.lookup keys = some node ∧
          node.command = some command := by
  obtain ⟨rfl, -, hl, parsed, compiled⟩ := compile_ok h
  have mem : (fun b : Binding => b.IsIn keymap.leader keymap.bindings) = (· ∈ parsed) := by
    funext b
    exact propext compiled.mem_iff.symm
  refine ⟨hl, fun keys => ⟨?_, fun node hn => mem ▸ compiled.reports hn⟩, ⟨_, rfl, compiled.command_root⟩,
    fun source command => compiled.lookup_source⟩
  rw [lookup, compiled.represents.found]
  simp [compiled.mem_iff]

def shared : OrderedMap String String :=
  ⟨[("<leader>g", "go"), (",<c-x>", "cut"), ("<LEADER>ga", "all"), (",<C-X>", "cut")]⟩

theorem lookup_compile_shared : ∃ keymap keys node, compile (.text ",") 500 shared = .ok keymap ∧
    Notation.parse keymap.leader ",<C-X>" = .ok keys ∧ keymap.lookup keys = some node ∧ node.command = some "cut" := by
  have compiles : (compile (.text ",") 500 shared).isOk := by decide +kernel
  cases h : compile (.text ",") 500 shared with
  | error fault =>
    rw [h] at compiles
    cases compiles
  | ok keymap =>
    obtain ⟨-, -, -, found⟩ := lookup_compile h
    obtain ⟨keys, node, hk, hn, hc⟩ := found ",<C-X>" "cut" (by decide +kernel)
    exact ⟨keymap, keys, node, rfl, hk, hn, hc⟩

end Keychord.Keymap
