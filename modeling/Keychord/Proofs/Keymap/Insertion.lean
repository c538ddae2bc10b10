import Keychord.Proofs.Keymap.Lookup

namespace Keychord.Keymap

def cleared (keymap : Keymap) : Keymap := { keymap with root := {} }

def insertAll (keymap : Keymap) (bindings : List Binding) : Keymap :=
  bindings.foldl (fun keymap b => keymap.insert b.keys b.command) keymap

def lastCommand? (bindings : List Binding) (path : List Edge) : Option String :=
  (bindings.filter fun b => b.edges = path).getLast?.map Binding.command

section

variable (keymap : Keymap) (bindings : List Binding) (path : List Edge)

theorem lastCommand?_concat (b : Binding) :
    lastCommand? (bindings ++ [b]) path = if path = b.edges then some b.command else lastCommand? bindings path := by
  by_cases he : b.edges = path
  case pos => simp [lastCommand?, he]
  case neg => simp [lastCommand?, he, Ne.symm he]

theorem command_treeOf : ((treeOf bindings).find? path).bind Node.command = lastCommand? bindings path := by
  induction bindings using List.reverseRecOn with
  | nil => cases path <;> rfl
  | append_singleton bindings b ih =>
    have sorted : (treeOf bindings).Sorted := (Node.represents_treeOf bindings).sorted
    have grown : treeOf (bindings ++ [b]) = (treeOf bindings).insert b.edges b.command := by simp [treeOf]
    rw [grown, Node.command_insert sorted, lastCommand?_concat, ih]

theorem root_insertAll : (keymap.insertAll bindings).root =
    bindings.foldl (fun root b => root.insert b.edges b.command) keymap.root := by
  induction bindings generalizing keymap with
  | nil => rfl
  | cons b bindings ih => exact ih (keymap.insert b.keys b.command)

theorem root_insertAll_cleared : (keymap.cleared.insertAll bindings).root = treeOf bindings :=
  root_insertAll keymap.cleared bindings

theorem represents_insertAll : (keymap.cleared.insertAll bindings).root.Represents bindings := by
  rw [root_insertAll_cleared]
  exact Node.represents_treeOf bindings

end

theorem command_insert_of_ne {keymap : Keymap} (sorted : keymap.root.Sorted) {keys other : List Key}
    (hne : other.map Key.edge ≠ keys.map Key.edge) (command : String) :
    ((keymap.insert keys command).lookup other).bind Node.command = (keymap.lookup other).bind Node.command := by
  rw [lookup, insert, Node.command_insert sorted, if_neg hne, lookup]

theorem lookup_insertAll (keymap : Keymap) (bindings : List Binding) :
    (∀ keys, ((keymap.cleared.insertAll bindings).lookup keys).isSome ↔
        keys = [] ∨ ∃ b ∈ bindings, keys.map Key.edge <+: b.edges) ∧
      (∀ keys node, (keymap.cleared.insertAll bindings).lookup keys = some node →
        node.command = lastCommand? bindings (keys.map Key.edge) ∧
          (node.isLeaf ↔ ∀ b ∈ bindings, keys.map Key.edge <+: b.edges → b.edges = keys.map Key.edge)) ∧
      ∀ keys command other, other.map Key.edge ≠ keys.map Key.edge →
        (((keymap.cleared.insertAll bindings).insert keys command).lookup other).bind Node.command =
          ((keymap.cleared.insertAll bindings).lookup other).bind Node.command := by
  have represents := represents_insertAll keymap bindings
  refine ⟨?found, ?nodes, ?others⟩
  case found =>
    intro keys
    rw [lookup, represents.found, List.map_eq_nil_iff]
  case nodes =>
    intro keys node hn
    have command : node.command = lastCommand? bindings (keys.map Key.edge) := by
      rw [← command_treeOf, ← root_insertAll_cleared keymap, ← lookup, hn, Option.bind_some]
    exact ⟨command, represents.isLeaf_iff hn⟩
  case others =>
    intro keys command other hne
    exact command_insert_of_ne represents.sorted hne command

def small : Key := .ofChar 'g' .none

def capital : Key := .ofChar 'G' .none

def overlapping : List Binding :=
  [⟨"gg", [small, small], "top"⟩, ⟨"", [], "all"⟩, ⟨"g", [small], "go"⟩, ⟨"GG", [capital, capital], "end"⟩]

theorem lookup_insertAll_overlapping :
    (∃ node, (Keymap.empty.cleared.insertAll overlapping).lookup [small, capital] = some node ∧
      node.command = some "end" ∧ node.isLeaf) ∧
    [].map Key.edge ≠ [small].map Key.edge ∧
      (((Keymap.empty.cleared.insertAll overlapping).insert [small] "grow").lookup []).bind Node.command = some "all" := by
  obtain ⟨found, nodes, others⟩ := lookup_insertAll .empty overlapping
  constructor
  case left =>
    have starts : ∃ b ∈ overlapping, [small, capital].map Key.edge <+: b.edges := by decide +kernel
    obtain ⟨node, hn⟩ := Option.isSome_iff_exists.mp ((found [small, capital]).mpr (.inr starts))
    obtain ⟨command, leaf⟩ := nodes [small, capital] node hn
    have last : lastCommand? overlapping ([small, capital].map Key.edge) = some "end" := by decide +kernel
    exact ⟨node, hn, command.trans last, leaf.mpr (by decide +kernel)⟩
  case right =>
    have other : [].map Key.edge ≠ [small].map Key.edge := by decide +kernel
    have before : ((Keymap.empty.cleared.insertAll overlapping).lookup []).bind Node.command = some "all" := by
      decide +kernel
    exact ⟨other, (others [small] "grow" [] other).trans before⟩

end Keychord.Keymap
