import Keychord.Proofs.Keymap.Insertion
import Mathlib.Data.Finset.Card

namespace Keychord.Keymap

-- So many turns of the count, from one stack to another. In each turn the node on top gives way to its children. A node
-- does not tell which of them was inserted first, so they may come in any order.
inductive Turns : Nat → List Node → List Node → Prop
  | none {stack : List Node} : Turns 0 stack stack
  | visit {node : Node} {stack pushed last : List Node} {turns : Nat} (order : pushed.Perm node.branches.children)
    (later : Turns turns (pushed ++ stack) last) : Turns (turns + 1) (node :: stack) last

namespace Turns

variable {stack last : List Node} {turns : Nat}

theorem total_eq (t : Turns turns stack last) : Node.total stack = turns + Node.total last := by
  induction t with
  | none => simp
  | visit order later ih => rw [Node.total_turn order, ih, Nat.add_right_comm]

theorem exists_ended (stack : List Node) : Turns (Node.total stack) stack [] := by
  fun_induction Node.tally 0 stack with
  | case1 => exact none
  | case2 counted node stack ih =>
    have order := List.reverse_perm node.branches.children
    rw [Node.total_turn order]
    exact visit order ih

theorem eq_nil_of_total (h : Node.total stack = 0) : stack = [] := by
  cases stack with
  | nil => rfl
  | cons node stack => simp [Node.total, Node.size] at h

end Turns

namespace Branches

variable {branches : Branches}

def paths : Branches → List (List Edge)
  | none => []
  | branch e _ below rest => [e] :: below.paths.map (e :: ·) ++ rest.paths

theorem length_paths (branches : Branches) : branches.paths.length = branches.size := by
  induction branches with
  | none => rfl
  | branch e c below rest ihBelow ihRest => simp [paths, size, ihBelow, ihRest, Nat.add_right_comm]

theorem Sorted.mem_paths_iff (h : branches.Sorted) (command : Option String) (path : List Edge) :
    path ∈ branches.paths ↔ path ≠ [] ∧ ((⟨command, branches⟩ : Node).find? path).isSome := by
  induction branches generalizing path command with
  | none => cases path <;> simp [paths, Node.find?, Branches.child?]
  | branch e c below rest ihBelow ihRest =>
    have inBelow := ihBelow h.right.left c
    have inRest := ihRest h.right.right command
    -- The rest has no branch of this edge.
    have absent : rest.child? e = .none := h.left.child?_eq_none
    cases path with
    | nil => simp [paths, inRest]
    | cons edge more =>
      by_cases he : edge = e
      case pos => cases more <;> simp [paths, he, inBelow, inRest, Node.find?, Branches.child?, absent]
      case neg => simp [paths, he, Ne.symm he, inRest, Node.find?, Branches.child?]

theorem Sorted.not_mem_paths (h : branches.Sorted) {edge : Edge} (ha : branches.Above edge) (more : List Edge) :
    edge :: more ∉ branches.paths := by
  rw [h.mem_paths_iff .none]
  simp [Node.find?, ha.child?_eq_none]

theorem Sorted.nodup_paths (h : branches.Sorted) : branches.paths.Nodup := by
  induction branches with
  | none => exact .nil
  | branch e c below rest ihBelow ihRest =>
    have first : [e] ∉ below.paths.map (e :: ·) := by simp [h.right.left.mem_paths_iff c]
    have inside : (below.paths.map (e :: ·)).Nodup := (ihBelow h.right.left).map List.cons_injective
    apply List.Nodup.append (List.nodup_cons.mpr ⟨first, inside⟩) (ihRest h.right.right)
    intro path hp hr
    cases List.mem_cons.mp hp
    case inl hp => exact h.right.right.not_mem_paths h.left [] (hp ▸ hr)
    case inr hp =>
      have ⟨more, _, he⟩ := List.mem_map.mp hp
      exact h.right.right.not_mem_paths h.left more (he ▸ hr)

def entries : Branches → List (Edge × Node)
  | none => []
  | branch e c below rest => (e, ⟨c, below⟩) :: rest.entries

end Branches

namespace Node

variable {node : Node}

-- A tree has its root and a node for each path that leads on from there.
theorem Sorted.count_eq_card (h : node.Sorted) {paths : Finset (List Edge)}
    (mem : ∀ path, path ∈ paths ↔ path ≠ [] ∧ (node.find? path).isSome) : node.count = paths.card + 1 := by
  have same : node.branches.paths.toFinset = paths := by
    ext path
    rw [List.mem_toFinset, mem, Branches.Sorted.mem_paths_iff h node.command]
  rw [count_eq_size, size, ← same, List.toFinset_card_of_nodup (Branches.Sorted.nodup_paths h), Branches.length_paths]

def successors (node : Node) : List (Edge × Node) :=
  node.nextEdges.filterMap fun edge => (node.branches.child? edge).map fun child => (edge, child)

theorem Sorted.successors_eq (h : node.Sorted) : node.successors = node.branches.entries := by
  obtain ⟨command, branches⟩ := node
  induction branches with
  | none => rfl
  | branch e c below rest ihBelow ihRest =>
    have first : (Branches.branch e c below rest).child? e = some ⟨c, below⟩ := if_pos rfl
    have later : ∀ edge ∈ rest.edges, (Branches.branch e c below rest).child? edge = rest.child? edge :=
      fun edge he => if_neg (h.left.lt_of_mem he).ne'
    have beside : (⟨command, rest⟩ : Node).successors = rest.entries := ihRest h.right.right
    rw [Branches.entries, ← beside]
    simp only [successors, nextEdges, Branches.edges, List.filterMap_cons, first, Option.map_some]
    rw [List.filterMap_congr fun edge he => by rw [later edge he]]

end Node

-- A walk through all that is below some nodes, which stand so deep. Each node comes before those that its next edges lead
-- to, and these come before the node that is next to it.
inductive Walk : Nat → List (Edge × Node) → List Row → Prop
  | done {depth : Nat} : Walk depth [] []
  | visit {depth : Nat} {edge : Edge} {node : Node} {beside : List (Edge × Node)} {below after : List Row}
    (down : Walk (depth + 1) node.successors below) (on : Walk depth beside after) :
    Walk depth ((edge, node) :: beside) (⟨depth, edge, node.command, node.isLeaf⟩ :: below ++ after)

namespace Walk

theorem unique {depth : Nat} {nodes : List (Edge × Node)} {rows rows' : List Row} (w : Walk depth nodes rows)
    (w' : Walk depth nodes rows') : rows = rows' := by
  induction w generalizing rows' with
  | done =>
    cases w'
    rfl
  | visit down on ihDown ihOn =>
    cases w' with
    | visit down' on' => rw [ihDown down', ihOn on']

theorem of_branches {branches : Branches} (h : branches.Sorted) (depth : Nat) :
    Walk depth branches.entries (branches.rows depth) := by
  induction branches generalizing depth with
  | none => exact done
  | branch e c below rest ihBelow ihRest =>
    have sorted : (⟨c, below⟩ : Node).Sorted := h.right.left
    have down : Walk (depth + 1) (⟨c, below⟩ : Node).successors (below.rows (depth + 1)) := by
      rw [sorted.successors_eq]
      exact ihBelow h.right.left (depth + 1)
    exact visit down (ihRest h.right.right depth)

theorem of_root {root : Node} (h : root.Sorted) : Walk 0 [("", root)] root.rows := by
  have down : Walk 1 root.successors (root.branches.rows 1) := by
    rw [h.successors_eq]
    exact of_branches h 1
  have walk : Walk 0 [("", root)] (root.rows ++ []) := visit down done
  rwa [List.append_nil] at walk

end Walk

def prefixes (bindings : List Binding) : Finset (List Edge) :=
  (bindings.flatMap fun b => b.edges.inits).toFinset.erase []

theorem mem_prefixes {bindings : List Binding} {path : List Edge} :
    path ∈ prefixes bindings ↔ path ≠ [] ∧ ∃ b ∈ bindings, path <+: b.edges := by
  simp [prefixes]

theorem prefixes_perm {bindings bindings' : List Binding} (hp : bindings'.Perm bindings) :
    prefixes bindings' = prefixes bindings := by
  ext path
  simp only [mem_prefixes, hp.mem_iff]

-- What the tree of these bindings is counted as. Whichever order children come in, the count ends after as many turns
-- as it gives and goes on until then. It gives the number of prefixes with one for the root, and of the rows of a walk.
structure Node.Counted (root : Node) (bindings : List Binding) : Prop where
  ends    : Turns root.count [root] []
  bounded : ∀ turns stack, Turns turns [root] stack → turns ≤ root.count ∧ (stack = [] ↔ turns = root.count)
  paths   : root.count = 1 + (prefixes bindings).card
  rows    : ∀ rows, Walk 0 [("", root)] rows ↔ rows = root.rows
  walked  : root.rows.length = root.count

theorem Node.Represents.counted {root : Node} {bindings : List Binding} (r : root.Represents bindings) :
    root.Counted bindings where
  ends := by
    rw [Node.count_eq_total]
    exact Turns.exists_ended [root]
  bounded turns stack t := by
    have all : root.count = turns + Node.total stack := root.count_eq_total.trans t.total_eq
    constructor
    case left => exact all ▸ Nat.le_add_right turns _
    case right =>
      constructor
      case mp =>
        intro hs
        rw [all, hs, Node.total, Nat.add_zero]
      case mpr =>
        intro ht
        exact Turns.eq_nil_of_total (by omega)
  paths := by
    rw [Nat.add_comm]
    apply r.sorted.count_eq_card
    intro path
    rw [mem_prefixes, r.found]
    tauto
  rows rows := ⟨fun walk => walk.unique (.of_root r.sorted), fun he => he ▸ .of_root r.sorted⟩
  walked := root.length_rows

theorem count_insertAll (keymap : Keymap) (bindings : List Binding) :
    (keymap.cleared.insertAll bindings).root.Counted bindings ∧
      ∀ bindings', bindings'.Perm bindings →
        (keymap.cleared.insertAll bindings').root.count = (keymap.cleared.insertAll bindings).root.count := by
  have counted : ∀ bindings, (keymap.cleared.insertAll bindings).root.Counted bindings :=
    fun bindings => (represents_insertAll keymap bindings).counted
  constructor
  case left => exact counted bindings
  case right =>
    intro bindings' hp
    rw [(counted bindings').paths, (counted bindings).paths, prefixes_perm hp]

theorem count_insertAll_overlapping : overlapping.reverse.Perm overlapping ∧
    (Keymap.empty.cleared.insertAll overlapping.reverse).root.count = 3 := by
  obtain ⟨counted, same⟩ := count_insertAll .empty overlapping
  have reversed : overlapping.reverse.Perm overlapping := List.reverse_perm overlapping
  have two : (prefixes overlapping).card = 2 := by decide +kernel
  exact ⟨reversed, (same overlapping.reverse reversed).trans (by rw [counted.paths, two])⟩

end Keychord.Keymap
