import Keychord.Key

namespace Keychord.Keymap

-- The branches below a node in increasing order of their edges. Each has the command that is bound where it ends and
-- the branches below it.
inductive Branches
  | none
  | branch (edge : Edge) (command : Option String) (below rest : Branches)
  deriving DecidableEq, Repr

structure Node where
  command : Option String := .none
  branches : Branches := .none
  deriving DecidableEq, Repr

namespace Branches

def chain (command : String) (rest : Branches) : Edge → List Edge → Branches
  | edge, [] => branch edge (some command) none rest
  | edge, next :: more => branch edge .none (chain command none next more) rest

def insert (command : String) : Branches → Edge → List Edge → Branches
  | none, edge, more => chain command none edge more
  | branch e c below rest, edge, more =>
    if edge = e then
      match more with
      | [] => branch e (some command) below rest
      | next :: further => branch e c (below.insert command next further) rest
    else if edge < e then chain command (branch e c below rest) edge more
    else branch e c below (rest.insert command edge more)

def child? : Branches → Edge → Option Node
  | none, _ => .none
  | branch e c below rest, edge => if edge = e then some ⟨c, below⟩ else rest.child? edge

def size : Branches → Nat
  | none => 0
  | branch _ _ below rest => below.size + rest.size + 1

def edges : Branches → List Edge
  | none => []
  | branch e _ _ rest => e :: rest.edges

def children : Branches → List Node
  | none => []
  | branch _ c below rest => ⟨c, below⟩ :: rest.children

end Branches

structure Row where
  depth : Nat
  edge : Edge
  command : Option String
  isLeaf : Bool
  deriving DecidableEq, Repr

namespace Node

def isLeaf (node : Node) : Bool := node.branches = .none

-- Binds a sequence of edges. The last command for a sequence wins.
def insert (node : Node) (edges : List Edge) (command : String) : Node :=
  match edges with
  | [] => { node with command := some command }
  | edge :: more => { node with branches := node.branches.insert command edge more }

def find? : Node → List Edge → Option Node
  | node, [] => some node
  | node, edge :: more => (node.branches.child? edge).bind fun child => child.find? more

def nextEdges (node : Node) : List Edge := node.branches.edges

def size (node : Node) : Nat := node.branches.size + 1

def total : List Node → Nat
  | [] => 0
  | node :: more => node.size + total more

theorem total_append (nodes more : List Node) : total (nodes ++ more) = total nodes + total more := by
  induction nodes with
  | nil => simp [total]
  | cons node nodes ih => rw [List.cons_append, total, total, ih, Nat.add_assoc]

theorem total_perm {nodes nodes' : List Node} (hp : nodes.Perm nodes') : total nodes = total nodes' := by
  induction hp with
  | nil => rfl
  | cons node _ ih => rw [total, total, ih]
  | swap node node' more => simp only [total, Nat.add_left_comm]
  | trans _ _ ih ih' => exact ih.trans ih'

theorem total_children (branches : Branches) : total branches.children = branches.size := by
  induction branches with
  | none => rfl
  | branch e c below rest ihBelow ihRest =>
    simp [Branches.children, Branches.size, total, size, ihRest, Nat.add_right_comm]

-- When a node gives way to its children, in any order, one node less is left.
theorem total_turn {node : Node} {pushed : List Node} (order : pushed.Perm node.branches.children) (stack : List Node) :
    total (node :: stack) = total (pushed ++ stack) + 1 := by
  rw [total, total_append, total_perm order, total_children, size, Nat.add_right_comm]

-- Counts nodes with a stack of those that are still to be visited. The one on top is counted and gives way to its
-- children.
def tally (counted : Nat) : List Node → Nat
  | [] => counted
  | node :: stack => tally (counted + 1) (node.branches.children.reverse ++ stack)
termination_by stack => total stack
decreasing_by simp [total_turn (List.reverse_perm node.branches.children) stack]

def count (node : Node) : Nat := tally 0 [node]

theorem tally_eq (counted : Nat) (stack : List Node) : tally counted stack = counted + total stack := by
  fun_induction tally counted stack with
  | case1 counted => rfl
  | case2 counted node stack ih =>
    rw [ih, total_turn (List.reverse_perm node.branches.children) stack, Nat.add_right_comm, Nat.add_assoc]

theorem count_eq_total (node : Node) : node.count = total [node] := by rw [count, tally_eq, Nat.zero_add]

theorem count_eq_size (node : Node) : node.count = node.size := count_eq_total node

end Node

def Branches.rows (depth : Nat) : Branches → List Row
  | none => []
  | branch e c below rest => ⟨depth, e, c, below = none⟩ :: below.rows (depth + 1) ++ rest.rows depth

def Node.rows (node : Node) : List Row :=
  ⟨0, "", node.command, node.isLeaf⟩ :: node.branches.rows 1

theorem Branches.length_rows (branches : Branches) : ∀ depth, (branches.rows depth).length = branches.size := by
  induction branches with
  | none => intro depth; rfl
  | branch e c below rest ihBelow ihRest =>
    intro depth
    simp [rows, size, ihBelow, ihRest]

theorem Node.length_rows (node : Node) : node.rows.length = node.count := by
  simp [rows, count_eq_size, size, Branches.length_rows]

end Keychord.Keymap
