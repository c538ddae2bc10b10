import Keychord.Keymap.Node
import Mathlib.Data.String.Basic

namespace Keychord.Keymap

namespace Branches

variable {edge : Edge} {branches : Branches}

def Above (edge : Edge) : Branches → Prop
  | none => True
  | branch e _ _ rest => edge < e ∧ rest.Above edge

def Sorted : Branches → Prop
  | none => True
  | branch e _ below rest => rest.Above e ∧ below.Sorted ∧ rest.Sorted

theorem Above.trans {earlier : Edge} (h : branches.Above edge) (he : earlier < edge) : branches.Above earlier := by
  induction branches with
  | none => trivial
  | branch e c below rest ihBelow ihRest => exact ⟨he.trans h.left, ihRest h.right⟩

theorem Above.child?_eq_none (h : branches.Above edge) : branches.child? edge = .none := by
  induction branches with
  | none => rfl
  | branch e c below rest ihBelow ihRest => rw [child?, if_neg h.left.ne, ihRest h.right]

theorem Above.chain {earlier : Edge} (h : branches.Above earlier) (he : earlier < edge) (command : String)
    (more : List Edge) : (chain command branches edge more).Above earlier := by
  cases more <;> exact ⟨he, h⟩

theorem insert_branch (command : String) (e : Edge) (c : Option String) (below rest : Branches) (more : List Edge) :
    (branch e c below rest).insert command edge more =
      if edge = e then branch e (Node.insert ⟨c, below⟩ more command).command
        (Node.insert ⟨c, below⟩ more command).branches rest
      else if edge < e then chain command (branch e c below rest) edge more
      else branch e c below (rest.insert command edge more) := by
  cases more <;> rfl

theorem Above.insert {earlier : Edge} (h : branches.Above earlier) (he : earlier < edge) (command : String)
    (more : List Edge) : (branches.insert command edge more).Above earlier := by
  induction branches with
  | none =>
    have hn : none.Above earlier := trivial
    exact hn.chain he command more
  | branch e c below rest ihBelow ihRest =>
    rw [insert_branch]
    split
    case isTrue => exact h
    case isFalse =>
      split
      case isTrue => exact Above.chain h he command more
      case isFalse => exact ⟨h.left, ihRest h.right⟩

theorem Sorted.chain (h : branches.Sorted) (ha : branches.Above edge) (command : String) (more : List Edge) :
    (chain command branches edge more).Sorted := by
  induction more generalizing edge branches with
  | nil => exact ⟨ha, trivial, h⟩
  | cons next more ih => exact ⟨ha, ih trivial trivial, h⟩

theorem Sorted.insert (h : branches.Sorted) (command : String) (edge : Edge) (more : List Edge) :
    (branches.insert command edge more).Sorted := by
  induction branches generalizing edge more with
  | none =>
    have hn : none.Sorted := trivial
    exact hn.chain trivial command more
  | branch e c below rest ihBelow ihRest =>
    rw [insert_branch]
    split
    case isTrue =>
      cases more with
      | nil => exact h
      | cons next further => exact ⟨h.left, ihBelow h.right.left next further, h.right.right⟩
    case isFalse hne =>
      split
      case isTrue hlt => exact Sorted.chain h ⟨hlt, h.left.trans hlt⟩ command more
      case isFalse hlt =>
        have he : e < edge := (not_lt.mp hlt).lt_of_ne (Ne.symm hne)
        exact ⟨h.left.insert he command more, h.right.left, ihRest h.right.right edge more⟩

theorem Sorted.child? (h : branches.Sorted) {node : Node} (hn : branches.child? edge = some node) :
    node.branches.Sorted := by
  induction branches with
  | none => cases hn
  | branch e c below rest ihBelow ihRest =>
    rw [Branches.child?] at hn
    split at hn
    case isTrue => cases hn; exact h.right.left
    case isFalse => exact ihRest h.right.right hn

theorem child?_chain (command : String) (edge other : Edge) (more : List Edge) :
    (chain command branches edge more).child? other =
      if other = edge then some (({} : Node).insert more command) else branches.child? other := by
  cases more <;> rfl

theorem child?_insert (h : branches.Sorted) (command : String) (edge other : Edge) (more : List Edge) :
    (branches.insert command edge more).child? other =
      if other = edge then some (((branches.child? edge).getD {}).insert more command) else branches.child? other := by
  induction branches with
  | none => exact child?_chain command edge other more
  | branch e c below rest ihBelow ihRest =>
    rw [insert_branch]
    split
    case isTrue he =>
      subst he
      by_cases ho : other = edge <;> simp [Branches.child?, ho]
    case isFalse hne =>
      split
      case isTrue hlt =>
        have hn : (branch e c below rest).child? edge = .none :=
          Above.child?_eq_none ⟨hlt, h.left.trans hlt⟩
        rw [child?_chain, hn]
        rfl
      case isFalse hlt =>
        rw [Branches.child?, Branches.child?, Branches.child?, if_neg hne, ihRest h.right.right]
        by_cases ho : other = e
        · rw [if_pos ho, if_pos ho, if_neg (ho ▸ Ne.symm hne)]
        · rw [if_neg ho, if_neg ho]

theorem Above.lt_of_mem (h : branches.Above edge) {other : Edge} (ho : other ∈ branches.edges) : edge < other := by
  induction branches with
  | none => cases ho
  | branch e c below rest ihBelow ihRest =>
    obtain rfl | ho := List.mem_cons.mp ho
    · exact h.left
    · exact ihRest h.right ho

theorem Sorted.edges_pairwise (h : branches.Sorted) : branches.edges.Pairwise (· < ·) := by
  induction branches with
  | none => exact .nil
  | branch e c below rest ihBelow ihRest =>
    exact List.pairwise_cons.mpr ⟨fun other ho => h.left.lt_of_mem ho, ihRest h.right.right⟩

theorem mem_edges_iff : edge ∈ branches.edges ↔ (branches.child? edge).isSome := by
  induction branches with
  | none => simp [edges, Branches.child?]
  | branch e c below rest ihBelow ihRest => by_cases he : edge = e <;> simp [edges, Branches.child?, he, ihRest]

end Branches

namespace Node

variable {node : Node}

def Sorted (node : Node) : Prop := node.branches.Sorted

theorem sorted_empty : ({} : Node).Sorted := trivial

theorem Sorted.insert (h : node.Sorted) (edges : List Edge) (command : String) : (node.insert edges command).Sorted := by
  cases edges with
  | nil => exact h
  | cons edge more => exact Branches.Sorted.insert h command edge more

theorem Sorted.child_getD (h : node.Sorted) (edge : Edge) : ((node.branches.child? edge).getD {}).Sorted := by
  cases hc : node.branches.child? edge with
  | none => exact sorted_empty
  | some child => exact Branches.Sorted.child? h hc

theorem find?_empty_cons (edge : Edge) (path : List Edge) : ({} : Node).find? (edge :: path) = none := rfl

-- Only the nodes on the way are changed: what is left of the edges is inserted there.
theorem find?_insert (h : node.Sorted) (edges path : List Edge) (command : String) :
    (node.insert edges command).find? path =
      if path <+: edges then some (((node.find? path).getD {}).insert (edges.drop path.length) command)
      else node.find? path := by
  induction path generalizing node edges with
  | nil => simp [find?]
  | cons edge path ih =>
    cases edges with
    | nil => simp [find?, Node.insert]
    | cons first more =>
      rw [find?, Node.insert, Branches.child?_insert h, find?]
      by_cases he : edge = first
      case neg => simp [he]
      case pos =>
        subst he
        rw [if_pos rfl, Option.bind_some, ih (h.child_getD edge)]
        cases hc : node.branches.child? edge with
        | some child => simp
        | none =>
          cases path with
          | nil => simp [find?]
          | cons next path => simp [find?_empty_cons]

theorem Sorted.find? (h : node.Sorted) {path : List Edge} {found : Node} (hf : node.find? path = some found) :
    found.Sorted := by
  induction path generalizing node with
  | nil => cases hf; exact h
  | cons edge path ih =>
    obtain ⟨child, hc, hf⟩ := Option.bind_eq_some_iff.mp hf
    have hs : child.Sorted := Branches.Sorted.child? h hc
    exact ih hs hf

theorem mem_nextEdges_iff {edge : Edge} : edge ∈ node.nextEdges ↔ (node.find? [edge]).isSome := by
  rw [nextEdges, Branches.mem_edges_iff]
  simp [Node.find?]

end Node

end Keychord.Keymap
