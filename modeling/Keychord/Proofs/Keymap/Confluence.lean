import Keychord.Proofs.Keymap.Reordering

namespace Keychord.Keymap

def Node.Same (node node' : Node) : Prop :=
  ∀ path, (node.find? path).map Node.command = (node'.find? path).map Node.command

namespace Branches

def Same (branches branches' : Branches) : Prop :=
  ∀ edge path, ((branches.child? edge).bind (·.find? path)).map Node.command =
    ((branches'.child? edge).bind (·.find? path)).map Node.command

variable {branches branches' below below' rest rest' : Branches} {e e' : Edge} {c c' : Option String}

theorem Same.symm (same : branches.Same branches') : branches'.Same branches := fun edge path => (same edge path).symm

theorem Same.child?_isSome (same : branches.Same branches') (edge : Edge) :
    (branches.child? edge).isSome = (branches'.child? edge).isSome := by
  simpa [Node.find?, Function.comp_def] using congrArg Option.isSome (same edge [])

theorem Same.child {node node' : Node} (same : branches.Same branches') {edge : Edge}
    (hn : branches.child? edge = some node) (hn' : branches'.child? edge = some node') : node.Same node' := by
  intro path
  simpa [hn, hn'] using same edge path

theorem child?_head : (branch e c below rest).child? e = some ⟨c, below⟩ := if_pos rfl

theorem Same.not_before (same : (branch e c below rest).Same (branch e' c' below' rest'))
    (h' : (branch e' c' below' rest').Sorted) : ¬e < e' := by
  intro hlt
  have absent : (branch e' c' below' rest').child? e = .none := Above.child?_eq_none ⟨hlt, h'.left.trans hlt⟩
  have present := same.child?_isSome e
  rw [child?_head, absent] at present
  cases present

theorem Same.beside (same : (branch e c below rest).Same (branch e c' below' rest'))
    (h : (branch e c below rest).Sorted) (h' : (branch e c' below' rest').Sorted) : rest.Same rest' := by
  intro edge path
  by_cases he : edge = e
  · rw [he, h.left.child?_eq_none, h'.left.child?_eq_none]
  · simpa [Branches.child?, he] using same edge path

theorem Same.eq (same : branches.Same branches') (h : branches.Sorted) (h' : branches'.Sorted) : branches = branches' := by
  induction branches generalizing branches' with
  | none =>
    cases branches' with
    | none => rfl
    | branch e' c' below' rest' => simpa [child?_head, Branches.child?] using same.child?_isSome e'
  | branch e c below rest ihBelow ihRest =>
    cases branches' with
    | none => simpa [child?_head, Branches.child?] using same.child?_isSome e
    | branch e' c' below' rest' =>
      obtain rfl : e = e' := le_antisymm (not_lt.mp (same.symm.not_before h)) (not_lt.mp (same.not_before h'))
      have head : Node.Same ⟨c, below⟩ ⟨c', below'⟩ := same.child child?_head child?_head
      have command : c = c' := by simpa [Node.find?] using head []
      have above : below = below' := ihBelow (fun edge path => head (edge :: path)) h.right.left h'.right.left
      have later : rest = rest' := ihRest (same.beside h h') h.right.right h'.right.right
      rw [command, above, later]

end Branches

theorem Node.Same.eq {node node' : Node} (same : node.Same node') (h : node.Sorted) (h' : node'.Sorted) : node = node' := by
  have command : node.command = node'.command := by simpa [Node.find?] using same []
  have branches : node.branches = node'.branches := Branches.Same.eq (fun edge path => same (edge :: path)) h h'
  obtain ⟨c, below⟩ := node
  obtain ⟨c', below'⟩ := node'
  cases command
  cases branches
  rfl

-- The tree of a keymap follows from which bindings it has.
theorem Compiled.root_eq {keymap keymap' : Keymap} {parsed parsed' : List Binding} (compiled : keymap.Compiled parsed)
    (compiled' : keymap'.Compiled parsed') (mem : ∀ b, b ∈ parsed' ↔ b ∈ parsed) : keymap'.root = keymap.root := by
  have same : keymap'.root.Same keymap.root := by
    intro path
    have found : (keymap'.root.find? path).isSome ↔ (keymap.root.find? path).isSome := by
      simp only [compiled'.represents.found, compiled.represents.found, mem]
    cases hn' : keymap'.root.find? path with
    | none =>
      have hn : keymap.root.find? path = none := by simpa [hn'] using found
      rw [hn]
    | some node' =>
      obtain ⟨node, hn⟩ := Option.isSome_iff_exists.mp (found.mp (hn' ▸ rfl))
      have command : node'.command = node.command := by
        ext command
        simp only [compiled'.command_eq_some_iff hn', compiled.command_eq_some_iff hn, mem]
      rw [hn, Option.map_some, Option.map_some, command]
  exact same.eq compiled'.represents.sorted compiled.represents.sorted

section Order

variable {leader : Notation.Leader} {timeout : Int} {bindings bindings' : OrderedMap String String}

theorem compile_isOk_iff : (compile leader timeout bindings).isOk ↔ ∃ key parsed, leader.toKey = .ok key ∧
    readBindings key bindings.entries = .ok parsed ∧ firstConflict? parsed = none := by
  cases hl : leader.toKey with
  | error error => simp [compile, hl, Except.isOk, Except.toBool]
  | ok key =>
    cases hr : readBindings key bindings.entries with
    | error fault => simp [compile, hl, hr, bind, Except.bind, Except.isOk, Except.toBool]
    | ok parsed =>
      rw [compile_of_read hl hr]
      cases hc : firstConflict? parsed <;> simp [Except.isOk, Except.toBool, hr, hc]

theorem isOk_of_perm (hp : bindings'.entries.Perm bindings.entries) (timeout' : Int)
    (h : (compile leader timeout bindings).isOk) : (compile leader timeout' bindings').isOk := by
  obtain ⟨key, parsed, hl, hr, hc⟩ := compile_isOk_iff.mp h
  obtain ⟨parsed', hp', hr'⟩ := exists_perm_read hr hp
  have clear : firstConflict? parsed' = none := by
    by_contra hne
    obtain ⟨c, hc'⟩ := exists_conflict_of_perm hp'.symm (Option.ne_none_iff_exists'.mp hne)
    rw [hc] at hc'
    cases hc'
  exact compile_isOk_iff.mpr ⟨key, parsed', hl, hr', clear⟩

theorem Binding.isIn_perm {key : Key} (hp : bindings'.entries.Perm bindings.entries) (b : Binding) :
    b.IsIn key bindings' ↔ b.IsIn key bindings :=
  ⟨fun ⟨entry, keys⟩ => ⟨hp.mem_iff.mp entry, keys⟩, fun ⟨entry, keys⟩ => ⟨hp.mem_iff.mpr entry, keys⟩⟩

structure SameMeaning (keymap keymap' : Keymap) : Prop where
  leader : keymap'.leader = keymap.leader
  count  : keymap'.root.count = keymap.root.count
  found  : ∀ keys, (keymap'.lookup keys).isSome ↔ (keymap.lookup keys).isSome
  nodes  : ∀ keys node node', keymap.lookup keys = some node → keymap'.lookup keys = some node' →
    node'.command = node.command ∧ node'.isLeaf = node.isLeaf ∧ node'.nextEdges = node.nextEdges

theorem SameMeaning.of_root {keymap keymap' : Keymap} (hl : keymap'.leader = keymap.leader)
    (hr : keymap'.root = keymap.root) : keymap.SameMeaning keymap' where
  leader := hl
  count := by rw [hr]
  found keys := by rw [lookup, lookup, hr]
  nodes keys node node' hn hn' := by
    rw [lookup, hr] at hn'
    obtain rfl : node = node' := Option.some.inj (hn.symm.trans hn')
    exact ⟨rfl, rfl, rfl⟩

theorem sameMeaning_of_perm (hp : bindings'.entries.Perm bindings.entries) {timeout' : Int} {keymap keymap' : Keymap}
    (h : compile leader timeout bindings = .ok keymap) (h' : compile leader timeout' bindings' = .ok keymap') :
    keymap.SameMeaning keymap' := by
  obtain ⟨rfl, -, hl, parsed, compiled⟩ := compile_ok h
  obtain ⟨rfl, -, hl', parsed', compiled'⟩ := compile_ok h'
  have same : keymap'.leader = keymap.leader := Except.ok.inj (hl'.symm.trans hl)
  have mem : ∀ b, b ∈ parsed' ↔ b ∈ parsed := by
    intro b
    rw [compiled'.mem_iff, compiled.mem_iff, same]
    exact Binding.isIn_perm hp b
  exact .of_root same (compiled.root_eq compiled' mem)

theorem compile_perm (hp : bindings'.entries.Perm bindings.entries) :
    ((compile leader timeout bindings').isOk ↔ (compile leader timeout bindings).isOk) ∧
      ∀ keymap keymap', compile leader timeout bindings = .ok keymap → compile leader timeout bindings' = .ok keymap' →
        keymap.SameMeaning keymap' :=
  ⟨⟨isOk_of_perm hp.symm timeout, isOk_of_perm hp timeout⟩, fun _ _ => sameMeaning_of_perm hp⟩

end Order

def grown : OrderedMap String String := ⟨[("gg", "top"), ("<C-x>", "cut"), ("gga", "all"), ("<c-X>", "cut")]⟩

def grownBack : OrderedMap String String := ⟨[("<c-X>", "cut"), ("gga", "all"), ("<C-x>", "cut"), ("gg", "top")]⟩

theorem compile_perm_grown : grownBack.entries.Perm grown.entries ∧
    ∃ keymap keymap', compile (.text " ") 500 grown = .ok keymap ∧ compile (.text " ") 500 grownBack = .ok keymap' ∧
      keymap'.root.count = keymap.root.count ∧ keymap.root.count = 5 := by
  have reordered : grownBack.entries.Perm grown.entries := by decide +kernel
  obtain ⟨ok, meaning⟩ := @compile_perm (.text " ") 500 grown grownBack reordered
  have compiles : (compile (.text " ") 500 grown).isOk := by decide +kernel
  obtain ⟨keymap, h⟩ := isOk_iff.mp compiles
  obtain ⟨keymap', h'⟩ := isOk_iff.mp (ok.mpr compiles)
  have count : (compile (.text " ") 500 grown).map (fun keymap => keymap.root.count) = .ok 5 := by decide +kernel
  rw [h] at count
  exact ⟨reordered, keymap, keymap', h, h', (meaning keymap keymap' h h').count, Except.ok.inj count⟩

end Keychord.Keymap
