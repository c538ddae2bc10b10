import Keychord.Proofs.Keymap.Compiled
import Keychord.Proofs.Matcher.Work

namespace Keychord.Matcher

abbrev Table := List (List Edge × String)

namespace Table

variable {table : Table} {path : List Edge}

def begins (table : Table) (path : List Edge) : Bool := table.any fun row => path.isPrefixOf row.1

def extended (table : Table) (path : List Edge) : Bool :=
  table.any fun row => path.isPrefixOf row.1 && path.length < row.1.length

def command? (table : Table) (path : List Edge) : Option String := (table.find? fun row => row.1 = path).map Prod.snd

def ofConfig (config : Config) : Table :=
  match Notation.leaderOfText config.leader with
  | .error _ => []
  | .ok leader => config.bindings.entries.filterMap fun (source, command) =>
    match Notation.parse leader source with
    | .error _ => none
    | .ok keys => some (keys.map Key.edge, command)

def ofBindings (bindings : List Keymap.Binding) : Table := bindings.map fun b => (b.edges, b.command)

theorem ofConfig_eq {config : Config} {keymap : Keymap}
    (h : Keymap.compile (.text config.leader) config.timeout config.bindings = .ok keymap) :
    ∃ bindings, keymap.Compiled bindings ∧ ofConfig config = ofBindings bindings := by
  obtain ⟨hb, -, hl, bindings, compiled⟩ := Keymap.compile_ok h
  refine ⟨bindings, compiled, ?_⟩
  have hl : Notation.leaderOfText config.leader = .ok keymap.leader := hl
  rw [ofConfig, hl, ← hb, ← compiled.entries]
  have hp := compiled.parsed
  clear hl hb h compiled
  induction bindings with
  | nil => rfl
  | cons b bindings ih =>
    obtain ⟨hb, hr⟩ := List.forall_mem_cons.mp hp
    simp only [List.map_cons, List.filterMap_cons, hb, ofBindings] at ih ⊢
    rw [ih hr]
    rfl

section

variable {keymap : Keymap} {bindings : List Keymap.Binding}

theorem begins_iff : (ofBindings bindings).begins path ↔ ∃ b ∈ bindings, path <+: b.edges := by
  simp [begins, ofBindings]

theorem begins_iff_isSome (compiled : keymap.Compiled bindings) (hp : path ≠ []) :
    (ofBindings bindings).begins path ↔ (keymap.root.find? path).isSome := by
  rw [begins_iff, compiled.represents.found]
  exact ⟨.inr, fun h => h.resolve_left hp⟩

theorem extended_iff : (ofBindings bindings).extended path ↔
    ∃ edge, (ofBindings bindings).begins (path ++ [edge]) := by
  rw [exists_congr fun _ => begins_iff]
  simp only [extended, ofBindings, List.any_map, List.any_eq_true, Function.comp_apply, Bool.and_eq_true,
    List.isPrefixOf_iff_prefix, decide_eq_true_eq]
  constructor
  · rintro ⟨b, hb, ⟨rest, he⟩, hl⟩
    cases rest with
    | nil => simp [← he] at hl
    | cons edge rest => exact ⟨edge, b, hb, rest, by simp [← he]⟩
  · rintro ⟨edge, b, hb, hp⟩
    exact ⟨b, hb, (List.prefix_append _ _).trans hp, Nat.lt_of_succ_le (by simpa using hp.length_le)⟩

theorem extended_iff_not_isLeaf (compiled : keymap.Compiled bindings) {node : Keymap.Node}
    (hn : keymap.root.find? path = some node) : (ofBindings bindings).extended path ↔ ¬node.isLeaf := by
  have he : ∀ edge, keymap.root.find? (path ++ [edge]) = node.find? [edge] := by
    intro edge
    rw [Keymap.Node.find?_append, hn]
    rfl
  rw [extended_iff, Keymap.Node.isLeaf_iff]
  simp [begins_iff_isSome compiled, he, Option.isSome_iff_ne_none]

theorem command?_eq (compiled : keymap.Compiled bindings) {node : Keymap.Node}
    (hn : keymap.root.find? path = some node) : (ofBindings bindings).command? path = node.command := by
  rw [command?, ofBindings, List.find?_map, Option.map_map]
  cases hf : bindings.find? ((fun row : List Edge × String => row.1 = path) ∘ fun b => (b.edges, b.command)) with
  | none =>
    cases hc : node.command with
    | none => rfl
    | some command =>
      obtain ⟨b, hb, he, -⟩ := (compiled.command_eq_some_iff hn).mp hc
      exact absurd he (by simpa using List.find?_eq_none.mp hf b hb)
  | some first =>
    have he : first.edges = path := by simpa using List.find?_some hf
    exact ((compiled.command_eq_some_iff hn).mpr ⟨first, List.mem_of_find?_eq_some hf, he, rfl⟩).symm

end

end Table

structure Reference where
  path : List Edge := []
  answers : List (Option Bool) := []
  commands : List String := []

namespace Reference

def arrive (table : Table) (path : List Edge) (r : Reference) : Reference :=
  match table.command? path with
  | some command => if table.extended path then { r with path := path }
    else { r with path := [], commands := command :: r.commands }
  | none => { r with path := path }

def key (table : Table) (edge : Edge) (r : Reference) : Reference × Bool :=
  if table.begins (r.path ++ [edge]) then (r.arrive table (r.path ++ [edge]), true)
  else if r.path ≠ [] && table.begins [edge] then (({ r with path := [] } : Reference).arrive table [edge], true)
  else ({ r with path := [] }, false)

def press (table : Table) (press : Press) (r : Reference) : Reference × Bool :=
  if press.isFiltered then (r, false)
  else match press.toKey? with
    | none => (r, false)
    | some key => r.key table key.edge

def expire (table : Table) (r : Reference) : Reference :=
  if r.path = [] then r else { r with path := [], commands := (table.command? r.path).toList ++ r.commands }

def step (table : Table) (r : Reference) : Call → Reference
  | .press p =>
    let (r', handled) := r.press table p
    { r' with answers := some handled :: r.answers }
  | .expire _ => { r.expire table with answers := none :: r.answers }
  | .reset => { r with path := [], answers := none :: r.answers }
  | _ => r

def run (table : Table) (calls : List Call) : Reference := calls.foldr (fun call r => r.step table call) {}

end Reference

end Keychord.Matcher
