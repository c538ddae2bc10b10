import Keychord.Registry
import Mathlib.Data.List.Nodup
import Mathlib.Data.List.Sort

namespace Keychord.Registry

inductive Change
  | registered (info : CommandInfo)
  | unregistered (command : String)

-- What is known of a command, if it has been registered and not been given up since. The latest change comes first.
def latest : List Change → String → Option CommandInfo
  | [], _ => none
  | .registered info :: changes, command => if info.id = command then some info else latest changes command
  | .unregistered gone :: changes, command => if gone = command then none else latest changes command

def since : List Change → String → Nat
  | [], _ => 0
  | .registered info :: changes, command =>
    if info.id = command ∧ latest changes command = none then changes.length else since changes command
  | .unregistered _ :: changes, command => since changes command

structure Lists (changes : List Change) (infos : List CommandInfo) : Prop where
  listed  : ∀ info, info ∈ infos ↔ latest changes info.id = some info
  ordered : (infos.map (·.id)).Pairwise fun a b => since changes a < since changes b

section

variable {changes : List Change} {infos infos' : List CommandInfo} {info old : CommandInfo} {command : String}

theorem id_of_latest (known : latest changes command = some info) : info.id = command := by
  induction changes with
  | nil => simp [latest] at known
  | cons change changes ih =>
    cases change with
    | registered new =>
      rw [latest] at known
      split at known
      case isTrue same => exact Option.some.inj known ▸ same
      case isFalse => exact ih known
    | unregistered gone =>
      rw [latest] at known
      split at known
      case isTrue => cases known
      case isFalse => exact ih known

theorem since_lt (known : (latest changes command).isSome) : since changes command < changes.length := by
  induction changes with
  | nil => simp [latest] at known
  | cons change changes ih =>
    cases change with
    | registered info =>
      rw [since, List.length_cons]
      split
      case isTrue => exact Nat.lt_succ_self _
      case isFalse other =>
        have known' : (latest changes command).isSome := by
          rw [latest] at known
          split at known
          case isTrue same => exact Option.isSome_iff_ne_none.mpr fun absent => other ⟨same, absent⟩
          case isFalse => exact known
        exact Nat.lt_succ_of_lt (ih known')
    | unregistered gone =>
      rw [latest] at known
      split at known
      case isTrue => cases known
      case isFalse => exact Nat.lt_succ_of_lt (ih known)

theorem since_registered (known : (latest changes command).isSome) :
    since (.registered info :: changes) command = since changes command := by
  rw [since, if_neg]
  intro ⟨_, absent⟩
  simp [absent] at known

namespace Lists

theorem nodup (lists : Lists changes infos) : (infos.map (·.id)).Nodup :=
  lists.ordered.imp fun less same => absurd (same ▸ less) (Nat.lt_irrefl _)

theorem sorted (lists : Lists changes infos) : infos.Pairwise fun a b => since changes a.id < since changes b.id := by
  have ordered := lists.ordered
  rwa [List.pairwise_map] at ordered

theorem nil : Lists [] [] := ⟨by simp [latest], .nil⟩

theorem mem_ids (lists : Lists changes infos) : command ∈ infos.map (·.id) ↔ (latest changes command).isSome := by
  constructor
  case mp =>
    intro hm
    have ⟨info, hi, same⟩ := List.mem_map.mp hm
    subst same
    exact Option.isSome_iff_exists.mpr ⟨info, (lists.listed info).mp hi⟩
  case mpr =>
    intro known
    have ⟨info, known⟩ := Option.isSome_iff_exists.mp known
    have same := id_of_latest known
    exact List.mem_map.mpr ⟨info, (lists.listed info).mpr (same ▸ known), same⟩

-- Only one list is what the changes say.
theorem unique (lists : Lists changes infos) (lists' : Lists changes infos') : infos = infos' := by
  have perm : infos.Perm infos' :=
    (List.perm_ext_iff_of_nodup lists.nodup.of_map lists'.nodup.of_map).mpr fun info =>
      (lists.listed info).trans (lists'.listed info).symm
  exact perm.eq_of_pairwise (fun _ _ _ _ before after => absurd before (Nat.lt_asymm after)) lists.sorted lists'.sorted

-- A command that was not there goes to the end.
theorem add (lists : Lists changes infos) (absent : latest changes info.id = none) :
    Lists (.registered info :: changes) (infos ++ [info]) := by
  have apart : ∀ other ∈ infos, info.id ≠ other.id := by
    intro other ho same
    have known := (lists.listed other).mp ho
    rw [← same, absent] at known
    cases known
  refine ⟨fun other => ?_, ?_⟩
  case refine_1 =>
    rw [List.mem_append, List.mem_singleton, latest]
    by_cases same : info.id = other.id
    case pos =>
      have new : other ∉ infos := fun ho => apart other ho same
      rw [if_pos same, Option.some.injEq]
      exact ⟨fun ho => (ho.resolve_left new).symm, fun he => .inr he.symm⟩
    case neg =>
      have differs : other ≠ info := fun he => same (he ▸ rfl)
      rw [if_neg same, ← lists.listed other]
      exact ⟨fun ho => ho.resolve_right differs, .inl⟩
  case refine_2 =>
    rw [List.map_append, List.map_singleton]
    refine List.pairwise_append.mpr ⟨?_, List.pairwise_singleton _ _, fun a ha b hb => ?_⟩
    case refine_1 =>
      refine lists.ordered.imp_of_mem fun ha hb less => ?_
      rwa [since_registered (lists.mem_ids.mp ha), since_registered (lists.mem_ids.mp hb)]
    case refine_2 =>
      have last : since (.registered info :: changes) info.id = changes.length := if_pos ⟨rfl, absent⟩
      have known := lists.mem_ids.mp ha
      rw [List.mem_singleton.mp hb, since_registered known, last]
      exact since_lt known

theorem map_id_replace (infos : List CommandInfo) (info : CommandInfo) :
    (infos.map fun other => if other.id = info.id then info else other).map (·.id) = infos.map (·.id) := by
  rw [List.map_map]
  refine List.map_congr_left fun other _ => ?_
  by_cases same : other.id = info.id <;> simp [same]

-- What is known of a command that is there is replaced, and the command keeps its place.
theorem replace (lists : Lists changes infos) (known : (latest changes info.id).isSome) :
    Lists (.registered info :: changes) (infos.map fun other => if other.id = info.id then info else other) := by
  refine ⟨fun other => ?_, ?_⟩
  case refine_1 =>
    rw [List.mem_map, latest]
    by_cases same : info.id = other.id
    case pos =>
      rw [if_pos same, Option.some.injEq]
      constructor
      case mp =>
        intro ⟨former, _, he⟩
        by_cases replaced : former.id = info.id
        case pos => rwa [if_pos replaced] at he
        case neg =>
          rw [if_neg replaced] at he
          exact absurd (he ▸ same.symm) replaced
      case mpr =>
        intro he
        have ⟨former, hf, there⟩ := List.mem_map.mp (lists.mem_ids.mpr known)
        exact ⟨former, hf, by rw [if_pos there, he]⟩
    case neg =>
      rw [if_neg same, ← lists.listed other]
      constructor
      case mp =>
        intro ⟨former, hf, he⟩
        by_cases replaced : former.id = info.id
        case pos =>
          rw [if_pos replaced] at he
          exact absurd (he ▸ rfl) same
        case neg =>
          rw [if_neg replaced] at he
          exact he ▸ hf
      case mpr => exact fun ho => ⟨other, ho, if_neg (Ne.symm same)⟩
  case refine_2 =>
    rw [map_id_replace]
    refine lists.ordered.imp_of_mem fun ha hb less => ?_
    -- A command that was there is there since the same change as before.
    rwa [since_registered (lists.mem_ids.mp ha), since_registered (lists.mem_ids.mp hb)]

-- A command is taken out.
theorem remove (lists : Lists changes infos) (command : String) :
    Lists (.unregistered command :: changes) (infos.filter (·.id ≠ command)) := by
  refine ⟨fun other => ?_, ?_⟩
  case refine_1 =>
    rw [List.mem_filter, latest, lists.listed other]
    by_cases same : command = other.id
    case pos => simp [same]
    case neg => simp [same, Ne.symm same]
  case refine_2 =>
    have kept : ((infos.filter (·.id ≠ command)).map (·.id)).Sublist (infos.map (·.id)) := List.filter_sublist.map _
    exact lists.ordered.sublist kept

end Lists

end

-- The commands that are left when it has been told which are registered and given up. What was told last comes first.
def replay : List Event → List String
  | [] => []
  | .registered command :: told =>
    if command ∈ replay told then replay told else replay told ++ [command]
  | .unregistered command :: told => (replay told).filter (· ≠ command)
  | _ :: told => replay told

end Keychord.Registry
