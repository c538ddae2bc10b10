import Keychord.Proofs.Application.Worlds
import Keychord.Proofs.Keymap.Compiled
import Keychord.Scenario.App
import Mathlib.Data.String.Basic

namespace Keychord

theorem Keymap.command_of_compile {leader : Notation.Leader} {timeout : Int} {bindings : OrderedMap String String}
    {keymap : Keymap} (compiles : compile leader timeout bindings = .ok keymap) :
    ∀ entry ∈ bindings.entries, entry.2 ≠ "" := by
  rw [compile] at compiles
  split at compiles
  case h_1 => cases compiles
  case h_2 key _ =>
    cases hr : readBindings key bindings.entries with
    | error fault => rw [hr] at compiles; cases compiles
    | ok parsed =>
      obtain ⟨entries, read⟩ := readBindings_eq_ok_iff.mp hr
      intro entry he
      rw [← entries] at he
      obtain ⟨b, hb, rfl⟩ := List.mem_map.mp he
      exact (read b hb).left

namespace Terminal

theorem mem_insertSorted {s t : String} {texts : List String} : t ∈ insertSorted s texts ↔ t = s ∨ t ∈ texts := by
  induction texts with
  | nil => simp [insertSorted]
  | cons first rest ih =>
    rw [insertSorted]
    split
    case isTrue same => simp [same]
    case isFalse =>
      split
      case isTrue => simp
      case isFalse =>
        rw [List.mem_cons, ih, List.mem_cons]
        exact or_left_comm

theorem pairwise_insertSorted {s : String} {texts : List String} (sorted : texts.Pairwise (· < ·)) :
    (insertSorted s texts).Pairwise (· < ·) := by
  induction texts with
  | nil => simp [insertSorted]
  | cons first rest ih =>
    obtain ⟨least, sorted'⟩ := List.pairwise_cons.mp sorted
    rw [insertSorted]
    split
    case isTrue => exact sorted
    case isFalse other =>
      split
      case isTrue below =>
        refine List.pairwise_cons.mpr ⟨fun t ht => ?_, sorted⟩
        obtain rfl | ht := List.mem_cons.mp ht
        · exact below
        · exact below.trans (least t ht)
      case isFalse notBelow =>
        have above : first < s := lt_of_le_of_ne (le_of_not_gt notBelow) (Ne.symm other)
        refine List.pairwise_cons.mpr ⟨fun t ht => ?_, ih sorted'⟩
        obtain rfl | ht := mem_insertSorted.mp ht
        · exact above
        · exact least t ht

theorem mem_sortedSet {s : String} {texts : List String} : s ∈ sortedSet texts ↔ s ∈ texts := by
  induction texts with
  | nil => simp [sortedSet]
  | cons first rest ih =>
    have insertion : sortedSet (first :: rest) = insertSorted first (sortedSet rest) := rfl
    rw [insertion, mem_insertSorted, ih, List.mem_cons]

theorem nodup_sortedSet (texts : List String) : (sortedSet texts).Nodup := by
  have sorted : (sortedSet texts).Pairwise (· < ·) := by
    induction texts with
    | nil => exact .nil
    | cons first rest ih => exact pairwise_insertSorted ih
  exact sorted.imp fun below => ne_of_lt below

theorem map_id_demoCommands (config : Config) :
    (demoCommands config).map CommandInfo.id = sortedSet config.bindings.values := by
  simp [demoCommands, Function.comp_def]

end Terminal

namespace Scenario.Session

def idle (info : CommandInfo) : Registration := ⟨info.id, info.description, info.category, some none⟩

def idleEntry (info : CommandInfo) : String × Registry.Entry Routine := (info.id, ⟨info, none⟩)

def withIdle (registry : Registry Routine) (infos : List CommandInfo) : Registry Routine :=
  { registry with commands := ⟨registry.commands.entries ++ infos.map idleEntry⟩ }

theorem withIdle_cons (registry : Registry Routine) (info : CommandInfo) (infos : List CommandInfo) :
    withIdle registry (info :: infos) = withIdle (withIdle registry [info]) infos := by
  simp [withIdle]

section Registered

variable {player : Player} {registry : Registry Routine} {world : World} {i : Nat} {info : CommandInfo}

theorem register_idle (held : world.registry = some registry) (onBus : world.registryBus = some i)
    (within : i < world.buses.length) (nobody : (world.bus i).subscribersOf "command:registered" = [])
    (new : info.id ∉ registry.commands.keys) :
    runRegistry player (Registry.register info (some none)) world =
      (.ok (), world.setRegistry (withIdle registry [info])) := by
  have absent : registry.has info.id = false := by
    simp only [OrderedMap.keys, List.mem_map, not_exists, not_and] at new
    simpa [Registry.has, OrderedMap.contains] using fun a b hm he => new (a, b) hm he
  have inserted : registry.commands.insert info.id ⟨info, none⟩ = (withIdle registry [info]).commands :=
    congrArg _ (OrderedMap.setEntry_of_new _ new)
  have asked : (Registry.register info (some none) : Registry.Step Routine Remainder Unit) registry =
      .waiting (.publish (.registered info.id)) (withIdle registry [info]) .finished := by
    have held : withIdle registry [info] = { registry with commands := (withIdle registry [info]).commands } := rfl
    rw [Registry.register, Program.get_bind, absent, held, ← inserted]
    rfl
  let world' := world.setRegistry (withIdle registry [info])
  have told : answerRegistry player (.publish (.registered info.id)) world' = (.ok (), world') := by
    have sent : answerRegistry player (.publish (.registered info.id)) world' =
      emitIfAny player world.registryBus "command:registered" (Registry.Event.payload (.registered info.id)) world' := rfl
    rw [sent, onBus]
    exact emitOn_nobody _ within nobody
  have driven : runRegistry player (Registry.register info (some none)) world =
      ((Registry.register info (some none)) world.commandRegistry).drive World.commandRegistry World.setRegistry
        (answerRegistry player) world := rfl
  have loaded : world.commandRegistry = registry := by
    rw [World.commandRegistry, held]
    rfl
  rw [driven, loaded, asked]
  refine (Run.drive_waiting (by exact told)).trans ?_
  rfl

theorem registerAll_idle {infos : List CommandInfo} (named : ∀ info ∈ infos, info.id ≠ "")
    (held : world.registry = some registry) (onBus : world.registryBus = some i) (within : i < world.buses.length)
    (nobody : (world.bus i).subscribersOf "command:registered" = [])
    (distinct : (registry.commands.keys ++ infos.map CommandInfo.id).Nodup) :
    registerAll player (infos.map idle) world = (.ok (), world.setRegistry (withIdle registry infos)) := by
  induction infos generalizing registry world with
  | nil =>
    have none : withIdle registry [] = registry := by simp [withIdle]
    rw [none, World.setRegistry_of_registry held]
    rfl
  | cons info infos ih =>
    have ⟨hn, named⟩ := List.forall_mem_cons.mp named
    have new : info.id ∉ registry.commands.keys := by
      have ⟨_, _, apart⟩ := List.nodup_append.mp distinct
      exact fun hm => apart _ hm info.id (by simp) rfl
    have made : (Action.ofExcept (CommandInfo.make (idle info).id (idle info).description (idle info).category) :
      Act CommandInfo) world = (.ok info, world) := congrArg (·, world) (if_neg hn)
    have first : runRegistry player (Registry.register info (some none)) world = _ :=
      register_idle held onBus within nobody new
    have distinct : ((withIdle registry [info]).commands.keys ++ infos.map CommandInfo.id).Nodup := by
      simpa [OrderedMap.keys, withIdle, idleEntry] using distinct
    have rest : registerAll player (infos.map idle) (world.setRegistry (withIdle registry [info])) = _ :=
      ih named rfl onBus within nobody distinct
    rw [withIdle_cons]
    exact (Action.bind_ok made).trans ((Action.bind_ok first).trans rest)

end Registered

end Scenario.Session

namespace Scenario.App

open Session

variable {journal : Journal} {config : Config} {keymap : Keymap}

def commandBus : Bus Subscriber := ({} : Bus Subscriber).subscribe "command:afterExecute" .commandLog

def demoRegistry (config : Config) : Registry Routine := { commands := ⟨(Terminal.demoCommands config).map idleEntry⟩ }

theorem named_of_compile (compiles : Keymap.compile (.text config.leader) config.timeout config.bindings = .ok keymap) :
    ∀ info ∈ Terminal.demoCommands config, info.id ≠ "" := by
  intro info hi
  have bound : info.id ∈ config.bindings.values := by
    rw [← Terminal.mem_sortedSet, ← Terminal.map_id_demoCommands]
    exact List.mem_map_of_mem hi
  obtain ⟨entry, he, hc⟩ := List.mem_map.mp bound
  rw [← hc]
  exact Keymap.command_of_compile compiles entry he

theorem start_world (compiles : Keymap.compile (.text config.leader) config.timeout config.bindings = .ok keymap) :
    (start journal config).world =
      { journal := journal, clockwork := .hostWidget, buses := [commandBus], registry := some (demoRegistry config),
        registryBus := some 0 } := by
  let world : Session.World :=
    { journal := journal, clockwork := .hostWidget, buses := [{}], registry := some {}, registryBus := some 0 }
  have distinct : ((Terminal.demoCommands config).map CommandInfo.id).Nodup := by
    rw [Terminal.map_id_demoCommands]
    exact Terminal.nodup_sortedSet _
  have registered : registerAll player ((Terminal.demoCommands config).map idle) world =
      (.ok (), world.setRegistry (withIdle {} (Terminal.demoCommands config))) :=
    registerAll_idle (named_of_compile compiles) rfl rfl Nat.one_pos rfl distinct
  have set : setUpWorld config { journal := journal, clockwork := .hostWidget } =
    (registerAll player ((Terminal.demoCommands config).map idle) >>= fun _ =>
      subscribe 0 "command:afterExecute" .commandLog) world := rfl
  rw [start, set, Action.bind_ok registered]
  rfl

-- The registry knows each id that is bound once, and no others.
theorem start_registered (compiles : Keymap.compile (.text config.leader) config.timeout config.bindings = .ok keymap) :
    ((start journal config).world.commandRegistry.all.map CommandInfo.id).Nodup ∧
      ∀ command, command ∈ (start journal config).world.commandRegistry.all.map CommandInfo.id ↔
        command ∈ config.bindings.values := by
  have known : (start journal config).world.commandRegistry.all = Terminal.demoCommands config := by
    have infos : Registry.Entry.info ∘ Prod.snd ∘ idleEntry = id := rfl
    rw [start_world compiles]
    simp [World.commandRegistry, Registry.all, OrderedMap.values, demoRegistry, infos]
  rw [known, Terminal.map_id_demoCommands]
  exact ⟨Terminal.nodup_sortedSet _, fun command => Terminal.mem_sortedSet⟩

theorem exists_idle {command : String} (bound : command ∈ config.bindings.values) :
    ∃ info, (demoRegistry config).commands.get? command = some ⟨info, none⟩ := by
  have known : command ∈ (Terminal.demoCommands config).map CommandInfo.id := by
    rwa [Terminal.map_id_demoCommands, Terminal.mem_sortedSet]
  obtain ⟨info, hi, rfl⟩ := List.mem_map.mp known
  have found : (((Terminal.demoCommands config).map idleEntry).find? fun entry => entry.1 == info.id).isSome :=
    List.find?_isSome.mpr ⟨idleEntry info, List.mem_map_of_mem hi, beq_self_eq_true info.id⟩
  obtain ⟨entry, he⟩ := Option.isSome_iff_exists.mp found
  obtain ⟨other, -, rfl⟩ := List.mem_map.mp (List.mem_of_find?_eq_some he)
  exact ⟨other, congrArg (Option.map Prod.snd) he⟩

end Scenario.App

end Keychord
