import Keychord.Proofs.Record
import Keychord.Proofs.Registry.Changes
import Keychord.Proofs.Registry.Execution

namespace Keychord.Registry

variable {η Job α β : Type}

-- What is asked of a registry. The id of a command that is to be registered is looked at before anything is done.
inductive Instruction (η : Type)
  | register (id description category : String) (handler : Option η)
  | unregister (command : String)
  | execute (command : String) (arguments : List (Scalar × Value))

def Instruction.step : Instruction η → Step η Job Unit
  | .register id description category handler => do
    let info ← Program.ofExcept (CommandInfo.make id description category)
    Registry.register info handler
  | .unregister command => Registry.unregister command
  | .execute command arguments => Registry.execute command arguments

def Instruction.operate (c : Instruction η) : Program (surroundings η Job) (Registry η × Telemetry) Unit :=
  c.step.enclose clerk

-- What an instruction changes. A command without a name or a handler is not registered, and a known one is not replaced
-- while telemetry is at fault.
def Instruction.change? : Instruction η → Registry η × Telemetry → Option Change
  | .register id description category (some _), u =>
    if id = "" ∨ u.1.has id ∧ u.2.fault?.isSome then none else some (.registered ⟨id, description, category⟩)
  | .unregister command, _ => some (.unregistered command)
  | _, _ => none

abbrev Past (η Job : Type) := History (surroundings η Job) (Registry η × Telemetry) (Instruction η) Unit

def Past.changes : Past η Job → List Change
  | [] => []
  | .called c u :: h => (c.change? u).toList ++ changes h
  | _ :: h => changes h

def Past.told : Past η Job → List Event
  | [] => []
  | .asked (.publish event) _ :: h => event :: told h
  | _ :: h => told h

def unruly : Milieu (surroundings η Job) (Registry η × Telemetry) where
  answers _ _ _ := True
  drifts u u' := u'.1 = u.1 ∧ u.2.Use u'.2

section Commands

variable {registry : Registry η} {changes : List Change} {told : List Event} {info : CommandInfo} {command : String}

def filed (registry : Registry η) (info : CommandInfo) (handler : η) : Registry η :=
  { registry with commands := registry.commands.insert info.id ⟨info, handler⟩ }

def without (registry : Registry η) (command : String) : Registry η :=
  { registry with commands := registry.commands.erase command }

structure Faithful (registry : Registry η) (changes : List Change) (told : List Event) : Prop where
  keyed    : ∀ entry ∈ registry.commands.entries, entry.1 = entry.2.info.id
  lists    : Lists changes registry.all
  replayed : replay told = registry.all.map (·.id)

namespace Faithful

theorem of_empty (empty : registry.commands = .empty) : Faithful registry [] [] := by
  have none : registry.all = [] := by
    rw [all, empty]
    rfl
  exact ⟨by simp [empty, OrderedMap.empty], none ▸ .nil, by rw [none]; rfl⟩

theorem keys (faithful : Faithful registry changes told) :
    registry.commands.entries.map (·.1) = registry.all.map (·.id) := by
  rw [all, OrderedMap.values, List.map_map, List.map_map]
  exact List.map_congr_left faithful.keyed

theorem has_iff (faithful : Faithful registry changes told) :
    registry.has command ↔ (latest changes command).isSome := by
  rw [← faithful.lists.mem_ids, ← faithful.keys]
  simp [has, OrderedMap.contains]

theorem info?_eq (faithful : Faithful registry changes told) (command : String) :
    registry.info? command = latest changes command := by
  rw [info?, OrderedMap.get?]
  cases found : registry.commands.entries.find? fun entry => entry.1 == command with
  | none =>
    have absent : ¬registry.has command := by
      rw [has, OrderedMap.contains, List.any_eq_true]
      rintro ⟨entry, he, same⟩
      exact List.find?_eq_none.mp found entry he same
    rw [faithful.has_iff, Option.not_isSome_iff_eq_none] at absent
    exact absent.symm
  | some entry =>
    have member := List.mem_of_find?_eq_some found
    have same : entry.1 = command := by simpa using List.find?_some found
    have listed : entry.2.info ∈ registry.all := List.mem_map_of_mem (List.mem_map_of_mem member)
    have known := (faithful.lists.listed _).mp listed
    rw [← faithful.keyed entry member, same] at known
    exact known.symm

theorem hear (faithful : Faithful registry changes told) {told' : List Event} (same : replay told' = replay told) :
    Faithful registry changes told' :=
  { faithful with replayed := same.trans faithful.replayed }

theorem file (faithful : Faithful registry changes told) (info : CommandInfo) (handler : η) :
    Faithful (registry.filed info handler) (.registered info :: changes) (.registered info.id :: told) := by
  have distinct : (registry.commands.entries.map (·.1)).Nodup := faithful.keys ▸ faithful.lists.nodup
  by_cases there : info.id ∈ registry.all.map (·.id)
  case pos =>
    have replaced : (registry.filed info handler).commands.entries =
        registry.commands.entries.map fun entry => if entry.1 == info.id then (info.id, ⟨info, handler⟩) else entry :=
      OrderedMap.setEntry_of_mem _ distinct (faithful.keys ▸ there)
    have infos : (registry.filed info handler).all =
        registry.all.map fun other => if other.id = info.id then info else other := by
      rw [all, all, OrderedMap.values, OrderedMap.values, replaced, List.map_map, List.map_map, List.map_map, List.map_map]
      refine List.map_congr_left fun entry he => ?_
      by_cases same : entry.1 = info.id <;> simp [same, ← faithful.keyed entry he]
    refine ⟨fun entry he => ?_, ?_, ?_⟩
    case refine_1 =>
      rw [replaced] at he
      have ⟨former, hf, same⟩ := List.mem_map.mp he
      by_cases here : former.1 = info.id
      case pos => simp [← same, here]
      case neg =>
        have kept : former = entry := by simpa [here] using same
        exact kept ▸ faithful.keyed former hf
    case refine_2 => exact infos ▸ faithful.lists.replace (faithful.lists.mem_ids.mp there)
    case refine_3 => rw [replay, faithful.replayed, if_pos there, infos, Lists.map_id_replace]
  case neg =>
    have added : (registry.filed info handler).commands.entries =
        registry.commands.entries ++ [(info.id, ⟨info, handler⟩)] :=
      OrderedMap.setEntry_of_new _ (faithful.keys ▸ there)
    have infos : (registry.filed info handler).all = registry.all ++ [info] := by
      rw [all, all, OrderedMap.values, OrderedMap.values, added, List.map_append, List.map_append]
      rfl
    refine ⟨fun entry he => ?_, ?_, ?_⟩
    case refine_1 =>
      rw [added] at he
      cases List.mem_append.mp he with
      | inl he => exact faithful.keyed entry he
      | inr he => rw [List.mem_singleton.mp he]
    case refine_2 =>
      rw [faithful.lists.mem_ids, Option.not_isSome_iff_eq_none] at there
      exact infos ▸ faithful.lists.add there
    case refine_3 =>
      rw [replay, faithful.replayed, if_neg there, infos, List.map_append]
      rfl

theorem erase (faithful : Faithful registry changes told) (command : String) :
    Faithful (registry.without command) (.unregistered command :: changes) (.unregistered command :: told) := by
  have infos : (registry.without command).all = registry.all.filter (·.id ≠ command) := by
    rw [all, all, OrderedMap.values, OrderedMap.values, List.map_map, List.map_map, List.filter_map]
    refine congrArg (List.map _) (List.filter_congr fun entry he => ?_)
    by_cases same : entry.1 = command <;> simp [same, ← faithful.keyed entry he]
  refine ⟨fun entry he => faithful.keyed entry (List.mem_filter.mp he).left, ?_, ?_⟩
  case refine_1 => exact infos ▸ faithful.lists.remove command
  case refine_2 =>
    rw [replay, faithful.replayed, infos, List.filter_map]
    rfl

theorem spare (faithful : Faithful registry changes told) (absent : ¬registry.has command) :
    Faithful registry (.unregistered command :: changes) told := by
  have others : registry.all.filter (·.id ≠ command) = registry.all := by
    refine List.filter_eq_self.mpr fun info hi => decide_eq_true fun same => absent ?_
    exact faithful.has_iff.mpr (faithful.lists.mem_ids.mp (List.mem_map.mpr ⟨info, hi, same⟩))
  exact { faithful with lists := others ▸ faithful.lists.remove command }

end Faithful

end Commands

section Instructions

variable {u : Registry η × Telemetry} {id description category : String} {handler : η} {command : String}

theorem operate_register_unnamed (handler : Option η) : (Instruction.register "" description category handler).operate u =
    (.finished (.error .emptyCommandId) u : Run (surroundings η Job) _ Unit) := rfl

theorem operate_register_uncallable (named : id ≠ "") : (Instruction.register id description category none).operate u =
    (.finished (.error .notCallable) u : Run (surroundings η Job) _ Unit) := by
  have made : CommandInfo.make id description category = .ok ⟨id, description, category⟩ := if_neg named
  rw [Instruction.operate, Instruction.step, made]
  rfl

variable (Job) in
def announced (info : CommandInfo) (handler : η) (u : Registry η × Telemetry) :
    Run (surroundings η Job) (Registry η × Telemetry) Unit :=
  .waiting (.publish (.registered info.id)) (filed u.1 info handler, u.2) .finished

theorem operate_register_new (named : id ≠ "") (absent : ¬u.1.has id) :
    (Instruction.register id description category (some handler)).operate u =
      announced Job ⟨id, description, category⟩ handler u := by
  have made : CommandInfo.make id description category = .ok ⟨id, description, category⟩ := if_neg named
  have added : (Registry.register ⟨id, description, category⟩ (some handler) : Step η Job Unit) u.1 =
      .waiting (.publish (.registered id)) (filed u.1 ⟨id, description, category⟩ handler) .finished :=
    congrFun (if_neg absent) u.1
  rw [Instruction.operate, Instruction.step, made]
  show Run.enclose clerk ((Registry.register _ (some handler) : Step η Job Unit) u.1) u.2 = _
  rw [added]
  rfl

theorem operate_register_known (description category : String) (handler : η) (named : id ≠ "") (known : u.1.has id)
    (coherent : u.2.Coherent) : ∃ t, u.2.Advances t ∧
    (Instruction.register id description category (some handler)).operate u = u.2.fault?.elim
      (announced Job ⟨id, description, category⟩ handler (u.1, t)) fun f => .finished (.error f) (u.1, t) := by
  have made : CommandInfo.make id description category = .ok ⟨id, description, category⟩ := if_neg named
  have texts : ∀ e ∈ [("command_id", Value.text id)], e.2.text?.isSome := by simp
  have level : Telemetry.fieldLevels.contains (Text.lower "warning") := by decide
  have ⟨t, records, _⟩ := Telemetry.record_outcome coherent level texts "command.overwrite"
  refine ⟨t, (Telemetry.perform_moves _).of_eq records, ?_⟩
  have replaced : (Registry.register ⟨id, description, category⟩ (some handler) : Step η Job Unit) u.1 =
      (do
        askTelemetry (.record "command.overwrite" "warning" [("command_id", .text id)])
        modify (filed · ⟨id, description, category⟩ handler)
        ask (.publish (.registered id)) : Step η Job Unit) u.1 :=
    congrFun (if_pos known) u.1
  rw [Instruction.operate, Instruction.step, made]
  show Run.enclose clerk ((Registry.register _ (some handler) : Step η Job Unit) u.1) u.2 = _
  rw [replaced]
  have served : Run.enclose clerk ((askTelemetry (.record "command.overwrite" "warning" [("command_id", .text id)]) :
      Step η Job Unit) u.1) u.2 = .finished (u.2.fault?.elim (.ok ()) .error) (u.1, t) :=
    (enclose_askTelemetry _ u).trans (by rw [records])
  refine ((Run.enclose_andThen clerk _ _ _).trans (congrArg (Run.andThen _) served)).trans ?_
  cases u.2.fault? with
  | none => rfl
  | some f => rfl

theorem operate_unregister_known (known : u.1.has command) : (Instruction.unregister command : Instruction η).operate u =
    (.waiting (.publish (.unregistered command)) (u.1.without command, u.2) .finished :
      Run (surroundings η Job) _ Unit) := by
  have removed : (Registry.unregister command : Step η Job Unit) u.1 =
      .waiting (.publish (.unregistered command)) (u.1.without command) .finished :=
    congrFun (if_pos known) u.1
  show Run.enclose clerk ((Registry.unregister command : Step η Job Unit) u.1) u.2 = _
  rw [removed]
  rfl

theorem operate_unregister_absent (absent : ¬u.1.has command) : (Instruction.unregister command : Instruction η).operate u =
    (.finished (.ok ()) u : Run (surroundings η Job) _ Unit) := by
  have left : (Registry.unregister command : Step η Job Unit) u.1 = .finished (.ok ()) u.1 := congrFun (if_neg absent) u.1
  show Run.enclose clerk ((Registry.unregister command : Step η Job Unit) u.1) u.2 = _
  rw [left]
  rfl

end Instructions

section Quiet

def Request.Quiet : Request η Job → Prop
  | .publish (.registered _) | .publish (.unregistered _) => False
  | _ => True

variable (η Job) in
def quietly : Aside (surroundings η Job) (Registry η) (Instruction η) Unit :=
  ⟨fun _ _ => False, fun registry registry' => registry' = registry, Request.Quiet⟩

def Quiet (step : Step η Job α) : Prop := ∀ registry, (step registry).Still (quietly η Job) registry

variable {first : Step η Job α} {next : α → Step η Job β}

theorem quiet_of_finished {outcome : Registry η → Except Failure α} {step : Step η Job α}
    (ends : ∀ registry, step registry = .finished (outcome registry) registry) : Quiet step :=
  fun registry => ends registry ▸ .finished rfl

theorem quiet_ask {request : Request η Job} (quiet : request.Quiet) : Quiet (ask request) :=
  fun _ => .waiting quiet rfl fun _ _ => .finished rfl

theorem quiet_askTelemetry (op : Telemetry.Op) : Quiet (askTelemetry op : Step η Job op.Answer) :=
  fun _ => .waiting trivial rfl fun _ _ => .finished rfl

theorem Quiet.andThen {next : Except Failure α → Step η Job β} (quiet : Quiet first)
    (goesOn : ∀ outcome, Quiet (next outcome))
    (registry : Registry η) : ((first registry).andThen next).Still (quietly η Job) registry := by
  have trans : ∀ s s' s'', (quietly η Job).changes s s' → (quietly η Job).changes s' s'' → (quietly η Job).changes s s'' :=
    fun _ _ _ same same' => Eq.trans same' same
  exact (quiet registry).andThen trans goesOn

theorem Quiet.bind (quiet : Quiet first) (goesOn : ∀ a, Quiet (next a)) : Quiet (first >>= next) := by
  refine quiet.andThen fun outcome => ?_
  cases outcome with
  | ok a => exact goesOn a
  | error f => exact quiet_of_finished fun _ => rfl

theorem Quiet.attempt (quiet : Quiet first) : Quiet first.attempt := quiet.andThen fun _ => quiet_of_finished fun _ => rfl

theorem Quiet.tryCatch {handler : Failure → Step η Job α} (quiet : Quiet first) (goesOn : ∀ f, Quiet (handler f)) :
    Quiet (tryCatchThe Failure first handler) := by
  refine quiet.andThen fun outcome => ?_
  cases outcome with
  | ok a => exact quiet_of_finished fun _ => rfl
  | error f => exact goesOn f

theorem quiet_around {wanted : Telemetry.SpanRequest} {block : Step η Job α} (quiet : Quiet block) :
    Quiet (Telemetry.around askTelemetry wanted block) := by
  refine (quiet_askTelemetry _).bind fun span => (quiet.tryCatch fun f => ?_).bind fun result => ?_
  case refine_1 => exact (quiet_askTelemetry _).bind fun _ => quiet_of_finished fun _ => rfl
  case refine_2 => exact (quiet_askTelemetry _).bind fun _ => quiet_of_finished fun _ => rfl

theorem quiet_invoke (handler : η) (context : CommandContext) : Quiet (invoke handler context : Step η Job Unit) := by
  refine Quiet.bind (Quiet.attempt ((quiet_ask (by trivial)).bind fun work => ?_)) fun outcome => ?_
  case refine_1 =>
    match work with
    | none => exact quiet_of_finished fun _ => rfl
    | some job => exact quiet_ask (by trivial)
  case refine_2 =>
    cases outcome with
    | ok _ => exact quiet_of_finished fun _ => rfl
    | error f =>
      have throws : Quiet (throw f : Step η Job Unit) := quiet_of_finished fun _ => rfl
      show Quiet (if !f.isCancellation then (do ask (.publish (.failed context.command f)); throw f) else throw f)
      cases f.isCancellation with
      | true => exact throws
      | false => exact (quiet_ask (by trivial)).bind fun _ => throws

theorem quiet_execute (command : String) (arguments : List (Scalar × Value)) :
    Quiet (execute command arguments : Step η Job Unit) := by
  refine (quiet_of_finished fun _ => rfl).bind fun registry => ?_
  cases registry.commands.get? command with
  | none => exact quiet_askTelemetry _
  | some entry =>
    refine (quiet_ask (by trivial)).bind fun _ => (quiet_of_finished fun _ => rfl).bind fun registry => ?_
    exact (quiet_around (quiet_invoke _ _)).bind fun _ => quiet_ask (by trivial)

variable (η Job) in
def idly : Aside (surroundings η Job) (Registry η × Telemetry) (Instruction η) Unit :=
  ⟨fun _ _ => False, fun u u' => u'.1 = u.1 ∧ u.2.Advances u'.2, Request.Quiet⟩

theorem Quiet.idle {step : Step η Job Unit} (quiet : Quiet step) (u : Registry η × Telemetry) :
    (step.enclose clerk u).Still (idly η Job) u := by
  have trans : ∀ u u' u'', (idly η Job).changes u u' → (idly η Job).changes u' u'' → (idly η Job).changes u u'' :=
    fun _ _ _ moves moves' => ⟨moves'.left.trans moves.left, .trans _ _ _ moves.right moves'.right⟩
  refine Run.Still.enclose trans (fun _ quiet _ => quiet) (fun _ _ t same => ⟨same, .refl t⟩) ?_ (quiet u.1) u.2
  intro request serve served u
  cases request with
  | telemetry op => cases served; exact ⟨rfl, Telemetry.perform_moves op u.2⟩
  | publish => cases served
  | invoke => cases served
  | await => cases served

end Quiet

section Kept

variable {u : Registry η × Telemetry} {h : Past η Job} {c : Instruction η}

-- What an instruction does: it is refused, puts a command in and tells so, takes one out and tells so, finds none to
-- take out, or leaves the commands to others.
inductive Does (c : Instruction η) (u : Registry η × Telemetry) :
    Run (surroundings η Job) (Registry η × Telemetry) Unit → Prop
  | refused {f : Failure} {t : Telemetry} (advances : u.2.Advances t) (unchanged : c.change? u = none) :
      Does c u (.finished (.error f) (u.1, t))
  | filed {info : CommandInfo} {handler : η} {t : Telemetry} (advances : u.2.Advances t)
      (changed : c.change? u = some (.registered info)) : Does c u (announced Job info handler (u.1, t))
  | removed {command : String} (changed : c.change? u = some (.unregistered command)) :
      Does c u (.waiting (.publish (.unregistered command)) (u.1.without command, u.2) .finished)
  | spared {command : String} (absent : ¬u.1.has command) (changed : c.change? u = some (.unregistered command)) :
      Does c u (.finished (.ok ()) u)
  | idle {run : Run (surroundings η Job) (Registry η × Telemetry) Unit} (still : run.Still (idly η Job) u)
      (unchanged : c.change? u = none) : Does c u run

theorem does_register (coherent : u.2.Coherent) (id description category : String) (handler : Option η) :
    Does (.register id description category handler) u
      ((Instruction.register id description category handler).operate u : Run (surroundings η Job) _ Unit) := by
  by_cases named : id = ""
  case pos =>
    subst named
    rw [operate_register_unnamed]
    exact .refused (.refl _) (by cases handler <;> simp [Instruction.change?])
  case neg =>
    cases handler with
    | none =>
      rw [operate_register_uncallable named]
      exact .refused (.refl _) rfl
    | some handler =>
      by_cases known : u.1.has id
      case neg =>
        rw [operate_register_new named known]
        exact .filed (.refl _) (if_neg (by simp [named, known]))
      case pos =>
        have ⟨t, advances, operated⟩ : ∃ t, u.2.Advances t ∧ _ = u.2.fault?.elim (announced Job _ _ (u.1, t)) fun f =>
            .finished (.error f) (u.1, t) := operate_register_known description category handler named known coherent
        rw [operated]
        cases fault : u.2.fault? with
        | none => exact .filed advances (if_neg (by simp [named, fault]))
        | some f => exact .refused advances (if_pos (by simp [known, fault]))

theorem does_operate (coherent : u.2.Coherent) (c : Instruction η) :
    Does c u (c.operate u : Run (surroundings η Job) _ Unit) := by
  cases c with
  | register id description category handler => exact does_register coherent id description category handler
  | unregister command =>
    by_cases known : u.1.has command
    case pos =>
      rw [operate_unregister_known known]
      exact .removed rfl
    case neg =>
      rw [operate_unregister_absent known]
      exact .spared known rfl
  | execute command arguments => exact .idle ((quiet_execute command arguments).idle u) rfl

structure Kept (u : Registry η × Telemetry) (h : Past η Job) : Prop where
  coherent : u.2.Coherent
  faithful : Faithful u.1 (Past.changes h) (Past.told h)

theorem replay_asked {request : Request η Job} (quiet : request.Quiet) (u : Registry η × Telemetry) (h : Past η Job) :
    replay (Past.told (.asked request u :: h)) = replay (Past.told h) := by
  cases request with
  | publish event =>
    cases event with
    | registered => exact quiet.elim
    | unregistered => exact quiet.elim
    | _ => rfl
  | _ => rfl

theorem keeps_operate (c : Instruction η) (kept : Kept u h) :
    (c.operate u).Keeps unruly Kept c (.called c u :: h) := by
  have ⟨coherent, faithful⟩ := kept
  have does : Does c u (c.operate u : Run (surroundings η Job) _ Unit) := does_operate coherent c
  have changes : Past.changes (.called c u :: h) = (c.change? u).toList ++ Past.changes h := rfl
  generalize c.operate u = run at does
  cases does with
  | refused advances unchanged =>
    rw [unchanged] at changes
    exact ⟨advances.coherent coherent, changes ▸ faithful⟩
  | @filed info handler t advances changed =>
    rw [changed] at changes
    have told : Faithful (u.1.filed info handler) (Past.changes (.called c u :: h)) (.registered info.id :: Past.told h) :=
      changes ▸ faithful.file info handler
    exact ⟨⟨advances.coherent coherent, told⟩, fun _ _ _ _ kept => ⟨kept.coherent, kept.faithful⟩⟩
  | @removed command changed =>
    rw [changed] at changes
    have told : Faithful (u.1.without command) (Past.changes (.called c u :: h)) (.unregistered command :: Past.told h) :=
      changes ▸ faithful.erase command
    exact ⟨⟨coherent, told⟩, fun _ _ _ _ kept => ⟨kept.coherent, kept.faithful⟩⟩
  | spared absent changed =>
    rw [changed] at changes
    exact ⟨coherent, changes ▸ faithful.spare absent⟩
  | idle still unchanged =>
    rw [unchanged] at changes
    refine still.keeps (fun _ _ _ kept => ⟨kept.coherent, kept.faithful⟩) (fun request u h quiet kept => ?_)
      (fun _ _ _ _ kept => ⟨kept.coherent, kept.faithful⟩) (fun u u' h moves kept => ?_) ⟨coherent, changes ▸ faithful⟩
    case refine_1 => exact ⟨kept.coherent, kept.faithful.hear (replay_asked quiet u h)⟩
    case refine_2 => exact ⟨moves.right.coherent kept.coherent, moves.left ▸ kept.faithful⟩

end Kept

-- At all times the commands are those that have been registered and not been given up since, as they were registered
-- last, in the order in which they came, and no other list is what the changes say. A single command is known just if
-- it is among them, by what it was registered with last. What has been told of commands that come and go adds up to the
-- same commands. A command without a name or a handler is refused, and one that is not known is not taken out; this
-- changes nothing, and nothing is told.
theorem listing_faithful {u : Registry η × Telemetry} (empty : u.1.commands = .empty) (coherent : u.2.Coherent)
    {G : Crowd (surroundings η Job) ((Registry η × Telemetry) × Past η Job) (Instruction η) Unit}
    (reaches : Crowd.Reaches (recorded Instruction.operate) unruly.recorded ⟨(u, []), []⟩ G) :
    (∀ infos, Lists (Past.changes G.state.2) infos ↔ infos = G.state.1.1.all) ∧
    (G.state.1.1.all.map (·.id)).Nodup ∧
    (∀ command, G.state.1.1.info? command = latest (Past.changes G.state.2) command ∧
      (G.state.1.1.has command ↔ ∃ info ∈ G.state.1.1.all, info.id = command)) ∧
    replay (Past.told G.state.2) = G.state.1.1.all.map (·.id) ∧
    ∀ u : Registry η × Telemetry,
      (∀ description category handler, (Instruction.register "" description category handler).operate u =
        (.finished (.error .emptyCommandId) u : Run (surroundings η Job) _ Unit)) ∧
      (∀ id description category, id ≠ "" → (Instruction.register id description category none).operate u =
        (.finished (.error .notCallable) u : Run (surroundings η Job) _ Unit)) ∧
      ∀ command, ¬u.1.has command → (Instruction.unregister command).operate u =
        (.finished (.ok ()) u : Run (surroundings η Job) _ Unit) := by
  have start : Kept u ([] : Past η Job) := ⟨coherent, .of_empty empty⟩
  have ⟨_, faithful⟩ : Kept G.state.1 G.state.2 := reaches.keeps (fun c _ _ kept => keeps_operate c kept)
    (fun u u' h moves kept => ⟨moves.right.advances.coherent kept.coherent, moves.left ▸ kept.faithful⟩) start
  refine ⟨fun infos => ?_, faithful.lists.nodup, fun command => ⟨faithful.info?_eq command, ?_⟩, faithful.replayed,
    fun u => ⟨fun _ _ _ => operate_register_unnamed _, fun _ _ _ named => operate_register_uncallable named,
      fun _ absent => operate_unregister_absent absent⟩⟩
  case refine_1 => exact ⟨fun lists => lists.unique faithful.lists, fun same => same ▸ faithful.lists⟩
  case refine_2 => rw [faithful.has_iff, ← faithful.lists.mem_ids, List.mem_map]

abbrev Recorded :=
  Crowd (surroundings String Nat) ((Registry String × Telemetry) × Past String Nat) (Instruction String) Unit

def busy : Recorded :=
  let op := recorded (Instruction.operate : Instruction String → Program (surroundings String Nat) _ Unit)
  let known := ((Crowd.enter op ⟨(({}, {}), []), []⟩ (.register "a" "" "general" (some "first"))).enter op
    (.register "b" "" "general" (some "second")))
  let begun := ((known.enter op (.execute "a" [])).answer calm 2)
  (((begun.enter op (.unregister "b")).enter op (.register "c" "" "general" (some "third"))).enter op
    (.register "b" "again" "general" (some "fourth"))).answer calm 2

theorem reaches_busy : Crowd.Reaches (recorded Instruction.operate) unruly.recorded ⟨(({}, {}), []), []⟩ busy := by
  rw [busy]
  refine .answer (fun _ _ => trivial) (.enter (.enter (.enter ?_ _) _) _) 2
  exact .answer (fun _ _ => trivial) (.enter (.enter (.enter .refl _) _) _) 2

theorem listing_faithful_busy :
    Crowd.Reaches (recorded Instruction.operate) unruly.recorded ⟨(({}, {}), []), []⟩ busy ∧
    busy.state.1.1.all.map (·.id) = ["a", "c", "b"] ∧
    (latest (Past.changes busy.state.2) "b").map (·.description) = some "again" ∧
    replay (Past.told busy.state.2) = ["a", "c", "b"] := by
  have ⟨_, _, single, replayed, _⟩ := listing_faithful rfl (.inr rfl) reaches_busy
  have ids : busy.state.1.1.all.map (·.id) = ["a", "c", "b"] := by decide +kernel
  have info : (busy.state.1.1.info? "b").map (·.description) = some "again" := by decide +kernel
  exact ⟨reaches_busy, ids, (single "b").left ▸ info, replayed.trans ids⟩

end Keychord.Registry
