import Keychord.Proofs.Application.Registrations

namespace Keychord.Scenario.App

open Session

variable {config : Config} {world world' : Session.World} {command : String}

def seatBus : Bus Subscriber := Terminal.attach .observer {}

structure Ready (config : Config) (world : Session.World) : Prop where
  recording   : world.journal.Recording
  buses       : world.buses = [commandBus, seatBus]
  registry    : world.registry = some (demoRegistry config)
  registryBus : world.registryBus = some registryBus
  screen      : world.screen = .app

theorem Ready.tells (ready : Ready config world) {notices : List Notice} (tells : world.Tells notices world') :
    Ready config world' := by
  obtain ⟨journal, rfl, notes⟩ := tells
  exact { ready with recording := notes.recording }

def doneLine (command : String) : String := command ++ " [ok]"

def logText (lines : List String) : String := "\n".intercalate (lines.drop (lines.length - 50))

def Carries (command : String) (world world' : Session.World) : Prop :=
  let lines := world.lines ++ [doneLine command]
  ∃ journal, world' = { world with journal := journal, lines := lines } ∧
    world.journal.Notes [.shown (logText lines)] journal

theorem logCommand_ok (ready : Ready config world) (command : String) :
    ∃ world', logCommand (Registry.Event.succeeded command).payload world = (.ok (), world') ∧
      Carries command world world' := by
  have line : commandLine (Registry.Event.succeeded command).payload = .ok (doneLine command) := by
    have spelt : commandLine (Registry.Event.succeeded command).payload = .ok (command ++ " [" ++ "ok" ++ "]") := rfl
    rw [spelt, doneLine, String.append_assoc, String.append_assoc]
    rfl
  let lines := world.lines ++ [doneLine command]
  have given : (Action.ofExcept (commandLine (Registry.Event.succeeded command).payload) : Act String) world =
    (.ok (doneLine command), world) := congrArg (·, world) line
  have logged : logCommand (Registry.Event.succeeded command).payload world =
    (Action.ofExcept (commandLine (Registry.Event.succeeded command).payload) >>= fun line => do
      modify fun world => { world with lines := world.lines ++ [line] }
      update "#command-log" ("\n".intercalate (lastLines shownLines (← get).lines))) world := rfl
  refine ⟨_, logged.trans (Action.bind_ok given), _, rfl, ?_⟩
  exact ready.recording.write (updateEntry "#command-log" (logText lines))

def Prompt : Registry.Request Routine Remainder → Prop
  | .await _ => False
  | _ => True

theorem advanceRegistry_of_answered {request : RegistrySide.Request} (prompt : Prompt request)
    {registry : Registry Routine} {resume : Except Failure (RegistrySide.Answer request) → Registry Routine → RegistryRun}
    {reply : Except Failure (RegistrySide.Answer request)}
    (answered : answerRegistry player request (world.setRegistry registry) = (reply, world')) :
    advanceRegistry player (.waiting request registry resume) world =
      advanceRegistry player (resume reply world'.commandRegistry) world' := by
  cases request with
  | await job => exact prompt.elim
  | _ =>
    rw [advanceRegistry]
    dsimp only
    rw [answered]

theorem execute_idle {registry : Registry Routine} {info : CommandInfo}
    (known : registry.commands.get? command = some ⟨info, none⟩) :
    ∃ begins, (Registry.execute command [] registry : RegistryRun) =
        .waiting (.publish (.before command [])) registry begins ∧
      ∃ opens, begins (.ok ()) registry = .waiting (.telemetry (.openSpan (Registry.executeSpan command))) registry opens ∧
      ∀ span, ∃ calls, opens (.ok span) registry = .waiting (.invoke none ⟨command, [], registry.services⟩) registry calls ∧
      ∃ closes, calls (.ok none) registry = .waiting (.telemetry (.closeSpan span none)) registry closes ∧
      ∃ ends, closes (.ok ()) registry = .waiting (.publish (.succeeded command)) registry ends ∧
      ends (.ok ()) registry = .finished (.ok ()) registry := by
  have begun : (Registry.execute command [] registry : RegistryRun) =
      (do
        Registry.ask (.publish (.before command []))
        Telemetry.around Registry.askTelemetry (Registry.executeSpan command)
          (Registry.invoke none ⟨command, [], (← get).services⟩)
        Registry.ask (.publish (.succeeded command)) : Registry.Step Routine Remainder Unit) registry := by
    rw [Registry.execute, Program.get_bind, known]
  exact ⟨_, begun, _, rfl, fun span => ⟨_, rfl, _, rfl, _, rfl, rfl⟩⟩

section Ready

variable (ready : Ready config world)
include ready

theorem Ready.commandRegistry : world.commandRegistry = demoRegistry config := by
  rw [World.commandRegistry, ready.registry]
  rfl

theorem Ready.bus_registryBus : world.bus App.registryBus = commandBus := by
  rw [World.bus, ready.buses]
  rfl

theorem Ready.registryBus_lt : App.registryBus < world.buses.length := by
  rw [ready.buses]
  exact Nat.two_pos

theorem Ready.publish (event : Registry.Event) :
    answerRegistry player (.publish event) world = emitOn player App.registryBus event.name event.payload world := by
  have sent : answerRegistry player (.publish event) world =
    emitIfAny player world.registryBus event.name event.payload world := rfl
  rw [sent, ready.registryBus]
  rfl

theorem Ready.advance {request : RegistrySide.Request} (prompt : Prompt request)
    {resume : Except Failure (RegistrySide.Answer request) → Registry Routine → RegistryRun}
    {reply : Except Failure (RegistrySide.Answer request)} (answered : answerRegistry player request world = (reply, world'))
    (ready' : Ready config world') {next : RegistryRun} (goesOn : resume reply (demoRegistry config) = next) :
    advanceRegistry player (.waiting request (demoRegistry config) resume) world = advanceRegistry player next world' := by
  rw [← World.setRegistry_of_registry ready.registry] at answered
  rw [advanceRegistry_of_answered prompt answered, ready'.commandRegistry, goesOn]

end Ready

theorem Carries.after {world'' : Session.World} (carries : Carries command world' world'') (tells : world.Tells [] world') :
    Carries command world world'' := by
  obtain ⟨journal, rfl, notes⟩ := tells
  obtain ⟨journal', rfl, notes'⟩ := carries
  exact ⟨journal', rfl, notes.trans notes'⟩

theorem Ready.carries (ready : Ready config world) (carries : Carries command world world') : Ready config world' := by
  obtain ⟨journal, rfl, notes⟩ := carries
  exact { ready with recording := notes.recording }

-- A command that is bound is carried out at once.
theorem beginWork_ok (ready : Ready config world) (bound : command ∈ config.bindings.values) :
    ∃ world', beginWork player (.registry command) world = (.ok (.ended (.ok ())), world') ∧
      Carries command world world' := by
  have ⟨info, known⟩ := exists_idle bound
  have ⟨begins, begun, opens, opened, rest⟩ := execute_idle known
  -- Nobody listens before a command is carried out.
  have before : answerRegistry player (.publish (.before command [])) world = (.ok (), world) := by
    rw [ready.publish]
    refine emitOn_nobody _ ready.registryBus_lt ?_
    rw [ready.bus_registryBus]
    rfl
  have texts : ∀ e ∈ (Registry.executeSpan command).metadata.entries, e.2.text?.isSome := by simp [Registry.executeSpan]
  have ⟨span, t, performed, _⟩ := Telemetry.openSpan_ok (.inl ready.recording.active) texts
  have ⟨world₁, entered, tells⟩ := tells_aside ready.recording (by trivial) performed
  have ready₁ := ready.tells tells
  have ⟨calls, called, closes, closed, ends, ended, last⟩ := rest span
  have unfailed : ∀ f ∈ (none : Option Failure), f.isCancellation := nofun
  have ⟨t', performed', _⟩ := Telemetry.closeSpan_ok span unfailed world₁.journal.telemetry
  have ⟨world₂, left, tells'⟩ := tells_aside ready₁.recording (by trivial) performed'
  have ready₂ := ready₁.tells tells'
  have ⟨world', logged, carries⟩ := logCommand_ok ready₂ command
  have ready' := ready₂.carries carries
  have after : answerRegistry player (.publish (.succeeded command)) world₂ = (.ok (), world') := by
    have told : notify player (Registry.Event.succeeded command).payload .commandLog world₂ = (.ok (), world') := logged
    rw [ready₂.publish]
    refine emitOn_one ready₂.registryBus_lt ?_ told (ready'.buses.trans ready₂.buses.symm)
    rw [ready₂.bus_registryBus]
    rfl
  refine ⟨world', ?_, (carries.after tells').after tells⟩
  have work : beginWork player (.registry command) world =
    advanceRegistry player (Registry.execute command [] world.commandRegistry) world := rfl
  rw [work, ready.commandRegistry, begun]
  refine (ready.advance (by trivial) (by exact before) ready (by exact opened)).trans ?_
  refine (ready.advance (by trivial) (by exact entered) ready₁ (by exact called)).trans ?_
  refine (ready₁.advance (by trivial) (by rfl) ready₁ (by exact closed)).trans ?_
  refine (ready₁.advance (by trivial) (by exact left) ready₂ (by exact ended)).trans ?_
  refine (ready₂.advance (by trivial) (by exact after) ready' (by exact last)).trans ?_
  exact congrArg (Except.ok (Session.Progress.ended (.ok ())), ·) (World.setRegistry_of_registry ready'.registry)

theorem takeTurn_step (ready : Ready config world) (bound : command ∈ config.bindings.values) (owner : Owner) :
    ∃ world', takeTurn player (.step owner (.fresh (.registry command)) false) world =
      (.ok (), world'.enqueue (.ended owner (.ok ()))) ∧ Carries command world world' := by
  have ⟨world', begun, carries⟩ := beginWork_ok ready bound
  refine ⟨world', ?_, carries⟩
  have stepped : takeStep player false (.fresh (.registry command)) world = (.ok (.ended (.ok ())), world') := begun
  rw [takeTurn, Action.bind_ok stepped]
  rfl

theorem round_eq (player : Player) (world : Session.World) : round player world =
    takeTurns player (world.loop.getD {}).queue
      { world with loop := world.loop.map fun loop => { loop with queue := [] } } := rfl

theorem round_of_loop {loop : Loop} (running : world.loop = some loop) :
    round player world = takeTurns player loop.queue { world with loop := some { loop with queue := [] } } := by
  rw [round_eq, running]
  rfl

theorem round_idle (idle : (world.loop.getD {}).queue = []) : round player world = (.ok (), world) := by
  have unchanged : { world with loop := world.loop.map fun loop => { loop with queue := [] } } = world := by
    cases running : world.loop with
    | none => rw [Option.map_none, ← running]
    | some loop =>
      have empty : loop.queue = [] := by simpa [running] using idle
      rw [Option.map_some, ← empty, ← running]
  rw [round_eq, idle, unchanged]
  rfl

theorem round_of_turn {loop : Loop} {turn : Turn} (running : world.loop = some loop) (single : loop.queue = [turn])
    (taken : takeTurn player turn { world with loop := some { loop with queue := [] } } = (.ok (), world')) :
    round player world = (.ok (), world') := by
  rw [round_of_loop running, single]
  exact (Action.bind_ok taken).trans rfl

-- Where no loop runs, a command that is bound has been carried out before anything else happens.
theorem runToEnd_ok (ready : Ready config world) (bound : command ∈ config.bindings.values) (alone : world.loop = none)
    (patient : world.patience = 2) :
    ∃ world', runToEnd player (.registry command) world = (.ok (), world') ∧ Carries command world world' := by
  let begun : Session.World := { world with loop := some { queue := [.step .runner (.fresh (.registry command)) false] } }
  have ready₁ : Ready config { begun with loop := some {} } := { ready with }
  have ⟨_, taken, journal, same, notes⟩ := takeTurn_step ready₁ bound .runner
  subst same
  let carried (loop : Option Loop) : Session.World :=
    { world with journal := journal, lines := world.lines ++ [doneLine command], loop := loop }
  have first : round player begun = (.ok (), carried (some { queue := [.ended .runner (.ok ())] })) :=
    round_of_turn rfl rfl taken
  have second : round player (carried (some { queue := [.ended .runner (.ok ())] })) =
    (.ok (), carried (some { outcome := some (.ok ()) })) := round_of_turn rfl rfl rfl
  have again : untilEnded player 1 (carried (some { queue := [.ended .runner (.ok ())] })) =
    (.ok (), carried (some { outcome := some (.ok ()) })) := (Action.bind_ok second).trans rfl
  have ended : untilEnded player 2 begun = (.ok (), carried (some { outcome := some (.ok ()) })) :=
    (Action.bind_ok first).trans again
  have run : runToEnd player (.registry command) world = (untilEnded player world.patience >>= fun _ => do
      cancelWork player
      rounds player closeRounds
      let outcome := ((← get).loop.getD {}).outcome
      modify fun world => { world with loop := none }
      Action.ofExcept (outcome.getD (.ok ()))) begun := rfl
  refine ⟨carried none, ?_, journal, ?_, notes⟩
  · rw [run, patient, Action.bind_ok ended]
    rfl
  · rw [← alone]

end Keychord.Scenario.App
