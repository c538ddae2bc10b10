import Keychord.Proofs.Application.Notices
import Keychord.Proofs.Bus.Emission
import Keychord.Scenario.Session.Surroundings

namespace Keychord.Scenario.Session

namespace World

variable {world : World}

theorem setBus_bus {i : Nat} (h : i < world.buses.length) : world.setBus i (world.bus i) = world := by
  have same : world.buses.set i (world.bus i) = world.buses := by
    rw [bus, List.getElem?_eq_getElem h, Option.getD_some, List.set_getElem_self]
  rw [setBus, same]

theorem setMatcher_matcher {seat : Nat} : world.setMatcher seat (world.matcher seat) = world := by
  have same : world.seats.modify seat (fun s => { s with matcher := world.matcher seat }) = world.seats := by
    refine List.ext_getElem? fun i => ?_
    rw [List.getElem?_modify]
    by_cases here : seat = i
    case neg => simp [here]
    case pos =>
      subst here
      cases found : world.seats[seat]? with
      | none => rfl
      | some s => simp [matcher, World.seat, found]
  rw [setMatcher, same]

theorem setRegistry_of_registry {registry : Registry Routine} (h : world.registry = some registry) :
    world.setRegistry registry = world := by
  rw [setRegistry, ← h]

end World

theorem emitOn_eq (player : Player) (i : Nat) (event : String) (payload : Value) (world : World) :
    emitOn player i event payload world =
      (Bus.deliverAll event payload ((world.bus i).subscribersOf event) (world.bus i)).drive (World.bus · i) (World.setBus i)
        (answerBus player) world := rfl

theorem emitOn_nobody {player : Player} {i : Nat} {event : String} {world : World} (payload : Value)
    (h : i < world.buses.length) (nobody : (world.bus i).subscribersOf event = []) :
    emitOn player i event payload world = (.ok (), world) := by
  rw [emitOn_eq, nobody]
  exact congrArg _ (World.setBus_bus h)

theorem emitOn_one {player : Player} {i : Nat} {event : String} {payload : Value} {subscriber : Subscriber}
    {world world' : World}
    (h : i < world.buses.length) (one : (world.bus i).subscribersOf event = [subscriber])
    (told : notify player payload subscriber world = (.ok (), world')) (same : world'.buses = world.buses) :
    emitOn player i event payload world = (.ok (), world') := by
  have called : answerBus player (.call subscriber payload) (world.setBus i (world.bus i)) = (.ok (), world') := by
    rw [World.setBus_bus h]
    exact told
  have after : i < world'.buses.length := by rwa [same]
  obtain ⟨resume, waits, goesOn, -⟩ := Bus.Audience.deliverAll_cons event payload subscriber [] (world.bus i)
  rw [emitOn_eq, one, waits]
  refine (Run.drive_waiting (by exact called)).trans ?_
  rw [goesOn]
  exact congrArg _ (World.setBus_bus after)

def World.Tells (notices : List Notice) (world world' : World) : Prop :=
  ∃ journal, world' = { world with journal := journal } ∧ world.journal.Notes notices journal

section Tells

variable {world world' world'' : World} {notices notices' : List Notice}

theorem World.Tells.trans (first : world.Tells notices world') (second : world'.Tells notices' world'') :
    world.Tells (notices ++ notices') world'' := by
  obtain ⟨journal, rfl, notes⟩ := first
  obtain ⟨journal', rfl, notes'⟩ := second
  exact ⟨journal', rfl, notes.trans notes'⟩

theorem tells_aside (recording : world.journal.Recording) {op : Telemetry.Op} (aside : op.IsAside)
    {outcome : Except Failure op.Answer} {t : Telemetry}
    (done : Telemetry.perform op world.journal.telemetry = (outcome, t)) :
    ∃ world', onTelemetry (Telemetry.perform op) world = (outcome, world') ∧ world.Tells [] world' := by
  have ⟨journal', entered, notes⟩ := recording.aside aside done
  refine ⟨{ world with journal := journal' }, ?_, journal', rfl, notes⟩
  rw [onTelemetry, Action.onPart, entered]

theorem tells_dispatch (recording : world.journal.Recording) (command keys : String) :
    ∃ world', onTelemetry (Telemetry.perform (Telemetry.dispatchOp command keys)) world = (.ok (), world') ∧
      world.Tells [.dispatched command] world' := by
  have ⟨journal', entered, notes⟩ := recording.dispatch command keys
  refine ⟨{ world with journal := journal' }, ?_, journal', rfl, notes⟩
  rw [onTelemetry, Action.onPart, entered]

end Tells

end Keychord.Scenario.Session
