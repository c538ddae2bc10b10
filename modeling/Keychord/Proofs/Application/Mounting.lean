import Keychord.Proofs.Application.Matching

namespace Keychord.Scenario.App

open Session
open Matcher (Request)
open Program (leads_bind leads_modify_bind leads_tryCatch)

variable {journal : Journal} {config : Config} {keymap : Keymap} {first world world' : Session.World} {m : Matcher}

structure Loading (first world : Session.World) : Prop where
  same     : ∃ journal m, world = { first with journal := journal, seats := [⟨m, none⟩] }
  traced   : world.journal.traced = true
  coherent : world.journal.telemetry.Coherent

theorem Loading.stored (loading : Loading first world) (m : Matcher) :
    Loading first (world.setMatcher 0 m) ∧ (world.setMatcher 0 m).matcher 0 = m := by
  obtain ⟨⟨journal, m', rfl⟩, traced, coherent⟩ := loading
  exact ⟨⟨⟨journal, m, rfl⟩, traced, coherent⟩, rfl⟩

theorem leads_telemetry (op : Telemetry.Op) (loading : Loading first world) :
    (Matcher.askTelemetry op).Leads home (fun outcome m' world' => m' = m ∧ Loading first world' ∧
      world'.journal.telemetry.calls = [] ∧ outcome = (Telemetry.perform op world.journal.telemetry).1 ∧
      world'.journal.telemetry.active = (Telemetry.perform op world.journal.telemetry).2.active) m world := by
  obtain ⟨⟨journal, m', rfl⟩, traced, coherent⟩ := loading
  have advances := Telemetry.perform_moves op journal.telemetry
  exact Program.leads_request.mpr ⟨rfl, ⟨⟨_, m, rfl⟩, traced, advances.coherent coherent⟩, rfl, rfl, rfl⟩

structure Loaded (keymap : Keymap) (m : Matcher) (world : Session.World) : Prop where
  keymap : m.keymap = keymap
  read   : world.journal.telemetry.calls = []
  active : world.journal.telemetry.active.isSome

theorem leads_reload (compiles : Keymap.compile (.text config.leader) config.timeout config.bindings = .ok keymap)
    (loading : Loading first world) : (Matcher.reload config).Leads home (fun outcome m world => Loading first world ∧
      ∀ u, outcome = .ok u → Loaded keymap m world) {} world := by
  refine leads_bind.mpr (leads_bind.mpr ((leads_telemetry _ loading).mono ?_))
  rintro (f | span) m world₁ ⟨rfl, loading₁, read₁, opened, active₁⟩
  case error => exact ⟨loading₁, nofun⟩
  have active₁ : world₁.journal.telemetry.active.isSome :=
    active₁ ▸ Telemetry.active_of_openSpan loading.coherent (Prod.ext opened.symm rfl)
  refine leads_bind.mpr (leads_tryCatch.mpr ?_)
  rw [compiles]
  refine leads_bind.mpr ((leads_telemetry _ loading₁).mono ?_)
  rintro (f | _) m world₂ ⟨rfl, loading₂, read₂, closed, active₂⟩
  case error => exact ⟨loading₂, nofun⟩
  have active₂ : world₂.journal.telemetry.active.isSome := active₂ ▸ (Telemetry.perform_moves _ _).active active₁
  have reset : (Matcher.reset : Matcher.Step Job Unit).Leads home (fun outcome m world => outcome = .ok () ∧
    m = { generation := 1 } ∧ world₂ = world) {} world₂ := ⟨rfl, rfl, rfl⟩
  refine leads_bind.mpr (reset.mono ?_)
  rintro _ _ _ ⟨rfl, rfl, rfl⟩
  refine leads_modify_bind.mpr ((leads_telemetry _ loading₂).mono ?_)
  rintro (f | _) m world₃ ⟨rfl, loading₃, read₃, recorded, active₃⟩
  case error => exact ⟨loading₃, nofun⟩
  have active₃ : world₃.journal.telemetry.active.isSome := active₃ ▸ (Telemetry.perform_moves _ _).active active₂
  exact ⟨loading₃, fun _ _ => ⟨rfl, read₃, active₃⟩⟩

-- A matcher that is added has the keymap of the configuration, if there is one. If there is none, all is as before.
theorem addSeat_cases (compiles : Keymap.compile (.text config.leader) config.timeout config.bindings = .ok keymap)
    (empty : world.seats = []) (traced : world.journal.traced = true) (coherent : world.journal.telemetry.Coherent) :
    (∃ f journal, addSeat config world = (.error f, { world with journal := journal })) ∨
      ∃ m journal, addSeat config world = (.ok 0, { world with journal := journal, seats := [⟨m, none⟩] }) ∧
        m.keymap = keymap ∧ journal.Recording := by
  let first : Session.World := { world with seats := [{}] }
  have loading : Loading first first := ⟨⟨world.journal, {}, rfl⟩, traced, coherent⟩
  have leads : (Matcher.reload config).Leads home (fun outcome m world => Loading first world ∧
    ∀ u, outcome = .ok u → Loaded keymap m world) (first.matcher 0) first := leads_reload compiles loading
  obtain ⟨m, world', ⟨⟨⟨journal, m', rfl⟩, traced', -⟩, loaded⟩, left⟩ := onMatcher_leads leads
  have seated : (modify fun world => { world with seats := world.seats ++ [{}] } : Act Unit) world = (.ok (), first) := by
    have appended : first = { world with seats := world.seats ++ [{}] } := by rw [empty]; rfl
    rw [appended]
    rfl
  rcases he : onMatcher player 0 (Matcher.reload config) first with ⟨outcome, world'⟩
  have attempted : (onMatcher player 0 (Matcher.reload config)).attempt first = (.ok outcome, world') := by
    rw [Action.attempt, he]
  rw [addSeat, Action.get_bind, Action.bind_ok seated, empty, List.length_nil, Action.bind_ok attempted]
  rw [he] at loaded left
  obtain rfl : world' = { world with journal := journal, seats := [⟨m, none⟩] } := left
  cases outcome with
  | error f => exact .inl ⟨f, journal, rfl⟩
  | ok _ =>
    obtain ⟨same, read, active⟩ := loaded () rfl
    exact .inr ⟨m, journal, rfl, same, traced', read, active⟩

def begun (journal : Journal) (config : Config) (looped : Bool) : State :=
  let app := start journal config
  { app with world := { app.world with loop := if looped then some {} else none } }

def mounted (journal : Journal) (config : Config) (looped : Bool) : State := (perform .mount (begun journal config looped)).2

structure Unmounted (app : State) : Prop where
  none  : app.mounted = none
  timed : app.world.hosted = []
  queue : (app.world.loop.getD {}).queue = []

theorem inWorld_ok {α : Type} {act : Act α} {app : State} {outcome : Except Failure α}
    (done : act app.world = (outcome, world')) :
    inWorld act app = (outcome, { app with world := world' }) := by
  rw [inWorld, Action.onPart, done]

theorem mount_cases (compiles : Keymap.compile (.text config.leader) config.timeout config.bindings = .ok keymap)
    (traced : journal.traced = true) (coherent : journal.telemetry.Coherent) (looped : Bool) :
    (mounted journal config looped).world.lines = [] ∧ awaited (mounted journal config looped).world = [] ∧
      (Unmounted (mounted journal config looped) ∨
        (mounted journal config looped).mounted = some 0 ∧
          ∀ base, Live ⟨config, keymap, compiles, looped, base⟩ (mounted journal config looped).world) := by
  let world : Session.World :=
    { journal := journal, clockwork := .hostWidget, buses := [commandBus], registry := some (demoRegistry config),
      registryBus := some registryBus, loop := if looped then some {} else none }
  have same : begun journal config looped = ⟨config, world, none⟩ := by
    rw [begun, start_world compiles]
    rfl
  have idle : (world.loop.getD {}).queue = [] := by cases looped <;> rfl
  have loop : world.loop.isSome = looped := by cases looped <;> rfl
  have empty : world.seats = [] := rfl
  have silent : awaited world = [] := congrArg (List.filterMap awaited?) idle
  rw [mounted, same, perform, Action.get_bind]
  obtain ⟨f, journal', refused⟩ | ⟨m, journal', taken, own, recording⟩ := addSeat_cases compiles empty traced coherent
  case inl =>
    rw [Action.bind_error (inWorld_ok refused)]
    exact ⟨rfl, silent, .inl ⟨rfl, rfl, idle⟩⟩
  case inr =>
    rw [Action.bind_ok (inWorld_ok taken)]
    let setFocus : Value := .list [.text "set_focus", .null]
    let loaded := updateEntry "#status-line" (toString config.bindings.size ++ " bindings loaded")
    refine ⟨rfl, silent, .inr ⟨rfl, fun base => ?_⟩⟩
    have written := ((recording.write setFocus).recording.write loaded).recording
    exact {
      recording := written
      buses := rfl
      registry := rfl
      registryBus := rfl
      screen := rfl
      clockwork := rfl
      patience := rfl
      seats := ⟨m, rfl, own⟩
      hosted := nofun
      loop := loop
      queue := fun turn ht => by
        have ht : turn ∈ (world.loop.getD {}).queue := ht
        rw [idle] at ht
        cases ht }

end Keychord.Scenario.App
