import Keychord.Proofs.Application.Accounts

namespace Keychord.Scenario.App

open Session
open Matcher (Request Expiry)

def home : Home (Matcher.surroundings Job) Matcher Session.World where
  load world := world.matcher 0
  store := World.setMatcher 0
  answer := answerMatcher player (settle player) 0

variable {S : Scene} {owed owed' : List String} {command : String} {world world' : Session.World} {m : Matcher}

structure Fit (S : Scene) (owed : List String) (m : Matcher) (world : Session.World) : Prop where
  same  : m.keymap = S.keymap
  sound : Sound S owed world

theorem Fit.stored (fit : Fit S owed m world) :
    Sound S owed (world.setMatcher 0 m) ∧ (world.setMatcher 0 m).matcher 0 = m := by
  obtain ⟨same, live, added, entries, answers⟩ := fit
  obtain ⟨m', seats, -⟩ := live.seats
  have stored : (world.setMatcher 0 m).seats = [⟨m, some 1⟩] := by
    rw [World.setMatcher, seats]
    rfl
  refine ⟨⟨{ live with seats := ⟨m, stored, same⟩ }, added, entries, answers⟩, ?_⟩
  rw [World.matcher, World.seat, stored]
  rfl

def Serves (S : Scene) (owed owed' : List String) (request : Request Job)
    (P : Except Failure ((Matcher.surroundings Job).Answer request) → Prop) : Prop :=
  ∀ world, Sound S owed world → ∃ outcome world', home.answer request world = (outcome, world') ∧
    world'.seats = world.seats ∧ Sound S owed' world' ∧ P outcome

theorem leads_ask {request : Request Job} {P : Except Failure ((Matcher.surroundings Job).Answer request) → Prop}
    (serves : Serves S owed owed' request P) (fit : Fit S owed m world) :
    (Matcher.ask request).Leads home (fun outcome m world => P outcome ∧ Fit S owed' m world) m world := by
  obtain ⟨sound, loaded⟩ := fit.stored
  obtain ⟨outcome, world', answered, seats, sound', suits⟩ := serves _ sound
  have same : world'.matcher 0 = m := by
    rw [World.matcher, World.seat, seats]
    exact loaded
  have answered : home.answer request (home.store m world) = (outcome, world') := answered
  have loaded' : home.load world' = m := same
  refine Program.leads_request.mpr ?_
  rw [answered, loaded']
  exact ⟨suits, fit.same, sound'⟩

theorem onMatcher_leads {α : Type} {step : Matcher.Step Job α} {Q : Except Failure α → Matcher → Session.World → Prop}
    (leads : step.Leads home Q (world.matcher 0) world) : ∃ m world', Q (onMatcher player 0 step world).1 m world' ∧
      (onMatcher player 0 step world).2 = world'.setMatcher 0 m :=
  Run.Leads.drive leads

abbrev Upheld {α : Type} (S : Scene) (step : Matcher.Step Job α) : Prop :=
  step.Upholds home (Fit S [])

theorem ask_upheld {request : Request Job} {P : Except Failure ((Matcher.surroundings Job).Answer request) → Prop}
    (serves : Serves S [] [] request P) : Upheld S (Matcher.ask request) :=
  fun _ _ fit => (leads_ask serves fit).mono fun _ _ _ h => h.right

section Requests

theorem serves_of_tells {request : Request Job} {P : Except Failure ((Matcher.surroundings Job).Answer request) → Prop}
    (tells : ∀ world, Sound S owed world → ∃ outcome world', home.answer request world = (outcome, world') ∧
      world.Tells [] world' ∧ P outcome) : Serves S owed owed request P := by
  intro world sound
  obtain ⟨outcome, world', answered, tells, suits⟩ := tells world sound
  refine ⟨outcome, world', answered, ?_, sound.tells tells, suits⟩
  obtain ⟨journal, rfl, -⟩ := tells
  rfl

theorem serves_aside {op : Telemetry.Op} (aside : op.IsAside) :
    Serves S owed owed (.telemetry op) fun _ => True := by
  refine serves_of_tells fun world sound => ?_
  have ⟨world', entered, tells⟩ := tells_aside sound.live.recording aside rfl
  exact ⟨_, world', entered, tells, trivial⟩

theorem serves_dispatched (bound : command ∈ S.config.bindings.values) (keys : String) :
    Serves S [] [command] (.telemetry (Telemetry.dispatchOp command keys)) (· = .ok ()) := by
  intro world sound
  have ⟨world', entered, tells⟩ := tells_dispatch sound.live.recording command keys
  refine ⟨_, world', entered, ?_, sound.dispatch tells bound, rfl⟩
  obtain ⟨journal, rfl, -⟩ := tells
  rfl

theorem serves_consume (press : Press) : Serves S owed owed (.consume press) (· = .ok ()) := by
  rintro world ⟨live, added, entries, answers⟩
  exact ⟨_, _, rfl, rfl, ⟨{ live with }, added, entries, answers⟩, rfl⟩

theorem serves_disarm (timer : Nat) : Serves S owed owed (.disarm timer) (· = .ok ()) := by
  refine serves_of_tells fun world sound => ?_
  have answered : home.answer (.disarm timer) world = disarm timer world := rfl
  rw [answered, disarm, Action.get_bind, sound.live.clockwork]
  exact ⟨_, _, rfl, ⟨_, rfl, sound.live.recording.write (.list [.text "timer", .text "stop", .int timer])⟩, rfl⟩

theorem serves_arm (delay : Int) {expiry : Expiry} (bound : Bound S.config expiry.action) :
    Serves S owed owed (.arm delay expiry) fun _ => True := by
  intro world sound
  have answered : home.answer (.arm delay expiry) world = arm 0 delay expiry world := rfl
  rw [answered, arm, Action.get_bind, sound.live.clockwork]
  cases hs : (Timer.Delay.whole delay).seconds with
  | error f =>
    have given : (Action.ofExcept (Timer.Delay.whole delay).seconds : Act Float) world = (.error f, world) :=
      congrArg (·, world) hs
    exact ⟨.error f, world, Action.bind_error given, rfl, sound, trivial⟩
  | ok seconds =>
    have given : (Action.ofExcept (Timer.Delay.whole delay).seconds : Act Float) world = (.ok seconds, world) :=
      congrArg (·, world) hs
    let entry : Value := .list [.text "timer", .text "set_timer", .int world.hosted.length, .scalar (.double seconds)]
    have tells : world.Tells [] { world with journal := world.journal.write entry } :=
      ⟨_, rfl, sound.live.recording.write entry⟩
    obtain ⟨live, added, entries, answers⟩ := sound.tells tells
    refine ⟨.ok world.hosted.length, _, (Action.bind_ok given).trans rfl, rfl,
      ⟨{ live with hosted := ?_ }, added, entries, answers⟩, trivial⟩
    intro callback hc
    obtain hc | hc := List.mem_append.mp hc
    · exact live.hosted callback hc
    · obtain rfl := List.mem_singleton.mp hc
      exact ⟨rfl, bound⟩

theorem display_tells (ready : Ready S.config world) (shown : Terminal.Display) (placed : ∀ text, shown ≠ .log text) :
    ∃ world', display shown world = (.ok (), world') ∧ world.Tells [] world' := by
  cases shown with
  | log text => exact absurd rfl (placed text)
  | pending keys =>
    rw [display, Action.get_bind, ready.screen]
    exact ⟨_, rfl, _, rfl, ready.recording.write (updateEntry "#pending-line" keys)⟩
  | status text =>
    rw [display, Action.get_bind, ready.screen]
    exact ⟨_, rfl, _, rfl, ready.recording.write (updateEntry "#status-line" text)⟩

def Harmless : Matcher.Event → Prop
  | .failed .. => False
  | _ => True

theorem respond_tells (ready : Ready S.config world) {event : Matcher.Event} (harmless : Harmless event) :
    ∃ observer world', seatBus.subscribersOf event.name = [.observer observer] ∧
      notify player event.payload (.observer observer) world = (.ok (), world') ∧ world.Tells [] world' := by
  cases event with
  | failed command f => exact harmless.elim
  | pending keys command next =>
    have ⟨world', shown, tells⟩ := display_tells ready (.pending keys) nofun
    exact ⟨.pending, world', rfl, shown, tells⟩
  | reset =>
    have ⟨world', shown, tells⟩ := display_tells ready (.pending "") nofun
    exact ⟨.reset, world', rfl, shown, tells⟩
  | dispatch command keys =>
    have ⟨world₁, cleared, tells₁⟩ := display_tells ready (.pending "") nofun
    have ⟨world', shown, tells⟩ := display_tells (ready.tells tells₁) (.status command) nofun
    exact ⟨.dispatch, world', rfl, (Action.bind_ok cleared).trans shown, tells₁.trans tells⟩

theorem serves_publish {event : Matcher.Event} (harmless : Harmless event) :
    Serves S owed owed (.publish event) (· = .ok ()) := by
  refine serves_of_tells fun world sound => ?_
  have ⟨m, seats, _⟩ := sound.live.seats
  have ⟨observer, world', only, told, tells⟩ := respond_tells sound.live.toReady harmless
  have answered : home.answer (.publish event) world =
      emitIfAny player (world.seat 0).bus event.name event.payload world := rfl
  have own : (world.seat 0).bus = some 1 := by rw [World.seat, seats]; rfl
  have within : 1 < world.buses.length := by rw [sound.live.buses]; exact Nat.one_lt_two
  have found : world.bus 1 = seatBus := by rw [World.bus, sound.live.buses]; rfl
  have same : world'.buses = world.buses := by obtain ⟨journal, rfl, -⟩ := tells; rfl
  refine ⟨_, world', ?_, tells, rfl⟩
  rw [answered, own]
  exact emitOn_one within (by rw [found, only]) told same

theorem serves_execute (command : String) :
    Serves S owed owed (.execute command) (· = .ok (some (.registry command))) := by
  intro world sound
  have answered : home.answer (.execute command) world = execute player command world := rfl
  rw [answered, execute, Action.get_bind, sound.live.registry]
  exact ⟨_, world, rfl, rfl, sound, rfl⟩

theorem serves_settle (bound : command ∈ S.config.bindings.values) :
    Serves S [command] [] (.settle command (.registry command)) (· = .ok ()) := by
  intro world sound
  have ⟨world', settled, sound', seats⟩ := settle_ok sound bound
  exact ⟨_, world', settled, seats, sound', rfl⟩

end Requests

section Steps

open Program (leads_bind leads_get_bind leads_attempt)

theorem Fit.move {m' : Matcher} (fit : Fit S owed m world) (same : m'.keymap = m.keymap) :
    Fit S owed m' world := ⟨same.trans fit.same, fit.sound⟩

theorem aside_upheld {op : Telemetry.Op} (aside : op.IsAside) : Upheld S (Matcher.askTelemetry op) :=
  ask_upheld (serves_aside aside)

theorem cancelTimer_upheld : Upheld S Matcher.cancelTimer := by
  refine .bind (.modify fun _ _ fit => fit.move rfl) fun _ => .bind .get fun m => ?_
  cases m.timer with
  | none => exact .pure ()
  | some timer => exact .bind (.modify fun _ _ fit => fit.move rfl) fun _ => ask_upheld (serves_disarm timer)

theorem startTimer_upheld {action : Matcher.Action} (bound : Bound S.config action) :
    Upheld S (Matcher.startTimer action) :=
  .bind cancelTimer_upheld fun _ => .bind .get fun _ => .bind (ask_upheld (serves_arm _ bound)) fun _ =>
    .modify fun _ _ fit => fit.move rfl

theorem clear_upheld : Upheld S Matcher.clear :=
  .bind cancelTimer_upheld fun _ => .modify fun _ _ fit => fit.move rfl

theorem reset_upheld : Upheld S Matcher.reset := by
  refine .bind .get fun m => .bind clear_upheld fun _ => ?_
  split
  · exact ask_upheld (serves_publish (by trivial))
  · exact .pure ()

theorem abandon_upheld : Upheld S Matcher.abandon :=
  .bind .get fun _ => .bind (aside_upheld ⟨by decide, by decide⟩) fun _ => reset_upheld

theorem leads_reportIfFailed {α : Type} {step : Matcher.Step Job α}
    {Q : Except Failure (Option α) → Matcher → Session.World → Prop}
    (leads : step.Leads home (fun outcome m world => ∃ a, outcome = .ok a ∧ Q (.ok (some a)) m world) m world) :
    (Matcher.reportIfFailed command step).Leads home Q m world := by
  refine leads_bind.mpr (leads_attempt.mpr (leads.mono ?_))
  rintro _ m world ⟨a, rfl, q⟩
  exact q

theorem dispatch_upheld (bound : command ∈ S.config.bindings.values) : Upheld S (Matcher.dispatch command) := by
  intro m world fit
  refine leads_get_bind.mpr (leads_bind.mpr ((clear_upheld m world fit).mono ?_))
  rintro (f | _) m world fit
  case error => exact fit
  refine leads_bind.mpr ((leads_ask (serves_dispatched bound _) fit).mono ?_)
  rintro _ m world ⟨rfl, fit⟩
  refine leads_bind.mpr ((leads_ask (serves_publish (by trivial)) fit).mono ?_)
  rintro _ m world ⟨rfl, fit⟩
  refine leads_bind.mpr (leads_reportIfFailed ((leads_ask (serves_execute command) fit).mono ?_))
  rintro _ m world ⟨rfl, fit⟩
  refine ⟨_, rfl, leads_bind.mpr (leads_reportIfFailed ((leads_ask (serves_settle bound) fit).mono ?_))⟩
  rintro _ m world ⟨rfl, fit⟩
  exact ⟨_, rfl, fit⟩

theorem expire_upheld {expiry : Expiry} (bound : Bound S.config expiry.action) :
    Upheld S (Matcher.expire expiry) := by
  refine .bind .get fun m => ?_
  split
  case isFalse => exact .pure ()
  case isTrue =>
    refine .bind (.modify fun _ _ fit => fit.move rfl) fun _ => ?_
    cases he : expiry.action with
    | dispatch command => exact dispatch_upheld (by rwa [he] at bound)
    | abandon => exact abandon_upheld

theorem arrive_upheld {node : Keymap.Node}
    (bound : ∀ command, node.command = some command → command ∈ S.config.bindings.values) :
    Upheld S (Matcher.arrive node) := by
  have waits (command : Option String) (hc : node.command = command) : Upheld S (do
      Matcher.startTimer (command.elim .abandon .dispatch)
      Matcher.ask (.publish (.pending (← get).pendingDisplay command node.nextEdges))) := by
    have set : Bound S.config (command.elim .abandon .dispatch) := by
      cases command with
      | none => trivial
      | some command => exact bound command hc
    exact .bind (startTimer_upheld set) fun _ => .bind .get fun _ => ask_upheld (serves_publish (by trivial))
  unfold Matcher.arrive
  cases hc : node.command with
  | none => exact waits none hc
  | some command =>
    cases node.isLeaf with
    | true => exact dispatch_upheld (bound command hc)
    | false => exact waits (some command) hc

theorem bound_of_find? {path : List Edge} {node : Keymap.Node} (found : S.keymap.root.find? path = some node)
    (command : String)
    (hc : node.command = some command) : command ∈ S.config.bindings.values := by
  obtain ⟨same, -, -, parsed, compiled⟩ := Keymap.compile_ok S.compiles
  obtain ⟨source, keys, entry, -⟩ := compiled.binding_of_command found hc
  rw [same] at entry
  exact List.mem_map_of_mem entry

theorem followOr_upheld (press : Press) (key : Key) {otherwise : Matcher.Step Job Bool}
    (upheld : Upheld S otherwise) : Upheld S (Matcher.followOr press key otherwise) := by
  intro m world fit
  refine leads_get_bind.mpr ?_
  cases hn : m.keymap.root.find? (m.path ++ [key.edge]) with
  | none =>
    have lost : Upheld S (if m.isIdle then return false else do Matcher.reset; otherwise) := by
      split
      · exact .pure false
      · exact .bind reset_upheld fun _ => upheld
    dsimp only
    rw [hn]
    exact lost m world fit
  | some node =>
    have bound := bound_of_find? (fit.same ▸ hn)
    have goesOn : Upheld S (do
        Matcher.cancelTimer
        Matcher.ask (.consume press)
        modify fun m' => { m' with path := m.path ++ [key.edge], typed := m'.typed ++ [key] }
        Matcher.arrive node
        return true) :=
      .bind cancelTimer_upheld fun _ => .bind (ask_upheld (serves_consume press)) fun _ =>
        .bind (.modify fun _ _ fit => fit.move rfl) fun _ => .bind (arrive_upheld bound) fun _ => .pure true
    dsimp only
    rw [hn]
    exact goesOn m world fit

theorem handle_upheld (press : Press) : Upheld S (Matcher.handle press) := by
  unfold Matcher.handle
  split
  · exact .pure false
  · cases press.toKey? with
    | none => exact .pure false
    | some key =>
      have follows : Upheld S (Matcher.follow press key) :=
        followOr_upheld press key (followOr_upheld press key (.pure false))
      exact .bind .get fun m => .around (aside_upheld trivial) (fun _ _ => aside_upheld trivial) follows

end Steps

end Keychord.Scenario.App
