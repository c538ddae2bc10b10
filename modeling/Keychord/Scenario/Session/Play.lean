import Keychord.Scenario.Report
import Keychord.Scenario.Session.Loop

namespace Keychord.Scenario.Session

def mainSeat : Nat := 0

def onMatcher {α : Type} (player : Player) (seat : Nat) (step : Matcher.Step Job α) : Act α :=
  runMatcher player (settle player) seat step

def replyValue (handled : Bool) (delivery : Delivery) : Value :=
  .list [.bool handled, .bool delivery.defaultPrevented, .bool delivery.propagationStopped, .bool delivery.consumed]

-- A host delivers a press to a matcher. A press that is typed meanwhile has a delivery of its own.
def deliver (player : Player) (seat : Nat) (press : Press) : Act (Bool × Delivery) := do
  let outer := (← get).delivery
  modify fun world => { world with delivery := {} }
  let handled ← (onMatcher player seat (Matcher.handle press)).attempt
  let delivery := (← get).delivery
  modify fun world => { world with delivery := outer }
  return (← Action.ofExcept handled, delivery)

def callBack (player : Player) (callback : Callback) : Act Unit :=
  onMatcher player callback.seat (Matcher.expire callback.expiry)

def runPass (player : Player) (pass : Program (Timer.Schedule.surroundings Callback) (Timer.Schedule Callback) Nat) :
    Act Value := do
  let fired ← (pass (← get).schedule).drive World.schedule
    (fun schedule world => { world with schedule := schedule }) (callBack player)
  return .int fired

def fire (player : Player) (timer : Int) : Act Unit := do
  match (← get).hosted? timer with
  | none => throw .noSuchItem
  | some callback => callBack player callback

def terminalKey (player : Player) (seat : Nat) (name : String) (character : Option String)
    (focus : Option Terminal.Widget) : Act Bool := do
  let press := Terminal.press name character (focus.map Terminal.Widget.target)
  let (handled, _) ← deliver player seat press
  display (.log (Terminal.keyLine name handled ((← get).matcher seat).pendingDisplay))
  return handled

def keyValue (key : Key) : Value :=
  .list [.text key.name, .text (String.ofList key.mods.letters), .text key.edge]

def bindingsValue (bindings : OrderedMap String String) : Value :=
  .record (bindings.entries.map fun (source, command) => (source, .text command))

def infoOf (m : Matcher) : Value :=
  .list [keyValue m.keymap.leader, .int m.keymap.timeout, .int m.keymap.root.count, .text m.pendingDisplay]

def performWith (player : Player) : Step → Act Value
  | .key press => do
    let (handled, delivery) ← deliver player mainSeat press
    return replyValue handled delivery
  | .terminalKey name character focus => do
    if (← get).screen = .none then throw (.nothingAttached "handle_textual_key")
    return .bool (← terminalKey player mainSeat name character focus)
  | .advance delay => do
    let seconds ← Action.ofExcept delay.seconds
    modify fun world => { world with now := world.now + seconds }
    return .null
  | .process => do runPass player (Timer.Schedule.process (← get).now)
  | .force => runPass player Timer.Schedule.force
  | .fire timer => do
    fire player timer
    return .null
  | .reset | .close => do
    onMatcher player mainSeat Matcher.reset
    return .null
  | .reload config => do
    onMatcher player mainSeat (Matcher.reload (← Action.ofExcept config))
    return .null
  | .binding source => do return .ofText? (((← get).matcher mainSeat).binding? source)
  | .bindings => do return bindingsValue ((← get).matcher mainSeat).keymap.bindings
  | .info => do return infoOf ((← get).matcher mainSeat)
  | .emit event payload => do
    match ((← get).seat mainSeat).bus with
    | none => throw (.nothingAttached "emit")
    | some bus => emitOn player bus event payload
    return .null
  | .unregister command => do
    match (← get).registry with
    | none => throw (.nothingAttached "unregister")
    | some _ => runRegistry player (Registry.unregister command)
    return .null
  | .drain => do
    rounds player drainRounds
    return .null
  | .raise kind message => throw (.raised kind message)

def performTo : Nat → Player
  | 0 => fun _ => throw .nestedTooDeep
  | depth + 1 => performWith (performTo depth)

def nestingLimit : Nat := 200

-- What is seen of a session: the state of the matcher, the keys of the sequence so far, whether a timer is held, and
-- the number of timers that are polled.
def see (world : World) : Value :=
  let m := world.matcher mainSeat
  .list [.text m.stateName, .list (m.pendingKeys.map Value.text), .bool m.hasTimer,
    .int world.schedule.pending.length]

def stage (depth : Nat) : Stage World Step Value where
  perform := performTo depth
  takeLog world :=
    let (log, journal) := world.journal.take
    (log, { world with journal := journal })
  see := see

def registerAll (player : Player) : List Registration → Act Unit
  | [] => pure ()
  | r :: rest => do
    let info ← Action.ofExcept (CommandInfo.make r.id r.description r.category)
    runRegistry player (Registry.register info r.routine)
    registerAll player rest

-- Sets up what carries out commands. Nobody listens to a registry in a session without a bus.
def setUpExecutor (player : Player) (bus : Option Nat) : Executor → Act Unit
  | .scripted commands => modify fun world => { world with commands := commands }
  | .registry services registrations => do
    match bus with
    | some number => subscribeRecorders number Registry.eventNames
    | none => pure ()
    modify fun world => { world with registry := some { services := services }, registryBus := bus }
    registerAll player registrations

def subscribeHooks (bus : Nat) (first : Nat) : List Hook → Act Unit
  | [] => pure ()
  | hook :: rest => do
    subscribe bus hook.event (.hook first)
    subscribeHooks bus (first + 1) rest

-- Attaches a terminal to a matcher. A matcher without a bus gets one.
def attach (seat : Nat) (screen : Screen) : Act Unit := do
  let bus ← match ((← get).seat seat).bus with
    | some bus => pure bus
    | none => addBus
  modify fun world =>
    { world with screen := screen, seats := world.seats.modify seat fun s => { s with bus := some bus } }
  modify fun world => world.setBus bus (Terminal.attach .observer (world.bus bus))

def setUp (player : Player) (setup : Setup) : Act Unit := do
  let config ← match setup.config with
    | none => pure none
    | some config => some <$> Action.ofExcept config
  let bus ← if setup.hasBus then some <$> addBus else pure none
  match bus with
  | some bus => subscribeRecorders bus Matcher.eventNames
  | none => pure ()
  setUpExecutor player bus setup.executor
  modify fun world => { world with hooks := setup.hooks, seats := [⟨{}, bus⟩] }
  match bus with
  | some bus => subscribeHooks bus 0 setup.hooks
  | none => pure ()
  match config with
  | some config => onMatcher player mainSeat (Matcher.reload config)
  | none => pure ()
  if setup.adapter then attach mainSeat .hooks

def Setup.depth (setup : Setup) : Nat :=
  match setup.executor with
  | .scripted _ => setup.turns + 1
  | .registry .. => nestingLimit

-- The world in which a session is set up. Two rounds more than the work pauses see it to its end.
def Setup.world (journal : Journal) (setup : Setup) : World :=
  { journal := journal, clockwork := setup.clockwork, loop := if setup.loop then some {} else none,
    patience := setup.longestPause + 2 }

-- Plays a session: what is reported on its being set up, and on each step. If it cannot be set up, there is nothing to
-- report.
def play (journal : Journal) (setup : Setup) (steps : List Step) :
    Except Failure (Report Unit × List (Report Value)) :=
  let stage := stage setup.depth
  match setUp stage.perform setup (setup.world journal) with
  | (.error failure, _) => .error failure
  | (.ok _, world) =>
    let (log, world) := stage.takeLog world
    .ok (⟨.ok (), log, stage.see world⟩, stage.play steps world)

end Keychord.Scenario.Session
