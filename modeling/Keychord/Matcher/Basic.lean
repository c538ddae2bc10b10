import Keychord.Config.Basic
import Keychord.Key.Press
import Keychord.Keymap.Traced
import Keychord.Matcher.Event
import Keychord.Notation.Writing

namespace Keychord

inductive Matcher.Action
  | dispatch (command : String)
  | abandon
  deriving DecidableEq, Repr

-- A callback that was handed to the timers: what to do, and the generation of timers it belongs to. Callbacks of
-- earlier generations have no effect.
structure Matcher.Expiry where
  generation : Nat
  action : Matcher.Action
  deriving DecidableEq, Repr

-- A matcher: the keymap, the edges that lead to the node where it is, the keys of the sequence so far, the timer that
-- is held, and the generation of timers.
structure Matcher where
  keymap : Keymap := .empty
  path : List Edge := []
  typed : List Key := []
  timer : Option Nat := none
  generation : Nat := 0

namespace Matcher

def isIdle (m : Matcher) : Bool := m.path.isEmpty

def stateName (m : Matcher) : String := if m.isIdle then "idle" else "pending"

def pendingKeys (m : Matcher) : List String := m.typed.map Notation.writeKey

def pendingDisplay (m : Matcher) : String := Notation.write m.typed

def hasTimer (m : Matcher) : Bool := m.timer.isSome

def binding? (m : Matcher) (source : String) : Option String := m.keymap.bindings.get? source

-- What a matcher asks of its surroundings. `Job` is work that a command leaves to be awaited. A host that is asked to
-- consume a press neither acts on it nor hands it on.
inductive Request (Job : Type)
  | telemetry (op : Telemetry.Op)
  | consume (press : Press)
  | arm (delay : Int) (expiry : Expiry)
  | disarm (timer : Nat)
  | publish (event : Event)
  | execute (command : String)
  | settle (command : String) (job : Job)

abbrev surroundings (Job : Type) : Interface where
  Request := Request Job
  Answer
    | .telemetry op => op.Answer
    | .arm .. => Nat
    | .execute _ => Option Job
    | _ => Unit

abbrev Step (Job α : Type) : Type := Program (surroundings Job) Matcher α

variable {Job : Type}

def ask (r : Request Job) : Step Job ((surroundings Job).Answer r) := Program.request (I := surroundings Job) r

def askTelemetry (op : Telemetry.Op) : Step Job op.Answer := ask (.telemetry op)

def cancelTimer : Step Job Unit := do
  modify fun m => { m with generation := m.generation + 1 }
  match (← get).timer with
  | none => pure ()
  | some timer =>
    modify fun m => { m with timer := none }
    ask (.disarm timer)

def startTimer (action : Action) : Step Job Unit := do
  cancelTimer
  let m ← get
  let timer : Nat ← ask (.arm m.keymap.timeout ⟨m.generation, action⟩)
  modify fun m => { m with timer := some timer }

def clear : Step Job Unit := do
  cancelTimer
  modify fun m => { m with path := [], typed := [] }

def reset : Step Job Unit := do
  let hadKeys := !(← get).typed.isEmpty
  clear
  if hadKeys then ask (.publish .reset)

def reportFailure (command : String) (failure : Failure) : Step Job Unit := do
  askTelemetry <| .record "keys.dispatch_failed" "error"
    [("command_id", .text command), ("error", .text failure.shown)]
  ask (.publish (.failed command failure))

-- Reports the failure of a step of a command, if there is one. A cancellation is passed on.
def reportIfFailed {α : Type} (command : String) (step : Step Job α) : Step Job (Option α) := do
  match ← step.attempt with
  | .ok a => return some a
  | .error failure =>
    if failure.isCancellation then throw failure
    reportFailure command failure
    return none

def dispatch (command : String) : Step Job Unit := do
  let keys := (← get).pendingDisplay
  clear
  askTelemetry (.record "keys.dispatch" "info" [("command_id", .text command), ("keys", .text keys)])
  ask (.publish (.dispatch command keys))
  let work : Option (Option Job) ← reportIfFailed command (ask (.execute command))
  match work with
  | some (some job) =>
    let _ ← reportIfFailed command (ask (.settle command job))
  | _ => pure ()

def abandon : Step Job Unit := do
  askTelemetry (.record "keys.abandoned" "debug" [("keys", .text (← get).pendingDisplay)])
  reset

def expire (expiry : Expiry) : Step Job Unit := do
  let m ← get
  if expiry.generation = m.generation && m.hasTimer then
    modify fun m => { m with timer := none }
    match expiry.action with
    | .dispatch command => dispatch command
    | .abandon => abandon

def settled (command : String) (outcome : Except Failure Unit) : Step Job Unit := do
  match outcome with
  | .ok _ => pure ()
  | .error failure => if !failure.isCancellation then reportFailure command failure

def arrive (node : Keymap.Node) : Step Job Unit := do
  match node.command, node.isLeaf with
  | some command, true => dispatch command
  | command, _ =>
    startTimer (command.elim .abandon .dispatch)
    ask (.publish (.pending (← get).pendingDisplay command node.nextEdges))

def followOr (press : Press) (key : Key) (otherwise : Step Job Bool) : Step Job Bool := do
  let m ← get
  let path := m.path ++ [key.edge]
  match m.keymap.root.find? path with
  | some node =>
    cancelTimer
    ask (.consume press)
    modify fun m => { m with path := path, typed := m.typed ++ [key] }
    arrive node
    return true
  | none =>
    if m.isIdle then return false
    reset
    otherwise

-- Follows the key of a press. A key that ends a sequence is tried once more from the start.
def follow (press : Press) (key : Key) : Step Job Bool := followOr press key (followOr press key (pure false))

def keySpan (m : Matcher) (key : Key) : Telemetry.SpanRequest :=
  { name := "keys::handle_key_down", component := some "matcher",
    metadata := ⟨[(.text "edge", .text key.edge), (.text "state", .text m.stateName)]⟩ }

def handle (press : Press) : Step Job Bool := do
  if press.isFiltered then return false
  match press.toKey? with
  | none => return false
  | some key => Telemetry.around askTelemetry (keySpan (← get) key) (follow press key)

-- Changes to the keymap of another configuration. If there is none, nothing changes.
def reload (config : Config) : Step Job Unit := do
  let keymap ← Keymap.compileTraced askTelemetry (.text config.leader) config.timeout config.bindings
  reset
  modify fun m => { m with keymap := keymap, path := [] }
  askTelemetry <| .record "keys.compiled" "info"
    [("bindings", .int keymap.bindings.size), ("timeout_ms", .int keymap.timeout)]

end Matcher

end Keychord
