import Keychord.Scenario.Session.Display

namespace Keychord.Scenario.Session

abbrev Player : Type := Step → Act Value

def takeHookSteps (index : Nat) : Act (List Step) := do
  match (← get).hooks[index]? with
  | some ⟨event, steps, times + 1⟩ =>
    modify fun world => { world with hooks := world.hooks.set index ⟨event, steps, times⟩ }
    return steps
  | _ => return []

def notify (player : Player) (payload : Value) : Subscriber → Act Unit
  | .recorder event => write (eventEntry event payload)
  | .hook index => do playNested write player (← takeHookSteps index)
  | .observer observer => observer.respond display payload
  | .commandLog => logCommand payload

def answerBus (player : Player) :
    (request : Bus.Request Subscriber) → Act ((Bus.surroundings Subscriber).Answer request)
  | .call subscriber payload => notify player payload subscriber
  | .telemetry op => onTelemetry (Telemetry.perform op)

def emitOn (player : Player) (bus : Nat) (event : String) (payload : Value) : Act Unit := do
  (Bus.emit event payload ((← get).bus bus)).drive (fun world => world.bus bus) (World.setBus bus) (answerBus player)

def emitIfAny (player : Player) (bus : Option Nat) (event : String) (payload : Value) : Act Unit :=
  match bus with
  | none => pure ()
  | some bus => emitOn player bus event payload

-- Arms a timer. A host is told how long to wait in its own unit; it numbers its timers from zero.
def arm (seat : Nat) (delay : Int) (expiry : Matcher.Expiry) : Act Nat := do
  let callback : Callback := ⟨seat, expiry⟩
  match (← get).clockwork with
  | .polled =>
    let timer ← (Timer.Schedule.arm (← get).now (.whole delay) callback).onPart World.schedule
      fun schedule world => { world with schedule := schedule }
    return timer.number
  | .hostMillis => onHost callback "call_later" (.int delay)
  | .hostWidget => inSeconds callback "set_timer"
  | .hostLoop => inSeconds callback "call_later"
where
  onHost (callback : Callback) (method : String) (delay : Value) : Act Nat := do
    let number := (← get).hosted.length
    write (.list [.text "timer", .text method, .int number, delay])
    modify fun world => { world with hosted := world.hosted ++ [callback] }
    return number
  inSeconds (callback : Callback) (method : String) : Act Nat := do
    let seconds ← Action.ofExcept (Timer.Delay.whole delay).seconds
    onHost callback method (.scalar (.double seconds))

-- Gives up a timer. A host is told, but calls back all the same if it is made to.
def disarm (timer : Nat) : Act Unit := do
  match (← get).clockwork with
  | .polled => modify fun world => { world with schedule := world.schedule.disarm timer }
  | .hostWidget => write (.list [.text "timer", .text "stop", .int timer])
  | _ => write (.list [.text "timer", .text "cancel", .int timer])

def executeScripted (player : Player) (command : String) : Act (Option Job) := do
  write (.list [.text "exec", .text command])
  match ((← get).commands.get? command).getD .nothing with
  | .raise kind message => throw (.raised kind message)
  | .leave pauses finish => return some (.scripted command pauses finish)
  | .play _ 0 => return none
  | .play steps (times + 1) =>
    modify fun world => { world with commands := world.commands.insert command (.play steps times) }
    playNested write player steps
    return none

-- Carries out a command. The registry leaves all its work to be awaited.
def execute (player : Player) (command : String) : Act (Option Job) := do
  match (← get).registry with
  | none => executeScripted player command
  | some _ => return some (.registry command)

def answerMatcher (player : Player) (settle : Nat → String → Job → Act Unit) (seat : Nat) :
    (request : Matcher.Request Job) → Act ((Matcher.surroundings Job).Answer request)
  | .telemetry op => onTelemetry (Telemetry.perform op)
  | .consume _ => modify fun world => { world with delivery := world.delivery.consume }
  | .arm delay expiry => arm seat delay expiry
  | .disarm timer => disarm timer
  | .publish event => do emitIfAny player ((← get).seat seat).bus event.name event.payload
  | .execute command => execute player command
  | .settle command job => settle seat command job

def runMatcher {α : Type} (player : Player) (settle : Nat → String → Job → Act Unit) (seat : Nat)
    (step : Matcher.Step Job α) : Act α := do
  (step ((← get).matcher seat)).drive (fun world => world.matcher seat) (World.setMatcher seat)
    (answerMatcher player settle seat)

def callHandler (player : Player) (routine : Routine) (context : CommandContext) : Act (Option Remainder) := do
  match routine with
  | none => return none
  | some handler =>
    write (callEntry context)
    if handler.awaited then return some (handler, context.command)
    handler.body write player
    return none

def finishHandler (player : Player) (remainder : Remainder) : Act Unit := do
  remainder.1.body write player
  write (resumedEntry remainder.2)

def answerRegistry (player : Player) : (request : RegistrySide.Request) → Act (RegistrySide.Answer request)
  | .telemetry op => onTelemetry (Telemetry.perform op)
  | .publish event => do emitIfAny player (← get).registryBus event.name event.payload
  | .invoke routine context => callHandler player routine context
  | .await remainder => finishHandler player remainder

def runRegistry {α : Type} (player : Player) (step : Registry.Step Routine Remainder α) : Act α := do
  (step (← get).commandRegistry).drive World.commandRegistry World.setRegistry (answerRegistry player)

end Keychord.Scenario.Session
