import Keychord.Scenario.Session.Surroundings

namespace Keychord.Scenario.Session

inductive Progress
  | ended (outcome : Except Failure Unit)
  | paused (left : Nat) (rest : Rest)

def advanceRegistry (player : Player) : RegistryRun → Act Progress
  | .finished outcome registry => fun world => (.ok (.ended outcome), world.setRegistry registry)
  | .waiting (.await remainder) registry resume => fun world =>
    let world := world.setRegistry registry
    match remainder.1.pauses with
    | 0 =>
      let (outcome, world) := finishHandler player remainder world
      advanceRegistry player (resume outcome world.commandRegistry) world
    | pauses + 1 => (.ok (.paused (pauses + 1) (.handler remainder resume)), world)
  | .waiting (.telemetry op) registry resume => fun world =>
    let (outcome, world) := answerRegistry player (.telemetry op) (world.setRegistry registry)
    advanceRegistry player (resume outcome world.commandRegistry) world
  | .waiting (.publish event) registry resume => fun world =>
    let (outcome, world) := answerRegistry player (.publish event) (world.setRegistry registry)
    advanceRegistry player (resume outcome world.commandRegistry) world
  | .waiting (.invoke routine context) registry resume => fun world =>
    let (outcome, world) := answerRegistry player (.invoke routine context) (world.setRegistry registry)
    advanceRegistry player (resume outcome world.commandRegistry) world

def finishScripted (command : String) : Finish → Act Unit
  | .done => write (.list [.text "done", .text command])
  | .raise kind message => throw (.raised kind message)
  | .cancel => throw .cancelled

def endScripted (command : String) (finish : Finish) : Act Progress := do
  return .ended (← (finishScripted command finish).attempt)

def beginWork (player : Player) : Job → Act Progress
  | .scripted command 0 finish => endScripted command finish
  | .scripted command pauses finish => return .paused pauses (.scripted command finish)
  | .registry command => do
    advanceRegistry player (Registry.execute command [] (← get).commandRegistry)

def goOn (player : Player) : Rest → Act Progress
  | .scripted command finish => endScripted command finish
  | .handler remainder resume => do
    let outcome ← (finishHandler player remainder).attempt
    advanceRegistry player (resume outcome (← get).commandRegistry)

def cancelRest (player : Player) : Rest → Act Progress
  | .scripted .. => return .ended (.error .cancelled)
  | .handler _ resume => do advanceRegistry player (resume (.error .cancelled) (← get).commandRegistry)

-- Lets a piece of work have its turn. Work that has not begun is cancelled without beginning.
def takeStep (player : Player) (cancelled : Bool) : Work → Act Progress
  | .fresh job => if cancelled then return .ended (.error .cancelled) else beginWork player job
  | .paused left rest =>
    if cancelled then cancelRest player rest
    else if 1 < left then return .paused (left - 1) rest
    else goOn player rest

def enqueueWork (seat : Nat) (command : String) (job : Job) : Act Unit :=
  modify (World.enqueue (.step (.matcher seat command) (.fresh job) false))

def tellOwner (player : Player) (outcome : Except Failure Unit) : Owner → Act Unit
  | .runner => modify fun world =>
      { world with loop := world.loop.map fun loop => { loop with outcome := some outcome } }
  | .matcher seat command => runMatcher player enqueueWork seat (Matcher.settled command outcome)

def takeTurn (player : Player) : Turn → Act Unit
  | .ended owner outcome => do
    let _ ← (tellOwner player outcome owner).attempt
  | .step owner work cancelled => do
    match ← takeStep player cancelled work with
    | .ended outcome => modify (World.enqueue (.ended owner outcome))
    | .paused left rest => modify (World.enqueue (.step owner (.paused left rest) false))

def takeTurns (player : Player) : List Turn → Act Unit
  | [] => pure ()
  | turn :: rest => do
    takeTurn player turn
    takeTurns player rest

def changeLoop (change : Loop → Loop) : Act Unit :=
  modify fun world => { world with loop := world.loop.map change }

def round (player : Player) : Act Unit := do
  let queue := ((← get).loop.getD {}).queue
  changeLoop fun loop => { loop with queue := [] }
  takeTurns player queue

def rounds (player : Player) : Nat → Act Unit
  | 0 => pure ()
  | n + 1 => do
    round player
    rounds player n

def untilEnded (player : Player) : Nat → Act Unit
  | 0 => pure ()
  | n + 1 => do
    round player
    if (((← get).loop.getD {}).outcome).isNone then untilEnded player n

-- The rounds in which work that is cancelled ends: the work ends, its owners are told, and the loop is told to stop.
def cancelRounds : Nat := 3

-- The rounds in which the loop is closed. What is still queued gets its turn in them, if it comes to that.
def closeRounds : Nat := 4

def cancelWork (player : Player) : Act Unit := do
  if ((← get).loop.getD {}).queue.any Turn.isStep then
    changeLoop fun loop => { loop with queue := loop.queue.map Turn.cancel }
    rounds player cancelRounds

def runToEnd (player : Player) (job : Job) : Act Unit := do
  modify fun world => { world with loop := some { queue := [.step .runner (.fresh job) false] } }
  untilEnded player (← get).patience
  cancelWork player
  rounds player closeRounds
  let outcome := ((← get).loop.getD {}).outcome
  modify fun world => { world with loop := none }
  Action.ofExcept (outcome.getD (.ok ()))

def settle (player : Player) (seat : Nat) (command : String) (job : Job) : Act Unit := do
  match (← get).loop with
  | some _ => enqueueWork seat command job
  | none => runToEnd player job

def drainRounds : Nat := 50

end Keychord.Scenario.Session
