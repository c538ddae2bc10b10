import Keychord.OrderedMap
import Keychord.Telemetry.Span

namespace Keychord

structure CommandInfo where
  id : String
  description : String := ""
  category : String := "general"
  deriving DecidableEq, Repr

def CommandInfo.make (id description category : String) : Except Failure CommandInfo :=
  if id = "" then .error .emptyCommandId else .ok ⟨id, description, category⟩

structure CommandContext where
  command : String
  arguments : List (Scalar × Value)
  services : List (Scalar × Value)

structure Registry.Entry (η : Type) where
  info : CommandInfo
  handler : η

-- The commands in the order in which their ids came, and the services for their handlers.
structure Registry (η : Type) where
  commands : OrderedMap String (Registry.Entry η) := .empty
  services : List (Scalar × Value) := []

namespace Registry

inductive Event
  | registered (command : String)
  | unregistered (command : String)
  | before (command : String) (arguments : List (Scalar × Value))
  | succeeded (command : String)
  | failed (command : String) (failure : Failure)

def Event.name : Event → String
  | registered _ => "command:registered"
  | unregistered _ => "command:unregistered"
  | before .. => "command:beforeExecute"
  | succeeded _ | failed .. => "command:afterExecute"

def Event.payload : Event → Value
  | registered command | unregistered command => .record [("command_id", .text command)]
  | before command arguments => .record [("command_id", .text command), ("args", .map arguments)]
  | succeeded command => .record [("command_id", .text command), ("success", .bool true)]
  | failed command failure =>
    .record [("command_id", .text command), ("success", .bool false), ("error", failure.toValue)]

def eventNames : List String :=
  ["command:registered", "command:unregistered", "command:beforeExecute", "command:afterExecute"]

-- What a registry asks of its surroundings. `η` are handlers and `Job` is work that has to be awaited.
inductive Request (η Job : Type)
  | telemetry (op : Telemetry.Op)
  | publish (event : Event)
  | invoke (handler : η) (context : CommandContext)
  | await (job : Job)

def surroundings (η Job : Type) : Interface where
  Request := Request η Job
  Answer
    | .telemetry op => op.Answer
    | .invoke .. => Option Job
    | _ => Unit

abbrev Step (η Job α : Type) : Type := Program (surroundings η Job) (Registry η) α

variable {η Job : Type}

def ask (r : Request η Job) : Step η Job ((surroundings η Job).Answer r) :=
  Program.request (I := surroundings η Job) r

def askTelemetry (op : Telemetry.Op) : Step η Job op.Answer := ask (.telemetry op)

def has (registry : Registry η) (command : String) : Bool := registry.commands.contains command

def info? (registry : Registry η) (command : String) : Option CommandInfo :=
  (registry.commands.get? command).map Entry.info

def all (registry : Registry η) : List CommandInfo := registry.commands.values.map Entry.info

-- Adds a command or replaces it. What is not a handler is refused.
def register (info : CommandInfo) (handler : Option η) : Step η Job Unit := do
  match handler with
  | none => throw .notCallable
  | some handler =>
    if (← get).has info.id then
      askTelemetry (.record "command.overwrite" "warning" [("command_id", .text info.id)])
    modify fun registry => { registry with commands := registry.commands.insert info.id ⟨info, handler⟩ }
    ask (.publish (.registered info.id))

def unregister (command : String) : Step η Job Unit := do
  if (← get).has command then
    modify fun registry => { registry with commands := registry.commands.erase command }
    ask (.publish (.unregistered command))

def invoke (handler : η) (context : CommandContext) : Step η Job Unit := do
  let outcome ← Program.attempt do
    match ← ask (.invoke handler context) with
    | none => pure ()
    | some job => (ask (.await job) : Step η Job Unit)
  match outcome with
  | .ok _ => pure ()
  | .error failure =>
    if !failure.isCancellation then ask (.publish (.failed context.command failure))
    throw failure

def executeSpan (command : String) : Telemetry.SpanRequest :=
  { name := "command::" ++ command, component := some "commands",
    metadata := ⟨[(.text "command_id", .text command)]⟩ }

def execute (command : String) (arguments : List (Scalar × Value)) : Step η Job Unit := do
  match (← get).commands.get? command with
  | none => askTelemetry (.record "command.not_found" "warning" [("command_id", .text command)])
  | some entry =>
    ask (.publish (.before command arguments))
    Telemetry.around askTelemetry (executeSpan command)
      (invoke entry.handler ⟨command, arguments, (← get).services⟩)
    ask (.publish (.succeeded command))

end Registry

end Keychord
