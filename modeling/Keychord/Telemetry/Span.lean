import Keychord.Telemetry.Basic

namespace Keychord.Telemetry

structure SpanRequest where
  name : String
  component : Option String := none
  metadata : OrderedMap Scalar Value := .empty
  logger : Option String := none

-- An open span. The context keys are those that were set when it was opened; the metadata may have grown since.
structure Span where
  logger : Logger
  name : String
  component : Option String
  contextKeys : List Scalar
  metadata : OrderedMap Scalar String

namespace Span

-- The component that is tracked. An empty name names none.
def tracked? (span : Span) : Option String := span.component.filter (· ≠ "")

def annotate (span : Span) (key : Scalar) (value : Value) : Except Failure Span := do
  let shown ← textOf value
  return { span with metadata := span.metadata.insert key shown }

def fields (span : Span) (extra : OrderedMap Scalar Value) : OrderedMap Scalar Value :=
  let named : OrderedMap Scalar Value := .ofList [(.text "span", .text span.name)]
  let described := named.update (span.metadata.mapValues Value.text)
  let placed := match span.tracked? with
    | some component => described.insert (.text "component") (.text component)
    | none => described
  placed.update extra

def fail (span : Span) (reason : Value) : Action Telemetry Unit := do
  let shown ← Action.ofExcept (textOf reason)
  emit span.logger (.text "error") "span::fail" (span.fields (.ofList [(.text "reason", .text shown)]))

end Span

def pushContext (logger : Logger) : List (Scalar × Value) → Action Telemetry (List (Scalar × String))
  | [] => pure []
  | (key, value) :: rest => do
    let shown ← Action.ofExcept (textOf value)
    call (.addContext logger key shown)
    let others ← pushContext logger rest
    return (key, shown) :: others

def enter (span : Span) : Action Telemetry Span := do
  match span.tracked? with
  | some component => call (.enter span.logger .component component)
  | none => pure ()
  call (.enter span.logger .profile span.name)
  return span

def openSpan (wanted : SpanRequest) : Action Telemetry Span := do
  let logger ← getLogger wanted.logger
  let metadata ← pushContext logger wanted.metadata.entries
  enter ⟨logger, wanted.name, wanted.component, wanted.metadata.keys, ⟨metadata⟩⟩

def popContext (logger : Logger) : List Scalar → Action Telemetry Unit
  | [] => pure ()
  | key :: rest => do
    call (.removeContext logger key)
    popContext logger rest

def leave (span : Span) (sort : Option String) : Action Telemetry Unit := do
  popContext span.logger span.contextKeys
  call (.leave span.logger .profile span.name sort)
  match span.tracked? with
  | some component => call (.leave span.logger .component component sort)
  | none => pure ()

def Span.report (span : Span) (failure : Failure) : Action Telemetry Unit :=
  if failure.isCancellation then pure () else span.fail (.text failure.message)

-- Closes a span that is left with a failure or without one. If the failure cannot be reported, the span is left with the
-- failure to report it.
def closeSpan (span : Span) : Option Failure → Action Telemetry Unit
  | none => leave span none
  | some failure => do
    let reported ← (span.report failure).attempt
    let left := match reported with
      | .ok _ => failure
      | .error other => other
    leave span (some left.kind)
    Action.ofExcept reported

inductive Op
  | record (name level : String) (data : List (String × Value))
  | openSpan (wanted : SpanRequest)
  | closeSpan (span : Span) (failure : Option Failure)

def Op.Answer : Op → Type
  | openSpan _ => Span
  | _ => Unit

def perform : (op : Op) → Action Telemetry op.Answer
  | .record name level data =>
    Telemetry.record name (.text level) ⟨data.map fun (key, value) => (.text key, value)⟩ none
  | .openSpan wanted => Telemetry.openSpan wanted
  | .closeSpan span failure => Telemetry.closeSpan span failure

def around {m : Type → Type} [Monad m] [MonadExceptOf Failure m] {α : Type} (ask : (op : Op) → m op.Answer)
    (wanted : SpanRequest) (block : m α) : m α := do
  let span : Span ← ask (.openSpan wanted)
  let result ← tryCatchThe Failure block fun failure => do
    let _ ← ask (.closeSpan span (some failure))
    throwThe Failure failure
  let _ ← ask (.closeSpan span none)
  return result

end Keychord.Telemetry
