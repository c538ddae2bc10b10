import Keychord.Scenario.Report
import Keychord.Telemetry.Span

namespace Keychord.Scenario.Logging

open Keychord.Telemetry

-- One step. Data is added to the innermost open span, or to one so many spans further out, and so are failures noted.
inductive Step
  | configure (fresh : Bool) (preset : Option String)
  | read (name : String) (unset : Value)
  | readFlag (name : String) (unset : Value)
  | getLogger (name : Option String)
  | record (name : String) (level : Value) (data : OrderedMap Scalar Value) (logger : Option String)
  | span (wanted : SpanRequest) (body : List Step)
  | annotate (key : Scalar) (value : Value)
  | fail (reason : Value)
  | raise (kind message : String)
  | cancel
  | annotateOuter (outward : Nat) (key : Scalar) (value : Value)
  | failOuter (outward : Nat) (reason : Value)
  deriving Inhabited

inductive Result
  | value (v : Value)
  | span (s : Span)

structure World where
  telemetry : Telemetry
  spans : List Span := []

def onTelemetry {α : Type} (action : Action Telemetry α) : Action World α :=
  action.onPart World.telemetry fun telemetry world => { world with telemetry := telemetry }

def openSpan? (outward : Nat) : Action World Span := do
  match (← get).spans[outward]? with
  | none => throw .noSuchItem
  | some span => return span

def annotate (outward : Nat) (key : Scalar) (value : Value) : Action World Unit := do
  let span ← Action.ofExcept ((← openSpan? outward).annotate key value)
  modify fun world => { world with spans := world.spans.set outward span }

def fail (outward : Nat) (reason : Value) : Action World Unit := do
  onTelemetry ((← openSpan? outward).fail reason)

def leaveSpan (opened : Span) : Action World Span := do
  match (← get).spans with
  | [] => return opened
  | span :: outer =>
    modify fun world => { world with spans := outer }
    return span

mutual

def perform : Step → Action World Result
  | .configure fresh preset => do
    onTelemetry (configure (if fresh then some [] else none) preset)
    return .value .null
  | .read name unset => do
    return .value ((((← get).telemetry.environment.read? name).map Value.text).getD unset)
  | .readFlag name unset => do
    let env := (← get).telemetry.environment
    return .value (if (env.read? name).isSome then .bool (env.flag name false) else unset)
  | .getLogger name => do
    return .value (.text (← onTelemetry (getLogger name)).name)
  | .record name level data logger => do
    onTelemetry (Telemetry.record name level data logger)
    return .value .null
  | .span wanted body => do
    let opened ← onTelemetry (openSpan wanted)
    modify fun world => { world with spans := opened :: world.spans }
    let outcome ← Action.attempt (performAll body)
    let span ← leaveSpan opened
    match outcome with
    | .ok _ =>
      onTelemetry (closeSpan span none)
      return .span span
    | .error failure =>
      onTelemetry (closeSpan span (some failure))
      throw failure
  | .annotate key value => do
    annotate 0 key value
    return .value .null
  | .annotateOuter outward key value => do
    annotate outward key value
    return .value .null
  | .fail reason => do
    fail 0 reason
    return .value .null
  | .failOuter outward reason => do
    fail outward reason
    return .value .null
  | .raise kind message => throw (.raised kind message)
  | .cancel => throw .cancelled

def performAll : List Step → Action World Unit
  | [] => pure ()
  | step :: rest => do
    let _ ← perform step
    performAll rest

end

def stage : Stage World Step Result where
  perform := perform
  takeLog world :=
    (world.telemetry.calls.map Call.toValue, { world with telemetry := { world.telemetry with calls := [] } })
  see _ := .null

def play (env : Environment) (steps : List Step) : List (Report Result) :=
  stage.play steps { telemetry := { environment := env } }

end Keychord.Scenario.Logging
