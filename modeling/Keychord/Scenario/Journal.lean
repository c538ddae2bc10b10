import Keychord.Telemetry.Span

namespace Keychord.Scenario

structure Journal where
  telemetry : Telemetry := {}
  traced : Bool := false
  entries : List Value := []

namespace Journal

def start (env : Environment) (traced : Bool) : Journal := ⟨{ environment := env }, traced, []⟩

def write (journal : Journal) (entry : Value) : Journal := { journal with entries := journal.entries ++ [entry] }

def absorb (journal : Journal) : Journal :=
  { journal with
    telemetry := { journal.telemetry with calls := [] }
    entries := journal.entries ++ if journal.traced then journal.telemetry.calls.map Telemetry.Call.toValue else [] }

def onTelemetry {α : Type} (action : Action Telemetry α) : Action Journal α := fun journal =>
  let (outcome, telemetry) := action journal.telemetry
  (outcome, { journal with telemetry := telemetry }.absorb)

def take (journal : Journal) : List Value × Journal := (journal.entries, { journal with entries := [] })

end Journal

end Keychord.Scenario
