import Keychord.Program

namespace Keychord.Scenario

structure Report (ρ : Type) where
  result : Except Failure ρ
  log : List Value
  seen : Value

structure Stage (ω step ρ : Type) where
  perform : step → Action ω ρ
  takeLog : ω → List Value × ω
  see : ω → Value

namespace Stage

variable {ω step ρ : Type}

def report (stage : Stage ω step ρ) (action : Action ω ρ) (world : ω) : Report ρ × ω :=
  let (result, world) := action world
  let (log, world) := stage.takeLog world
  (⟨result, log, stage.see world⟩, world)

def play (stage : Stage ω step ρ) : List step → ω → List (Report ρ)
  | [], _ => []
  | s :: rest, world =>
    let (report, world) := stage.report (stage.perform s) world
    report :: play stage rest world

end Stage

end Keychord.Scenario
