import Keychord.Proofs.Matcher.Upkeep
import Keychord.Timer

namespace Keychord.Matcher

structure Clocked where
  matcher : Matcher
  telemetry : Telemetry
  schedule : Timer.Schedule Expiry := {}

namespace Clocked

open Relation (ReflTransGen)

variable {Job α β : Type}

-- What is left to ask for: the time, and whatever is not for telemetry and the timers.
inductive Request (Job : Type)
  | clock
  | consume (press : Press)
  | publish (event : Event)
  | execute (command : String)
  | settle (command : String) (job : Job)

def Request.own? : Request Job → Option (Matcher.Request Job)
  | .clock => none
  | .consume press => some (.consume press)
  | .publish event => some (.publish event)
  | .execute command => some (.execute command)
  | .settle command job => some (.settle command job)

abbrev outside (Job : Type) : Interface where
  Request := Request Job
  Answer
    | .clock => Float
    | .execute _ => Option Job
    | _ => Unit

def armed (reading : Except Failure Float) (delay : Int) (expiry : Expiry) (schedule : Timer.Schedule Expiry) :
    Except Failure Nat × Timer.Schedule Expiry :=
  match reading with
  | .ok now =>
    let (timer, schedule) := Timer.Schedule.arm now (.whole delay) expiry schedule
    (timer.map (·.number), schedule)
  | .error f => (.error f, { schedule with made := schedule.made + 1 })

def run : Run (surroundings Job) Matcher α → Telemetry → Timer.Schedule Expiry → Run (outside Job) Clocked α
  | .finished outcome m, t, schedule => .finished outcome ⟨m, t, schedule⟩
  | .waiting (.telemetry op) m resume, t, schedule =>
    run (resume (Telemetry.perform op t).1 m) (Telemetry.perform op t).2 schedule
  | .waiting (.disarm timer) m resume, t, schedule => run (resume (.ok ()) m) t (schedule.disarm timer)
  | .waiting (.arm delay expiry) m resume, t, schedule =>
    .waiting .clock ⟨m, t, schedule⟩ fun reading s =>
      run (resume (armed reading delay expiry s.schedule).1 s.matcher) s.telemetry
        (armed reading delay expiry s.schedule).2
  | .waiting (.consume press) m resume, t, schedule =>
    .waiting (.consume press) ⟨m, t, schedule⟩ fun reply s => run (resume reply s.matcher) s.telemetry s.schedule
  | .waiting (.publish event) m resume, t, schedule =>
    .waiting (.publish event) ⟨m, t, schedule⟩ fun reply s => run (resume reply s.matcher) s.telemetry s.schedule
  | .waiting (.execute command) m resume, t, schedule =>
    .waiting (.execute command) ⟨m, t, schedule⟩ fun reply s => run (resume reply s.matcher) s.telemetry s.schedule
  | .waiting (.settle command job) m resume, t, schedule =>
    .waiting (.settle command job) ⟨m, t, schedule⟩ fun reply s => run (resume reply s.matcher) s.telemetry s.schedule

def step (program : Step Job α) : Program (outside Job) Clocked α := fun s =>
  run (program s.matcher) s.telemetry s.schedule

def passing : Run (Timer.Schedule.surroundings Expiry) (Timer.Schedule Expiry) α → Matcher → Telemetry →
    Run (outside Job) Clocked α
  | .finished outcome schedule, m, t => .finished outcome ⟨m, t, schedule⟩
  | .waiting expiry schedule resume, m, t =>
    (step (expire expiry) ⟨m, t, schedule⟩).andThen fun outcome s =>
      passing (resume outcome s.schedule) s.matcher s.telemetry

def pass (program : Program (Timer.Schedule.surroundings Expiry) (Timer.Schedule Expiry) α) :
    Program (outside Job) Clocked α := fun s =>
  passing (program s.schedule) s.matcher s.telemetry

inductive Call
  | operation (call : Matcher.Call)
  | process
  | force

inductive Answer
  | handled (answer : Option Bool)
  | fired (count : Nat)

def readClock : Program (outside Job) Clocked Float := Program.request (I := outside Job) .clock

def operate : Call → Program (outside Job) Clocked Answer
  | .operation call => do return .handled (← step call.step)
  | .process => do return .fired (← pass (Timer.Schedule.process (← readClock)))
  | .force => do return .fired (← pass Timer.Schedule.force)

abbrev Past (Job : Type) := History (outside Job) Clocked Call Answer
abbrev Host (Job : Type) := Conduct (outside Job) Clocked Call Answer
abbrev Pledge (Job : Type) := Contract (outside Job) Clocked Call Answer
abbrev Working (Job : Type) := Machine (outside Job) Clocked Call Answer

def fresh (Job : Type) (env : Environment) : Working Job := ⟨⟨{}, { environment := env }, {}⟩, [], []⟩

theorem run_andThen (r : Run (Matcher.surroundings Job) Matcher α) (next : Except Failure α → Step Job β) (t : Telemetry)
    (schedule : Timer.Schedule Expiry) :
    run (r.andThen next) t schedule = (run r t schedule).andThen fun outcome => step (next outcome) := by
  induction r generalizing t schedule with
  | finished outcome m => rfl
  | waiting request m resume ih =>
    cases request with
    | telemetry op => exact ih _ _ _ _
    | disarm timer => exact ih _ _ _ _
    | arm delay expiry =>
      exact congrArg (Run.waiting Request.clock _) (funext fun reading => funext fun s => ih _ _ _ _)
    | consume press =>
      exact congrArg (Run.waiting (Request.consume press) _) (funext fun reply => funext fun s => ih _ _ _ _)
    | publish event =>
      exact congrArg (Run.waiting (Request.publish event) _) (funext fun reply => funext fun s => ih _ _ _ _)
    | execute command =>
      exact congrArg (Run.waiting (Request.execute command) _) (funext fun reply => funext fun s => ih _ _ _ _)
    | settle command job =>
      exact congrArg (Run.waiting (Request.settle command job) _) (funext fun reply => funext fun s => ih _ _ _ _)

variable {H : Host Job} {K : Pledge Job} {c : Call} {s : Clocked} {h : Past Job}

def Ensures (H : Host Job) (K : Pledge Job) (c : Call) (step : Step Job α)
    (Q : Except Failure α → Clocked → Past Job → Prop) (s : Clocked) (h : Past Job) : Prop :=
  (Clocked.step step s).Meets H K c Q h

theorem Ensures.mono {step : Step Job α} {Q Q' : Except Failure α → Clocked → Past Job → Prop}
    (e : Ensures H K c step Q s h) (hq : ∀ outcome s h, Q outcome s h → Q' outcome s h) :
    Ensures H K c step Q' s h :=
  Run.Meets.mono e hq

def Then (H : Host Job) (K : Pledge Job) (c : Call) (next : α → Step Job β)
    (Q : Except Failure β → Clocked → Past Job → Prop) : Except Failure α → Clocked → Past Job → Prop
  | .ok a => Ensures H K c (next a) Q
  | .error f => Q (.error f)

section Steps

variable {Q : Except Failure α → Clocked → Past Job → Prop}

theorem ensures_andThen {step : Step Job α} {next : Except Failure α → Step Job β}
    {Q : Except Failure β → Clocked → Past Job → Prop} :
    Ensures H K c (fun m => (step m).andThen next) Q s h ↔
      Ensures H K c step (fun outcome s h => Ensures H K c (next outcome) Q s h) s h :=
  (iff_of_eq (congrArg (Run.Meets H K c Q · h) (run_andThen (step s.matcher) next s.telemetry s.schedule))).trans
    Run.meets_andThen

theorem ensures_bind {first : Step Job α} {next : α → Step Job β}
    {Q : Except Failure β → Clocked → Past Job → Prop} :
    Ensures H K c (first >>= next) Q s h ↔ Ensures H K c first (Then H K c next Q) s h := by
  refine ensures_andThen.trans (iff_of_eq (congrArg (Ensures H K c first · s h) (funext fun outcome => ?_)))
  cases outcome <;> rfl

theorem ensures_get_bind {next : Matcher → Step Job α} :
    Ensures H K c (get >>= next) Q s h ↔ Ensures H K c (next s.matcher) Q s h := Iff.rfl

theorem ensures_modify_bind {f : Matcher → Matcher} {next : PUnit → Step Job α} :
    Ensures H K c (modify f >>= next) Q s h ↔ Ensures H K c (next ()) Q { s with matcher := f s.matcher } h := Iff.rfl

theorem ensures_tryCatch {step : Step Job α} {handler : Failure → Step Job α}
    (hs : Ensures H K c step (fun outcome s h =>
      (∀ a, outcome = .ok a → Q (.ok a) s h) ∧ ∀ f, outcome = .error f → Ensures H K c (handler f) Q s h) s h) :
    Ensures H K c (tryCatchThe Failure step handler) Q s h := by
  refine ensures_andThen.mpr (hs.mono fun outcome s h ⟨done, handled⟩ => ?_)
  cases outcome with
  | ok a => exact done a rfl
  | error f => exact handled f rfl

theorem ensures_attempt {step : Step Job α} {Q : Except Failure (Except Failure α) → Clocked → Past Job → Prop} :
    Ensures H K c step.attempt Q s h ↔ Ensures H K c step (fun outcome s h => Q (.ok outcome) s h) s h :=
  ensures_andThen

theorem ensures_telemetry {op : Telemetry.Op} {Q : Except Failure op.Answer → Clocked → Past Job → Prop}
    (hq : ∀ outcome t, Telemetry.perform op s.telemetry = (outcome, t) → s.telemetry.Advances t →
      Q outcome { s with telemetry := t } h) : Ensures H K c (askTelemetry op) Q s h :=
  hq _ _ rfl (Telemetry.perform_moves op s.telemetry)

theorem ensures_ite {p : Prop} [Decidable p] {first second : Step Job α} (hf : p → Ensures H K c first Q s h)
    (hs : ¬p → Ensures H K c second Q s h) : Ensures H K c (if p then first else second) Q s h := by
  by_cases hp : p
  · rw [if_pos hp]; exact hf hp
  · rw [if_neg hp]; exact hs hp

theorem ensures_arm {delay : Int} {expiry : Expiry} {Q : Except Failure Nat → Clocked → Past Job → Prop} :
    Ensures H K c (ask (.arm delay expiry)) Q s h ↔ K.handOver c .clock s (.asked .clock s :: h) ∧
      ∀ reading s' h', H.answers .clock reading → H.Meanwhile K.inv c .clock s (.asked .clock s :: h) s' h' →
        Q (armed reading delay expiry s'.schedule).1 { s' with schedule := (armed reading delay expiry s'.schedule).2 }
          (.answered .clock reading :: h') := Iff.rfl

end Steps

end Clocked

end Keychord.Matcher
