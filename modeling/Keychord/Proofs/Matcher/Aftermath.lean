import Keychord.Proofs.Lockstep
import Keychord.Proofs.Matcher.Work

namespace Keychord.Matcher

variable {Job α β : Type}

def Request.IsAftermath : Request Job → Prop
  | .settle .. | .publish (.failed ..) => True
  | _ => False

def reporting (calls : Call → Past Job → Prop) : Aside (surroundings Job) Logged Call (Option Bool) where
  calls := calls
  changes s t := t.matcher = s.matcher ∧ s.telemetry.Advances t.telemetry
  requests := Request.IsAftermath

variable {calls : Call → Past Job → Prop}

theorem reporting_trans (s t u : Logged) (h : (reporting calls).changes s t) (h' : (reporting calls).changes t u) :
    (reporting calls).changes s u :=
  ⟨h'.left.trans h.left, .trans _ _ _ h.right h'.right⟩

theorem reporting_arms (request : Request Job) (asks : (reporting calls).requests request) (delay : Int) (e : Expiry) :
    request ≠ .arm delay e := by
  rintro rfl
  exact asks

abbrev Resume (Job α : Type) (request : Request Job) : Type :=
  Except Failure ((surroundings Job).Answer request) → Logged → Run (surroundings Job) Logged α

abbrev Mark (Job : Type) := (α : Type) → (request : Request Job) → Resume Job α request → Prop

def Throughout (V : Mark Job) (step : Step Job α) : Prop := ∀ s, (Logged.step step s).Each (V α)

def Reports (calls : Call → Past Job → Prop) (step : Step Job α) : Prop :=
  ∀ s, (Logged.step step s).Still (reporting calls) s

structure Closed (X : (α : Type) → Step Job α → Prop) : Prop where
  returns   : ∀ {α : Type} (a : α), X α (pure a)
  throws    : ∀ {α : Type} (f : Failure), X α (throw f)
  telemetry : ∀ op : Telemetry.Op, X op.Answer (askTelemetry op)
  andThen   : ∀ {α β : Type} {first : Step Job α} {next : Except Failure α → Step Job β}, X α first →
    (∀ outcome, X β (next outcome)) → X β fun m => (first m).andThen next

theorem holds_ite {X : Step Job α → Prop} {p : Prop} [Decidable p] {first second : Step Job α}
    (hf : X first) (hs : X second) :
    X (if p then first else second) := by
  split <;> assumption

def reported (command : String) : Except Failure α → Step Job (Option α)
  | .ok a => return some a
  | .error f => do
    if f.isCancellation then throw f
    reportFailure command f
    return none

theorem attempt_bind (first : Step Job α) (next : Except Failure α → Step Job β) :
    first.attempt >>= next = fun m => (first m).andThen next :=
  funext fun m => Run.andThen_andThen _ _ (first m)

theorem reportIfFailed_eq (command : String) (step : Step Job α) :
    reportIfFailed command step = fun m => (step m).andThen (reported command) := by
  have same : reportIfFailed command step = step.attempt >>= reported command := by
    refine congrArg (step.attempt >>= ·) (funext fun outcome => ?_)
    cases outcome <;> rfl
  rw [same, attempt_bind]

def ifOk (next : α → Step Job β) : Except Failure α → Step Job β
  | .ok a => next a
  | .error f => throw f

theorem bind_eq (first : Step Job α) (next : α → Step Job β) : first >>= next = fun m => (first m).andThen (ifOk next) := by
  refine funext fun m => congrArg (first m).andThen (funext fun outcome => ?_)
  cases outcome <;> rfl

def ifFailed (span : Telemetry.Span) : Except Failure α → Step Job α
  | .ok a => pure a
  | .error f => do
    askTelemetry (.closeSpan span (some f))
    throw f

theorem tryCatch_eq (span : Telemetry.Span) (block : Step Job α) : (tryCatchThe Failure block fun failure => do
    let _ ← askTelemetry (.closeSpan span (some failure))
    throwThe Failure failure) = fun m => (block m).andThen (ifFailed span) := by
  refine funext fun m => congrArg (block m).andThen (funext fun outcome => ?_)
  cases outcome <;> rfl

namespace Closed

variable {X : (α : Type) → Step Job α → Prop}

theorem ifOk (closed : Closed X) {next : α → Step Job β} (hn : ∀ a, X β (next a)) (outcome : Except Failure α) :
    X β (ifOk next outcome) := by
  cases outcome with
  | ok a => exact hn a
  | error f => exact closed.throws f

theorem bind (closed : Closed X) {first : Step Job α} {next : α → Step Job β} (hf : X α first) (hn : ∀ a, X β (next a)) :
    X β (first >>= next) := by
  rw [bind_eq]
  exact closed.andThen hf (closed.ifOk hn)

theorem closing (closed : Closed X) (span : Telemetry.Span) (f : Failure) :
    X α (do askTelemetry (.closeSpan span (some f)); throw f) :=
  closed.bind (closed.telemetry (.closeSpan span (some f))) fun _ => closed.throws f

theorem gives (closed : Closed X) (result : α → β) : ∀ outcome : Except Failure α,
    X β (Matcher.ifOk (fun a => (pure (result a) : Step Job β)) outcome) :=
  closed.ifOk fun a => closed.returns (result a)

theorem fails (closed : Closed X) (span : Telemetry.Span) (outcome : Except Failure α) : X α (ifFailed span outcome) := by
  cases outcome with
  | ok a => exact closed.returns a
  | error f => exact closed.closing span f

theorem closes (closed : Closed X) (span : Telemetry.Span) : ∀ outcome : Except Failure α,
    X α (Matcher.ifOk (fun a => (do askTelemetry (.closeSpan span none); return a : Step Job α)) outcome) :=
  closed.ifOk fun a => closed.bind (closed.telemetry (.closeSpan span none)) fun _ => closed.returns a

theorem around (closed : Closed X) (wanted : Telemetry.SpanRequest) {block : Step Job α} (hb : X α block) :
    X α (Telemetry.around askTelemetry wanted block) := by
  refine closed.bind (closed.telemetry (.openSpan wanted)) fun span => ?_
  rw [tryCatch_eq]
  exact closed.bind (closed.andThen hb (closed.fails span)) fun _ =>
    closed.bind (closed.telemetry (.closeSpan span none)) fun _ => closed.returns _

section Reporting

variable (hr : ∀ command f, X Unit (reportFailure command f))
include hr

theorem reported (closed : Closed X) (command : String) (outcome : Except Failure α) :
    X (Option α) (reported command outcome) := by
  cases outcome with
  | ok a => exact closed.returns _
  | error f =>
    have told : X (Option α) (do reportFailure command f; return none) :=
      closed.bind (hr command f) fun _ => closed.returns _
    exact holds_ite (closed.bind (closed.throws f) fun _ => told) told

theorem reportIfFailed (closed : Closed X) (command : String) {step : Step Job α} (hs : X α step) :
    X (Option α) (reportIfFailed command step) := by
  rw [reportIfFailed_eq]
  exact closed.andThen hs (closed.reported hr command)

theorem settled (closed : Closed X) (command : String) (outcome : Except Failure Unit) :
    X Unit (settled command outcome) := by
  cases outcome with
  | ok _ => exact closed.returns _
  | error f => exact holds_ite (hr command f) (closed.returns _)

end Reporting

end Closed

section Reports

theorem reports_closed : Closed fun α => @Reports Job α calls where
  returns a _ := .finished ⟨rfl, .refl _⟩
  throws f _ := .finished ⟨rfl, .refl _⟩
  telemetry op _ := .finished ⟨rfl, Telemetry.perform_moves op _⟩
  andThen := by
    intro α β first next hf hn s
    show (Logged.run ((first s.matcher).andThen next) s.telemetry).Still (reporting calls) s
    rw [Logged.run_andThen]
    exact (hf s).andThen reporting_trans fun outcome => hn outcome

theorem reports_ask (request : Request Job) (ha : request.IsAftermath) : Reports calls (ask request) := by
  have waits : ∀ s, (Run.waiting request s (fun reply s => .finished reply s) :
      Run (surroundings Job) Logged _).Still (reporting calls) s :=
    fun _ => .waiting ha ⟨rfl, .refl _⟩ fun _ _ => .finished ⟨rfl, .refl _⟩
  cases request with
  | publish | settle => exact waits
  | _ => exact ha.elim

theorem reports_reportFailure (command : String) (f : Failure) : Reports calls (reportFailure command f : Step Job Unit) :=
  reports_closed.bind (reports_closed.telemetry _) fun _ => reports_ask (.publish (.failed command f)) trivial

theorem reports_settled (command : String) (outcome : Except Failure Unit) :
    Reports calls (Call.settled command outcome).step :=
  reports_closed.bind (reports_closed.settled reports_reportFailure command outcome) fun _ => reports_closed.returns _

end Reports

def Request.IsUsual : Request Job → Prop
  | .consume _ | .arm .. | .disarm _ | .publish (.pending ..) | .publish .reset => True
  | _ => False

structure Mark.Common (V : Mark Job) : Prop where
  andThen : ∀ {α β : Type} (request : Request Job) (resume : Resume Job α request) (next : Except Failure α → Step Job β),
    V α request resume → V β request fun reply s => (resume reply s).andThen fun outcome => Logged.step (next outcome)
  ask     : ∀ request : Request Job, request.IsUsual → V _ request .finished

section Throughout

variable {V : Mark Job}

theorem each_andThen {V : (request : Request Job) → Resume Job α request → Prop}
    {W : (request : Request Job) → Resume Job β request → Prop}
    {first : Step Job α} {next : Except Failure α → Step Job β} (hf : ∀ s, (Logged.step first s).Each V)
    (hw : ∀ request resume, V request resume → W request fun reply s => (resume reply s).andThen fun outcome =>
      Logged.step (next outcome))
    (hn : ∀ outcome s, (Logged.step (next outcome) s).Each W) (s : Logged) :
    (Logged.step (fun m => (first m).andThen next) s).Each W := by
  have follows : ∀ run : Run (surroundings Job) Logged α, run.Each V →
      (run.andThen fun outcome => Logged.step (next outcome)).Each W := by
    intro run each
    induction run with
    | finished outcome s => exact hn outcome s
    | waiting request s resume ih => exact ⟨hw _ _ each.left, fun reply s => ih reply s (each.right reply s)⟩
  show (Logged.run ((first s.matcher).andThen next) s.telemetry).Each W
  rw [Logged.run_andThen]
  exact follows _ (hf s)

theorem throughout_get : Throughout V (get : Step Job Matcher) := fun _ => trivial

theorem throughout_modify (f : Matcher → Matcher) : Throughout V (modify f : Step Job PUnit) := fun _ => trivial

theorem throughout_ask {request : Request Job} (marked : V _ request .finished) : Throughout V (ask request) := by
  intro s
  cases request with
  | telemetry op => trivial
  | _ => exact ⟨marked, fun _ _ => trivial⟩

namespace Mark.Common

variable (common : V.Common)
include common

theorem closed : Closed fun _ => Throughout V where
  returns _ _ := trivial
  throws _ _ := trivial
  telemetry _ _ := trivial
  andThen hf hn := each_andThen hf (fun request resume => common.andThen request resume _) hn

theorem cancelTimer : Throughout V (cancelTimer : Step Job Unit) := by
  refine common.closed.bind (throughout_modify _) fun _ => common.closed.bind throughout_get fun m => ?_
  cases m.timer with
  | none => exact common.closed.returns ()
  | some timer => exact common.closed.bind (throughout_modify _) fun _ => throughout_ask (common.ask (.disarm timer) trivial)

theorem startTimer (action : Action) : Throughout V (startTimer action : Step Job Unit) :=
  common.closed.bind common.cancelTimer fun _ => common.closed.bind throughout_get fun _ =>
    common.closed.bind (throughout_ask (common.ask (.arm ..) trivial)) fun _ => throughout_modify _

theorem clear : Throughout V (clear : Step Job Unit) :=
  common.closed.bind common.cancelTimer fun _ => throughout_modify _

theorem reset : Throughout V (reset : Step Job Unit) :=
  common.closed.bind throughout_get fun _ => common.closed.bind common.clear fun _ =>
    holds_ite (throughout_ask (common.ask (.publish .reset) trivial)) (common.closed.returns _)

theorem abandon : Throughout V (abandon : Step Job Unit) :=
  common.closed.bind throughout_get fun _ => common.closed.bind (common.closed.telemetry _) fun _ => common.reset

theorem reload (config : Config) : Throughout V (reload config : Step Job Unit) := by
  refine common.closed.bind (common.closed.around _ ?_) fun _ => common.closed.bind common.reset fun _ =>
    common.closed.bind (throughout_modify _) fun _ => common.closed.telemetry _
  cases Keymap.compile (.text config.leader) config.timeout config.bindings with
  | ok keymap => exact common.closed.returns keymap
  | error fault => exact common.closed.throws _

end Mark.Common

end Throughout

-- How operations are put together: what may come before a command is carried out, what the requests of the whole have
-- in common, and what may come after it.
structure Pattern (Job : Type) where
  before : Mark Job
  whole : Mark Job
  after : {α β : Type} → (Except Failure α → Step Job β) → Prop

-- Before a command is carried out there may be anything that has to do with keys and timers alone. Afterwards the span
-- of a press is closed, and the result is given.
structure Pattern.Lawful (P : Pattern Job) : Prop where
  common   : P.before.Common
  covers   : ∀ {α : Type} (request : Request Job) (resume : Resume Job α request), P.before α request resume →
    P.whole α request resume
  precedes : ∀ {α β : Type} (request : Request Job) (resume : Resume Job α request) (next : Except Failure α → Step Job β),
    P.before α request resume →
    P.whole β request fun reply s => (resume reply s).andThen fun outcome => Logged.step (next outcome)
  follows  : ∀ {α β : Type} (request : Request Job) (resume : Resume Job α request) (next : Except Failure α → Step Job β),
    P.after next → P.whole α request resume →
    P.whole β request fun reply s => (resume reply s).andThen fun outcome => Logged.step (next outcome)
  gives    : ∀ {α β : Type} (result : α → β), P.after (ifOk fun a => (pure (result a) : Step Job β))
  fails    : ∀ {α : Type} (span : Telemetry.Span), P.after (ifFailed span : Except Failure α → Step Job α)
  closes   : ∀ {α : Type} (span : Telemetry.Span),
    P.after (ifOk fun a => (do askTelemetry (.closeSpan span none); return a : Step Job α))

namespace Pattern.Lawful

variable {P : Pattern Job} (lawful : P.Lawful)
include lawful

theorem covered {step : Step Job α} (hs : Throughout P.before step) : Throughout P.whole step :=
  fun s => (hs s).mono lawful.covers

theorem begin {first : Step Job α} {next : α → Step Job β} (hf : Throughout P.before first)
    (hn : ∀ a, Throughout P.whole (next a)) : Throughout P.whole (first >>= next) := by
  refine each_andThen hf (fun request resume => lawful.precedes request resume _) fun outcome => ?_
  cases outcome with
  | ok a => exact hn a
  | error f => exact fun _ => trivial

theorem endWith {first : Step Job α} {next : Except Failure α → Step Job β} (hf : Throughout P.whole first)
    (after : P.after next) (hn : ∀ outcome, Throughout P.whole (next outcome)) :
    Throughout P.whole fun m => (first m).andThen next :=
  each_andThen hf (fun request resume => lawful.follows request resume next after) hn

theorem endOk {first : Step Job α} {next : α → Step Job β} (hf : Throughout P.whole first) (after : P.after (ifOk next))
    (hn : ∀ a, Throughout P.whole (next a)) : Throughout P.whole (first >>= next) := by
  rw [bind_eq]
  refine lawful.endWith hf after fun outcome => ?_
  cases outcome with
  | ok a => exact hn a
  | error f => exact fun _ => trivial

theorem give {step : Step Job α} (hs : Throughout P.whole step) (result : α → β) :
    Throughout P.whole (do return result (← step) : Step Job β) :=
  lawful.endOk hs (lawful.gives result) fun _ _ => trivial

theorem around (wanted : Telemetry.SpanRequest) {block : Step Job α} (hb : Throughout P.whole block) :
    Throughout P.whole (Telemetry.around askTelemetry wanted block) := by
  have closed := lawful.common.closed
  refine lawful.begin (closed.telemetry (.openSpan wanted)) fun span => ?_
  rw [tryCatch_eq]
  have left : Throughout P.whole fun m => (block m).andThen (ifFailed span) := by
    refine lawful.endWith hb (lawful.fails span) fun outcome => ?_
    cases outcome with
    | ok a => exact fun _ => trivial
    | error f => exact lawful.covered (closed.closing span f)
  exact lawful.endOk left (lawful.closes span) fun _ =>
    lawful.covered (closed.bind (closed.telemetry (.closeSpan span none)) fun _ => closed.returns _)

section Operations

variable (hd : ∀ command, Throughout P.whole (dispatch command : Step Job Unit))
include hd

theorem expire (expiry : Expiry) : Throughout P.whole (expire expiry : Step Job Unit) := by
  refine lawful.begin throughout_get fun m => holds_ite (lawful.begin (throughout_modify _) fun _ => ?_) fun _ => trivial
  cases expiry.action with
  | dispatch command => exact hd command
  | abandon => exact lawful.covered lawful.common.abandon

theorem arrive (node : Keymap.Node) : Throughout P.whole (arrive node : Step Job Unit) := by
  rw [Matcher.arrive]
  split
  · exact hd _
  · exact lawful.begin (lawful.common.startTimer _) fun _ => lawful.begin throughout_get fun _ =>
      lawful.covered (throughout_ask (lawful.common.ask (.publish (.pending ..)) trivial))

theorem followOr (press : Press) (key : Key) {otherwise : Step Job Bool} (ho : Throughout P.whole otherwise) :
    Throughout P.whole (followOr press key otherwise) := by
  refine lawful.begin throughout_get fun m => ?_
  dsimp only
  split
  case h_1 node _ =>
    exact lawful.begin lawful.common.cancelTimer fun _ =>
      lawful.begin (throughout_ask (lawful.common.ask (.consume press) trivial)) fun _ =>
        lawful.begin (throughout_modify _) fun _ => lawful.give (lawful.arrive hd node) fun _ => true
  case h_2 => exact holds_ite (fun _ => trivial) (lawful.begin lawful.common.reset fun _ => ho)

theorem handle (press : Press) : Throughout P.whole (handle press : Step Job Bool) := by
  refine holds_ite (fun _ => trivial) ?_
  cases press.toKey? with
  | none => exact fun _ => trivial
  | some key =>
    exact lawful.begin throughout_get fun _ => lawful.around _
      (lawful.followOr hd press key (lawful.followOr hd press key fun _ => trivial))

theorem operate (hs : ∀ command outcome, Throughout P.whole (Call.settled command outcome).step) (c : Call) (s : Logged) :
    (operate c s : Run (surroundings Job) Logged (Option Bool)).Each (P.whole _) := by
  have steps : Throughout P.whole (c.step : Step Job (Option Bool)) := by
    cases c with
    | press press => exact lawful.give (lawful.handle hd press) _
    | expire expiry => exact lawful.give (lawful.expire hd expiry) _
    | reset | close => exact lawful.give (lawful.covered lawful.common.reset) _
    | reload config => exact lawful.give (lawful.covered (lawful.common.reload config)) _
    | settled command outcome => exact hs command outcome
  exact steps s

end Operations

end Pattern.Lawful

def Mark.pattern (V : Mark Job) : Pattern Job where
  before := V
  whole := V
  after next := ∀ outcome, Throughout V (next outcome)

theorem Mark.Common.lawful {V : Mark Job} (common : V.Common) : V.pattern.Lawful where
  common := common
  covers _ _ := id
  precedes request resume next := common.andThen request resume next
  follows request resume next _ := common.andThen request resume next
  gives := common.closed.gives
  fails := common.closed.fails
  closes := common.closed.closes

section Trails

def Uneventful (request : Request Job) (_ : Resume Job α request) : Prop := ¬request.IsCommand ∧ ¬request.IsAftermath

def Trails (calls : Call → Past Job → Prop) (request : Request Job) (resume : Resume Job α request) : Prop :=
  request.IsCommand ∨ request.IsAftermath → ∀ reply s, (resume reply s).Still (reporting calls) s

def trailing (calls : Call → Past Job → Prop) : Pattern Job where
  before _ := Uneventful
  whole _ := Trails calls
  after next := ∀ outcome, Reports calls (next outcome)

theorem uneventful_common : Mark.Common fun _ => @Uneventful Job _ where
  andThen := fun _ _ _ uneventful => uneventful
  ask := by
    intro request usual
    cases request with
    | publish event => cases event <;> first | exact ⟨id, id⟩ | exact usual.elim
    | consume | arm | disarm => exact ⟨id, id⟩
    | _ => exact usual.elim

theorem trailing_lawful : (trailing calls : Pattern Job).Lawful where
  common := uneventful_common
  covers _ _ plain := fun hc => absurd hc (not_or.mpr plain)
  precedes _ _ _ plain := fun hc => absurd hc (not_or.mpr plain)
  follows _ _ _ hr still := fun hc reply s => (still hc reply s).andThen reporting_trans fun outcome => hr outcome
  gives := reports_closed.gives
  fails := reports_closed.fails
  closes := reports_closed.closes

theorem Reports.trailing {step : Step Job α} (hr : Reports calls step) : Throughout (fun _ => Trails calls) step := by
  have weaker : ∀ (run : Run (surroundings Job) Logged α) (s : Logged), run.Still (reporting calls) s →
      run.Each (Trails calls) := by
    intro run s still
    induction still with
    | finished => trivial
    | waiting asks changes resumes ih => exact ⟨fun _ => resumes, ih⟩
  exact fun s => weaker _ s (hr s)

theorem trailing_ask (request : Request Job) : Throughout (fun _ => Trails calls) (ask request) := by
  intro s
  cases request with
  | telemetry => trivial
  | _ => exact ⟨fun _ _ _ => .finished ⟨rfl, .refl _⟩, fun _ _ => trivial⟩

theorem trailing_reportIfFailed (command : String) {step : Step Job α} (hs : Throughout (fun _ => Trails calls) step) :
    Throughout (fun _ => Trails calls) (reportIfFailed command step) := by
  have reports : ∀ outcome, Reports calls (reported command outcome : Step Job (Option α)) :=
    reports_closed.reported reports_reportFailure command
  rw [reportIfFailed_eq]
  exact trailing_lawful.endWith hs reports fun outcome => (reports outcome).trailing

theorem trailing_bind {first : Step Job α} {next : α → Step Job β} (hf : Throughout (fun _ => Trails calls) first)
    (hr : ∀ a, Reports calls (next a)) : Throughout (fun _ => Trails calls) (first >>= next) :=
  trailing_lawful.endOk hf (reports_closed.ifOk hr) fun a => (hr a).trailing

theorem trailing_dispatch (command : String) : Throughout (fun _ => Trails calls) (dispatch command : Step Job Unit) := by
  have lawful : (trailing calls : Pattern Job).Lawful := trailing_lawful
  refine lawful.begin throughout_get fun m => lawful.begin lawful.common.clear fun _ =>
    lawful.begin (lawful.common.closed.telemetry _) fun _ => lawful.begin (throughout_ask ⟨id, id⟩) fun _ =>
      trailing_bind (trailing_reportIfFailed command (trailing_ask (.execute command))) ?_
  rintro (_ | _ | job)
  · exact reports_closed.returns ()
  · exact reports_closed.returns ()
  · exact reports_closed.bind (reports_closed.reportIfFailed reports_reportFailure command
      (reports_ask (.settle command job) trivial)) fun _ => reports_closed.returns ()

-- Whatever a matcher is asked to do, it has only reports left to make when a command is carried out.
theorem trailing_operate (c : Call) (s : Logged) :
    (operate c s : Run (surroundings Job) Logged (Option Bool)).Each (Trails calls) :=
  trailing_lawful.operate trailing_dispatch (fun command outcome => (reports_settled command outcome).trailing) c s

end Trails

end Keychord.Matcher
