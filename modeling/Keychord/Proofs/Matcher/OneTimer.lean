import Keychord.Proofs.Matcher.Clocked

namespace Keychord.Matcher.Clocked

open Relation (ReflTransGen)

variable {Job α : Type}

def Request.IsWork (request : Request Job) : Prop := request.own?.elim False Matcher.Request.IsCommand

-- Surroundings that leave the timers to the matcher. Commands call what they like, and so does anybody else in between.
def soleHost (Job : Type) : Host Job where
  calls call _ _ := ∀ expiry, call ≠ .operation (.expire expiry)
  during _ request _ := request.IsWork
  answers _ _ := True
  drifts s s' := s'.matcher = s.matcher ∧ s'.schedule = s.schedule ∧ s.telemetry.Use s'.telemetry

def readings : Past Job → List Float
  | [] => []
  | .asked (.consume _) _ :: _ => []
  | .answered .clock (.ok now) :: h => now :: readings h
  | _ :: h => readings h

def IsKey : Sight (outside Job) Clocked Call Answer → Prop
  | .asked (.consume _) _ => True
  | _ => False

theorem getLast?_readings_cons {sight : Sight (outside Job) Clocked Call Answer} {h : Past Job} {now : Float}
    (hs : ¬IsKey sight) (hl : (readings h).getLast? = some now) :
    (readings (sight :: h)).getLast? = some now := by
  unfold readings
  split
  case h_1 heq => cases heq
  case h_2 heq => cases heq; exact absurd trivial hs
  case h_3 heq => cases heq; rw [List.getLast?_cons, hl]; rfl
  case h_4 heq => cases heq; exact hl

structure Slack (s : Clocked) : Prop where
  coherent : s.telemetry.Coherent
  released : s.matcher.timer = none
  empty    : s.schedule.pending = []

-- The timer that is held is the one that waits. It was armed when the clock was read at the last key, and its callback
-- does what the keys so far are bound to.
structure Tight (s : Clocked) (h : Past Job) (node : Keymap.Node) (timer : Nat) (now : Float) : Prop where
  active : s.telemetry.active.isSome
  held   : s.matcher.timer = some timer
  typed  : s.matcher.typed ≠ []
  found  : s.matcher.keymap.root.find? s.matcher.path = some node
  read   : (readings h).getLast? = some now
  waits  : s.schedule.pending = [⟨timer, now + Float.ofInt s.matcher.keymap.timeout / 1000.0,
    ⟨s.matcher.generation, node.command.elim .abandon .dispatch⟩⟩]

inductive Wound (s : Clocked) (h : Past Job) : Prop
  | slack (slack : Slack s)
  | tight {node : Keymap.Node} {timer : Nat} {now : Float} (tight : Tight s h node timer now)

def windup (Job : Type) : Pledge Job := ⟨Wound, fun _ _ => Wound⟩

variable {c : Call} {s : Clocked} {h : Past Job}

theorem Slack.drift (slack : Slack s) {t : Telemetry} (ha : s.telemetry.Advances t) : Slack { s with telemetry := t } :=
  ⟨ha.coherent slack.coherent, slack.released, slack.empty⟩

namespace Wound

theorem coherent (wound : Wound s h) : s.telemetry.Coherent := by
  cases wound with
  | slack slack => exact slack.coherent
  | tight tight => exact .inl tight.active

theorem drift (wound : Wound s h) {t : Telemetry} (ha : s.telemetry.Advances t) : Wound { s with telemetry := t } h := by
  cases wound with
  | slack slack => exact .slack (slack.drift ha)
  | tight tight => exact .tight { tight with active := ha.active tight.active }

theorem cons (wound : Wound s h) {sight : Sight (outside Job) Clocked Call Answer}
    (hs : ¬IsKey sight) : Wound s (sight :: h) := by
  cases wound with
  | slack slack => exact .slack slack
  | tight tight => exact .tight { tight with read := getLast?_readings_cons hs tight.read }

end Wound

theorem alone {inv : Clocked → Past Job → Prop} {request : Request Job} (hr : ¬request.IsWork) {s' : Clocked}
    {h' : Past Job} (meanwhile : (soleHost Job).Meanwhile inv c request s h s' h') :
    ∃ t, s.telemetry.Advances t ∧ s' = { s with telemetry := t } ∧ h' = h := by
  obtain ⟨hd, rfl⟩ := meanwhile.closed fun ⟨_, ho⟩ => hr ho
  clear meanwhile
  induction hd with
  | refl => exact ⟨s.telemetry, .refl _, rfl, rfl⟩
  | @tail s₁ s₂ _ drifts ih =>
    obtain ⟨t, ha, rfl, -⟩ := ih
    obtain ⟨m, t', schedule⟩ := s₂
    obtain ⟨rfl, rfl, hu⟩ := drifts
    exact ⟨t', .trans _ _ _ ha hu.advances, rfl, rfl⟩

def Keeps (c : Call) (step : Step Job α) : Prop :=
  ∀ s h, Wound s h → Ensures (soleHost Job) (windup Job) c step (fun _ s h => Wound s h) s h

section Steps

theorem ensures_publish {event : Event} (wound : Wound s h) {Q : Except Failure Unit → Clocked → Past Job → Prop}
    (hq : ∀ reply t, s.telemetry.Advances t →
      Q reply { s with telemetry := t } (.answered (.publish event) reply :: .asked (.publish event) s :: h)) :
    Ensures (soleHost Job) (windup Job) c (ask (.publish event)) Q s h := by
  refine ⟨wound.cons id, fun reply s' h' _ meanwhile => ?_⟩
  obtain ⟨t, ha, rfl, rfl⟩ := alone id meanwhile
  exact hq reply t ha

theorem keeps_publish (event : Event) : Keeps c (ask (.publish event) : Step Job Unit) :=
  fun _ _ wound => ensures_publish wound fun _ _ ha => ((wound.cons id).cons id).drift ha

theorem keeps_execute (command : String) : Keeps c (ask (.execute command) : Step Job (Option Job)) :=
  fun _ _ wound => ⟨wound.cons id, fun _ _ _ _ meanwhile => (meanwhile.opened ⟨c, trivial⟩).cons id⟩

theorem keeps_settle (command : String) (job : Job) : Keeps c (ask (.settle command job) : Step Job Unit) :=
  fun _ _ wound => ⟨wound.cons id, fun _ _ _ _ meanwhile => (meanwhile.opened ⟨c, trivial⟩).cons id⟩

theorem keeps_telemetry (op : Telemetry.Op) : Keeps c (askTelemetry op : Step Job op.Answer) :=
  fun _ _ wound => ensures_telemetry fun _ _ _ ha => wound.drift ha

namespace Keeps

variable {β : Type}

theorem pure (a : α) : Keeps c (Pure.pure a : Step Job α) := fun _ _ wound => wound

theorem throw (f : Failure) : Keeps c (MonadExcept.throw f : Step Job α) := fun _ _ wound => wound

theorem bind {first : Step Job α} {next : α → Step Job β} (hf : Keeps c first) (hn : ∀ a, Keeps c (next a)) :
    Keeps c (first >>= next) := by
  intro s h wound
  refine ensures_bind.mpr ((hf s h wound).mono fun outcome s h wound => ?_)
  cases outcome with
  | ok a => exact hn a s h wound
  | error f => exact wound

theorem ite {p : Prop} [Decidable p] {first second : Step Job α} (hf : p → Keeps c first) (hs : ¬p → Keeps c second) :
    Keeps c (if p then first else second) :=
  fun s h wound => ensures_ite (fun hp => hf hp s h wound) fun hp => hs hp s h wound

end Keeps

theorem keeps_reportFailure (command : String) (failure : Failure) :
    Keeps c (reportFailure command failure : Step Job Unit) :=
  .bind (keeps_telemetry _) fun _ => keeps_publish _

theorem keeps_reportIfFailed (command : String) {step : Step Job α} (hs : Keeps c step) :
    Keeps c (reportIfFailed command step) := by
  have reported : ∀ failure, Keeps c (do reportFailure command failure; return (none : Option α) : Step Job (Option α)) :=
    fun failure => .bind (keeps_reportFailure command failure) fun _ => .pure _
  refine .bind (fun s h wound => ensures_attempt.mpr (hs s h wound)) fun outcome => ?_
  cases outcome with
  | ok a => exact .pure _
  | error failure => exact .ite (fun _ => .bind (.throw _) fun _ => reported failure) fun _ => reported failure

theorem ensures_cancelTimer (wound : Wound s h) {Q : Except Failure Unit → Clocked → Past Job → Prop}
    (hq : ∀ schedule, Slack ⟨released s.matcher, s.telemetry, schedule⟩ →
      Q (.ok ()) ⟨released s.matcher, s.telemetry, schedule⟩ h) :
    Ensures (soleHost Job) (windup Job) c cancelTimer Q s h := by
  refine ensures_modify_bind.mpr (ensures_get_bind.mpr ?_)
  have coherent := wound.coherent
  dsimp only
  cases wound with
  | slack slack =>
    have stays : { s.matcher with generation := s.matcher.generation + 1 } = released s.matcher := by
      rw [released, ← slack.released]
    rw [stays, slack.released]
    exact hq s.schedule ⟨slack.coherent, rfl, slack.empty⟩
  | @tight node timer now tight =>
    have gone : (s.schedule.disarm timer).pending = [] := by simp [Timer.Schedule.disarm, tight.waits]
    rw [tight.held]
    exact ensures_modify_bind.mpr (hq _ ⟨coherent, rfl, gone⟩)

theorem ensures_clear (wound : Wound s h) {Q : Except Failure Unit → Clocked → Past Job → Prop}
    (hq : ∀ schedule, Slack ⟨cleared s.matcher, s.telemetry, schedule⟩ →
      Q (.ok ()) ⟨cleared s.matcher, s.telemetry, schedule⟩ h) :
    Ensures (soleHost Job) (windup Job) c clear Q s h :=
  ensures_bind.mpr (ensures_cancelTimer wound fun schedule slack => hq schedule ⟨slack.coherent, rfl, slack.empty⟩)

theorem ensures_reset (wound : Wound s h) :
    Ensures (soleHost Job) (windup Job) c reset (fun _ s' _ => Slack s' ∧ s.telemetry.Advances s'.telemetry) s h := by
  refine ensures_get_bind.mpr (ensures_bind.mpr (ensures_clear wound fun schedule slack => ?_))
  refine ensures_ite (fun _ => ?_) fun _ => ?_
  · exact ensures_publish (.slack slack) fun _ _ ha => ⟨slack.drift ha, ha⟩
  · exact ⟨slack, .refl _⟩

theorem keeps_reset : Keeps c (reset : Step Job Unit) :=
  fun _ _ wound => (ensures_reset wound).mono fun _ _ _ ⟨slack, _⟩ => .slack slack

theorem keeps_dispatch (command : String) : Keeps c (dispatch command : Step Job Unit) := by
  have settles : ∀ job, Keeps c (do let _ ← reportIfFailed command (ask (.settle command job)) : Step Job Unit) :=
    fun job => .bind (keeps_reportIfFailed command (keeps_settle command job)) fun _ => .pure _
  have cleared : Keeps c (clear : Step Job Unit) := fun _ _ wound => ensures_clear wound fun _ slack => .slack slack
  intro s h wound
  refine ensures_get_bind.mpr (Keeps.bind cleared (fun _ => ?_) s h wound)
  refine .bind (keeps_telemetry _) fun _ => .bind (keeps_publish _) fun _ => ?_
  refine .bind (keeps_reportIfFailed command (keeps_execute command)) fun work => ?_
  match work with
  | none | some none => exact .pure _
  | some (some job) => exact settles job

theorem keeps_abandon : Keeps c (abandon : Step Job Unit) :=
  fun s h wound => ensures_get_bind.mpr (Keeps.bind (keeps_telemetry _) (fun _ => keeps_reset) s h wound)

theorem ensures_expire {expiry : Expiry} (due : Due expiry s.matcher) (coherent : s.telemetry.Coherent)
    (empty : s.schedule.pending = []) :
    Ensures (soleHost Job) (windup Job) c (expire expiry) (fun _ s h => Wound s h) s h := by
  have slack : Slack ⟨timedOut s.matcher, s.telemetry, s.schedule⟩ := ⟨coherent, rfl, empty⟩
  rw [Ensures, Clocked.step, expire_of_due due]
  refine ensures_modify_bind.mpr ?_
  cases expiry.action with
  | dispatch command => exact keeps_dispatch command _ _ (.slack slack)
  | abandon => exact keeps_abandon _ _ (.slack slack)

theorem armed_cases (reading : Except Failure Float) (delay : Int) (expiry : Expiry) {schedule : Timer.Schedule Expiry}
    (empty : schedule.pending = []) :
    (∃ f, (armed reading delay expiry schedule).1 = .error f ∧ (armed reading delay expiry schedule).2.pending = []) ∨
    ∃ now timer, reading = .ok now ∧ (armed reading delay expiry schedule).1 = .ok timer ∧
      (armed reading delay expiry schedule).2.pending = [⟨timer, now + Float.ofInt delay / 1000.0, expiry⟩] := by
  cases reading with
  | error f => exact .inl ⟨f, rfl, empty⟩
  | ok now =>
    by_cases hd : delay.natAbs < Number.tooLarge
    case neg =>
      have long : (Timer.Delay.whole delay).seconds = .error .delayTooLong := by
        rw [Timer.Delay.seconds, Number.ofInt?, if_neg hd]
      have refused : Timer.Schedule.arm now (.whole delay) expiry schedule =
          (.error .delayTooLong, { schedule with made := schedule.made + 1 }) := by
        rw [Timer.Schedule.arm, long]
        rfl
      rw [armed, refused]
      exact .inl ⟨_, rfl, empty⟩
    case pos =>
      have seconds : (Timer.Delay.whole delay).seconds = .ok (Float.ofInt delay / 1000.0) := by
        rw [Timer.Delay.seconds, Number.ofInt?, if_pos hd]
      have made : Timer.Schedule.arm now (.whole delay) expiry schedule =
          (.ok ⟨schedule.made + 1, now + Float.ofInt delay / 1000.0, expiry⟩,
            ⟨schedule.pending ++ [⟨schedule.made + 1, now + Float.ofInt delay / 1000.0, expiry⟩], schedule.made + 1⟩) := by
        rw [Timer.Schedule.arm, seconds]
        rfl
      rw [armed, made, empty]
      exact .inr ⟨now, _, rfl, rfl, rfl⟩

theorem ensures_startTimer {node : Keymap.Node} (slack : Slack s) (active : s.telemetry.active.isSome)
    (unread : readings h = []) (typed : s.matcher.typed ≠ [])
    (found : s.matcher.keymap.root.find? s.matcher.path = some node) :
    Ensures (soleHost Job) (windup Job) c (startTimer (node.command.elim .abandon .dispatch)) (fun _ s h => Wound s h)
      s h := by
  refine ensures_bind.mpr (ensures_cancelTimer (.slack slack) fun schedule slack => ensures_get_bind.mpr ?_)
  refine ensures_bind.mpr (ensures_arm.mpr ⟨.slack slack, fun reading s' h' _ meanwhile => ?_⟩)
  obtain ⟨t, ha, rfl, rfl⟩ := alone id meanwhile
  obtain ⟨f, refused, empty⟩ | ⟨now, timer, rfl, made, waits⟩ := armed_cases reading (released s.matcher).keymap.timeout
    ⟨(released s.matcher).generation, node.command.elim .abandon .dispatch⟩ slack.empty
  case inl =>
    dsimp only
    rw [refused]
    exact Wound.slack ⟨ha.coherent slack.coherent, rfl, empty⟩
  case inr =>
    dsimp only
    rw [made]
    exact Wound.tight ⟨ha.active active, rfl, typed, found, by simp [readings, unread], waits⟩

theorem ensures_arrive {node : Keymap.Node} (slack : Slack s) (active : s.telemetry.active.isSome)
    (unread : readings h = []) (typed : s.matcher.typed ≠ [])
    (found : s.matcher.keymap.root.find? s.matcher.path = some node) :
    Ensures (soleHost Job) (windup Job) c (arrive node) (fun _ s h => Wound s h) s h := by
  have waits : ∀ command, Keeps c (do
      ask (.publish (.pending (← get).pendingDisplay command node.nextEdges)) : Step Job Unit) :=
    fun _ s h wound => ensures_get_bind.mpr (keeps_publish _ s h wound)
  rw [arrive]
  split
  case h_1 command _ _ => exact keeps_dispatch command _ _ (.slack slack)
  case h_2 =>
    refine ensures_bind.mpr ((ensures_startTimer slack active unread typed found).mono fun outcome s h wound => ?_)
    cases outcome with
    | ok _ => exact waits node.command s h wound
    | error f => exact wound

theorem ensures_followOr {press : Press} {key : Key} {otherwise : Step Job Bool} (wound : Wound s h)
    (active : s.telemetry.active.isSome)
    (ho : ∀ s' h', Wound s' h' → s'.telemetry.active.isSome →
      Ensures (soleHost Job) (windup Job) c otherwise (fun _ s h => Wound s h) s' h') :
    Ensures (soleHost Job) (windup Job) c (followOr press key otherwise) (fun _ s h => Wound s h) s h := by
  refine ensures_get_bind.mpr ?_
  dsimp only
  split
  case h_1 node found =>
    refine ensures_bind.mpr (ensures_cancelTimer wound fun schedule slack => ?_)
    refine ensures_bind.mpr ⟨.slack slack, fun reply s' h' _ meanwhile => ?_⟩
    obtain ⟨t, ha, rfl, rfl⟩ := alone id meanwhile
    have slack := slack.drift ha
    cases reply with
    | error f => exact Wound.slack slack
    | ok _ =>
      have slack : Slack ⟨advanced s.matcher key, t, schedule⟩ := ⟨slack.coherent, rfl, slack.empty⟩
      refine ensures_modify_bind.mpr (ensures_bind.mpr ?_)
      refine (ensures_arrive slack (ha.active active) rfl (by simp [advanced]) found).mono fun outcome s h wound => ?_
      cases outcome <;> exact wound
  case h_2 =>
    refine ensures_ite (fun _ => wound) fun _ => ensures_bind.mpr ((ensures_reset wound).mono ?_)
    rintro outcome s' h' ⟨slack, ha⟩
    cases outcome with
    | ok _ => exact ho s' h' (.slack slack) (ha.active active)
    | error f => exact .slack slack

theorem keeps_handle (press : Press) : Keeps c (handle press : Step Job Bool) := by
  refine .ite (fun _ => .pure _) fun _ => ?_
  cases press.toKey? with
  | none => exact .pure _
  | some key =>
    intro s h wound
    refine ensures_get_bind.mpr (ensures_bind.mpr (ensures_telemetry fun outcome t hp ha => ?_))
    cases outcome with
    | error f => exact wound.drift ha
    | ok span =>
      have active : t.active.isSome := Telemetry.active_of_openSpan wound.coherent hp
      have followed : Ensures (soleHost Job) (windup Job) c (follow press key) (fun _ s h => Wound s h)
          { s with telemetry := t } h :=
        ensures_followOr (wound.drift ha) active fun _ _ wound active =>
          ensures_followOr wound active fun _ _ wound _ => wound
      -- The span is closed whether the key was followed or not.
      have closes : ∀ handled, Keeps c (do
          askTelemetry (.closeSpan span none)
          return handled : Step Job Bool) := fun _ => .bind (keeps_telemetry _) fun _ => .pure _
      refine ensures_bind.mpr (ensures_tryCatch (followed.mono fun outcome s h wound => ?_))
      refine ⟨fun handled _ => closes handled s h wound, fun f _ => ?_⟩
      refine (Keeps.bind (keeps_telemetry _) (fun _ => .throw _) s h wound).mono fun outcome s h wound => ?_
      cases outcome with
      | ok handled => exact closes handled s h wound
      | error f => exact wound

theorem ensures_compileTraced (leader : Notation.Leader) (timeout : Int) (bindings : OrderedMap String String) :
    Ensures (soleHost Job) (windup Job) c (Keymap.compileTraced askTelemetry leader timeout bindings)
      (fun _ s' h' => h' = h ∧ ∃ t, s.telemetry.Advances t ∧ s' = { s with telemetry := t }) s h := by
  refine ensures_bind.mpr (ensures_telemetry fun outcome t _ ha => ?_)
  cases outcome with
  | error f => exact ⟨rfl, t, ha, rfl⟩
  | ok span =>
    refine ensures_bind.mpr (ensures_tryCatch ?_)
    have closed : ∀ failure, Ensures (soleHost Job) (windup Job) c (askTelemetry (.closeSpan span failure))
        (fun _ s' h' => h' = h ∧ ∃ t, s.telemetry.Advances t ∧ s' = { s with telemetry := t }) { s with telemetry := t } h :=
      fun failure => ensures_telemetry fun _ t' _ ha' => ⟨rfl, t', .trans _ _ _ ha ha', rfl⟩
    cases Keymap.compile leader timeout bindings with
    | ok keymap =>
      refine ⟨fun _ _ => ensures_bind.mpr ((closed none).mono fun outcome s' h' hc => ?_), nofun⟩
      cases outcome <;> exact hc
    | error fault =>
      refine ⟨nofun, fun f _ => ensures_bind.mpr ((closed (some f)).mono fun outcome s' h' hc => ?_)⟩
      cases outcome <;> exact hc

theorem keeps_reload (config : Config) : Keeps c (reload config : Step Job Unit) := by
  intro s h wound
  refine ensures_bind.mpr ((ensures_compileTraced _ _ _).mono ?_)
  rintro outcome _ _ ⟨rfl, t, ha, rfl⟩
  have wound := wound.drift ha
  cases outcome with
  | error f => exact wound
  | ok keymap =>
    refine ensures_bind.mpr ((ensures_reset wound).mono ?_)
    rintro outcome s' h' ⟨slack, _⟩
    cases outcome with
    | error f => exact .slack slack
    | ok _ => exact ensures_modify_bind.mpr (keeps_telemetry _ _ _ (.slack ⟨slack.coherent, slack.released, slack.empty⟩))

theorem keeps_settled (command : String) (outcome : Except Failure Unit) :
    Keeps c (settled command outcome : Step Job Unit) := by
  cases outcome with
  | ok _ => exact .pure _
  | error failure => exact .ite (fun _ => keeps_reportFailure _ _) fun _ => .pure _

theorem keeps_step {call : Matcher.Call} (hc : ∀ expiry, call ≠ .expire expiry) :
    Keeps c (call.step : Step Job (Option Bool)) := by
  cases call with
  | press press => exact .bind (keeps_handle press) fun _ => .pure _
  | expire expiry => exact absurd rfl (hc expiry)
  | reset | close => exact .bind keeps_reset fun _ => .pure _
  | reload config => exact .bind (keeps_reload config) fun _ => .pure _
  | settled command outcome => exact .bind (keeps_settled command outcome) fun _ => .pure _

end Steps

section Passes

theorem pass_fire {timer : Timer.Pending Expiry} (waits : s.schedule.pending = [timer]) :
    pass (Timer.Schedule.fire [timer]) s =
      (step (expire timer.callback : Step Job Unit) { s with schedule := { s.schedule with pending := [] } }).andThen
        fun outcome => .ofExcept (outcome.map fun _ => 1) := by
  have held : s.schedule.waits timer.number = true := by simp [Timer.Schedule.waits, waits]
  have gone : s.schedule.disarm timer.number = { s.schedule with pending := [] } := by
    simp [Timer.Schedule.disarm, waits]
  have fires : Timer.Schedule.fire [timer] s.schedule = .waiting timer.callback { s.schedule with pending := [] }
      fun outcome schedule => .finished (outcome.map fun _ => 1) schedule := by
    show (if s.schedule.waits timer.number = true then _ else _ : Program _ _ _) s.schedule = _
    rw [if_pos held, ← gone]
    show Run.waiting _ _ _ = Run.waiting _ _ _
    congr 1
    funext outcome schedule
    cases outcome <;> rfl
  rw [pass, fires]
  rfl

theorem meets_pass_fire {Q : Except Failure Nat → Clocked → Past Job → Prop} (wound : Wound s h)
    {timers : List (Timer.Pending Expiry)} (hs : timers = [] ∨ timers = s.schedule.pending)
    (hq : ∀ outcome s h, Wound s h → Q outcome s h) :
    (pass (Timer.Schedule.fire timers) s).Meets (soleHost Job) (windup Job) c Q h := by
  have idle : (pass (Timer.Schedule.fire []) s).Meets (soleHost Job) (windup Job) c Q h := hq _ _ _ wound
  obtain rfl | rfl := hs
  case inl => exact idle
  case inr =>
    have coherent := wound.coherent
    cases wound with
    | slack slack => rwa [slack.empty]
    | @tight node timer now tight =>
      rw [tight.waits, pass_fire tight.waits, Run.meets_andThen]
      have due : Due ⟨s.matcher.generation, node.command.elim .abandon .dispatch⟩ s.matcher :=
        ⟨rfl, by simp [hasTimer, tight.held]⟩
      have expires : Ensures (soleHost Job) (windup Job) c
          (expire ⟨s.matcher.generation, node.command.elim .abandon .dispatch⟩) (fun _ s h => Wound s h)
          { s with schedule := { s.schedule with pending := [] } } h := ensures_expire due coherent rfl
      exact expires.mono fun _ s h wound => hq _ s h wound

-- A timer that waits is due or not.
theorem due_of_wound (wound : Wound s h) (now : Float) :
    s.schedule.due now = [] ∨ s.schedule.due now = s.schedule.pending := by
  cases wound with
  | slack slack => simp [Timer.Schedule.due, slack.empty]
  | tight tight =>
    rw [Timer.Schedule.due, tight.waits, List.filter_cons]
    split
    · exact .inr rfl
    · exact .inl rfl

end Passes

theorem wound_of_sound {M : Working Job} (sound : Machine.Sound (soleHost Job) (windup Job) M) :
    Wound M.state M.history := by
  cases hf : M.frames with
  | nil => exact sound.resting hf
  | cons frame rest =>
    have hm : frame ∈ M.frames.head? := by simp [hf]
    obtain ⟨s, h, ready, meanwhile⟩ := sound.waiting frame hm
    by_cases open' : frame.request.IsWork
    case pos => exact meanwhile.opened ⟨frame.call, open'⟩
    case neg =>
      obtain ⟨t, ha, hs, hh⟩ := alone open' meanwhile
      rw [hs, hh]
      exact Wound.drift ready.handedOver ha

theorem windup_kept : (windup Job).Kept operate (soleHost Job) where
  meets := by
    intro call s h hc wound
    have wound : Wound s (.called call s :: h) := wound.cons id
    have passes : ∀ {h : Past Job} {s}, Wound s h → ∀ {timers}, timers = [] ∨ timers = s.schedule.pending →
        ((do return .fired (← pass (Timer.Schedule.fire timers)) : Program (outside Job) Clocked Answer) s).Meets
          (soleHost Job) (windup Job) call (fun outcome s h => Wound s (.returned call outcome s :: h)) h := by
      intro h s wound timers hs
      refine Run.meets_andThen.mpr (meets_pass_fire wound hs fun outcome s h wound => ?_)
      cases outcome <;> exact wound.cons id
    cases call with
    | operation call =>
      have hn : ∀ expiry, call ≠ .expire expiry := fun expiry he => hc expiry (congrArg Call.operation he)
      refine Run.meets_andThen.mpr ((keeps_step hn _ _ wound).mono fun outcome s h wound => ?_)
      cases outcome <;> exact wound.cons id
    | process =>
      refine ⟨wound.cons id, fun reading s' h' _ meanwhile => ?_⟩
      obtain ⟨t, ha, rfl, rfl⟩ := alone id meanwhile
      have asked : Wound s (.asked .clock s :: .called .process s :: h) := wound.cons id
      have answered : Wound s (.answered .clock reading :: .asked .clock s :: .called .process s :: h) := asked.cons id
      have wound := answered.drift ha
      cases reading with
      | error f => exact wound.cons id
      | ok now =>
        exact passes wound (due_of_wound wound now)
    | force => exact passes wound (.inr rfl)
  opens := fun _ _ _ _ _ wound => wound
  drifts := by
    rintro s ⟨_, t, _⟩ h ⟨rfl, rfl, hu⟩ wound
    exact wound.drift hu.advances

section Expiries

theorem step_telemetry_bind {op : Telemetry.Op} {next : op.Answer → Step Job α} {a : op.Answer} {t : Telemetry}
    (hp : Telemetry.perform op s.telemetry = (.ok a, t)) :
    step (askTelemetry op >>= next) s = step (next a) { s with telemetry := t } := by
  have performed : step (askTelemetry op >>= next) s = run (Run.andThen _
      (Run.finished (Telemetry.perform op s.telemetry).1 s.matcher)) (Telemetry.perform op s.telemetry).2 s.schedule := rfl
  rw [performed, hp]
  rfl

def announce (command keys : String) : Step Job Unit := do
  ask (.publish (.dispatch command keys))
  let work : Option (Option Job) ← reportIfFailed command (ask (.execute command))
  match work with
  | some (some job) =>
    let _ ← reportIfFailed command (ask (.settle command job))
  | _ => pure ()

theorem expire_dispatch {command : String} (due : Due ⟨s.matcher.generation, .dispatch command⟩ s.matcher)
    (active : s.telemetry.active.isSome) : ∃ t resume resume',
      step (expire ⟨s.matcher.generation, .dispatch command⟩ : Step Job Unit) s =
        .waiting (.publish (.dispatch command s.matcher.pendingDisplay))
          ⟨cleared (timedOut s.matcher), t, s.schedule⟩ resume ∧
      resume (.ok ()) ⟨cleared (timedOut s.matcher), t, s.schedule⟩ =
        .waiting (.execute command) ⟨cleared (timedOut s.matcher), t, s.schedule⟩ resume' := by
  have level : Telemetry.fieldLevels.contains (Text.lower "info") := by decide
  have data : ∀ e ∈ [("command_id", Value.text command), ("keys", .text s.matcher.pendingDisplay)], e.2.text?.isSome := by
    simp
  obtain ⟨t, hp, -⟩ := Telemetry.record_ok active level data "keys.dispatch"
  have acts : step (expire ⟨s.matcher.generation, .dispatch command⟩) s = step (do
      askTelemetry (.record "keys.dispatch" "info" [("command_id", .text command), ("keys", .text s.matcher.pendingDisplay)])
      announce command s.matcher.pendingDisplay : Step Job Unit)
        ⟨cleared (timedOut s.matcher), s.telemetry, s.schedule⟩ := by
    rw [step, expire_of_due due]
    rfl
  exact ⟨t, _, _, acts.trans (step_telemetry_bind hp), rfl⟩

theorem expire_abandon (due : Due ⟨s.matcher.generation, .abandon⟩ s.matcher) (typed : s.matcher.typed ≠ [])
    (active : s.telemetry.active.isSome) : ∃ t resume,
      step (expire ⟨s.matcher.generation, .abandon⟩ : Step Job Unit) s =
        .waiting (.publish .reset) ⟨cleared (timedOut s.matcher), t, s.schedule⟩ resume ∧
      resume (.ok ()) ⟨cleared (timedOut s.matcher), t, s.schedule⟩ =
        .finished (.ok ()) ⟨cleared (timedOut s.matcher), t, s.schedule⟩ := by
  have level : Telemetry.fieldLevels.contains (Text.lower "debug") := by decide
  have data : ∀ e ∈ [("keys", Value.text s.matcher.pendingDisplay)], e.2.text?.isSome := by simp
  obtain ⟨t, hp, -⟩ := Telemetry.record_ok active level data "keys.abandoned"
  have acts : step (expire ⟨s.matcher.generation, .abandon⟩) s = step (do
      askTelemetry (.record "keys.abandoned" "debug" [("keys", .text s.matcher.pendingDisplay)])
      reset : Step Job Unit) ⟨timedOut s.matcher, s.telemetry, s.schedule⟩ := by
    rw [step, expire_of_due due]
    rfl
  have told : step (reset : Step Job Unit) ⟨timedOut s.matcher, t, s.schedule⟩ =
      step (if !s.matcher.typed.isEmpty then ask (.publish .reset) else pure ())
        ⟨cleared (timedOut s.matcher), t, s.schedule⟩ := rfl
  rw [if_pos (by simpa using typed)] at told
  exact ⟨t, _, acts.trans ((step_telemetry_bind (s := ⟨timedOut s.matcher, s.telemetry, s.schedule⟩) hp).trans told), rfl⟩

end Expiries

def reading (now : Float) : (request : Request Job) → Except Failure ((outside Job).Answer request)
  | .clock => .ok now
  | .execute _ => .ok (none : Option Job)
  | .consume _ | .publish _ | .settle .. => .ok ()

def tick (now : Float) (M : Working Job) : Working Job := (M.enterCall operate .process).answer (reading now)

def Timely (s : Clocked) (now : Float) : Prop := s.matcher.hasTimer ∧ ∃ timer ∈ s.schedule.pending, timer.deadline ≤ now

-- A pass over the timers ends the sequence: the command that the keys are bound to is announced and carried out, or else
-- the keys are dropped.
inductive Ends (now : Float) (M : Working Job) : Prop
  | dispatched {node : Keymap.Node} {command : String} {s : Clocked} {before : Past Job}
      (found : M.state.matcher.keymap.root.find? M.state.matcher.path = some node) (bound : node.command = some command)
      (started : s.matcher = cleared (timedOut M.state.matcher)) (empty : s.schedule.pending = [])
      (announced : (tick now M).history =
        .asked (.publish (.dispatch command M.state.matcher.pendingDisplay)) s :: before)
      (carriedOut : ((tick now M).answer (reading now)).history = .asked (.execute command) s ::
        .answered (.publish (.dispatch command M.state.matcher.pendingDisplay)) (.ok ()) :: (tick now M).history)
  | dropped {node : Keymap.Node} {s : Clocked} {before : Past Job}
      (found : M.state.matcher.keymap.root.find? M.state.matcher.path = some node) (unbound : node.command = none)
      (started : s.matcher = cleared (timedOut M.state.matcher)) (empty : s.schedule.pending = [])
      (announced : (tick now M).history = .asked (.publish .reset) s :: before)
      (returned : ((tick now M).answer (reading now)).history = .returned .process (.ok (.fired 1)) s ::
        .answered (.publish .reset) (.ok ()) :: (tick now M).history)

def looked (now : Float) (M : Working Job) : Past Job :=
  .answered .clock (.ok now) :: .asked .clock M.state :: .called .process M.state :: M.history

def counting (run : Run (outside Job) Clocked Nat) : Run (outside Job) Clocked Answer :=
  run.andThen fun outcome => .ofExcept (outcome.map .fired)

theorem tick_eq (now : Float) (M : Working Job) : tick now M = Machine.enter .process M.frames (looked now M)
    (counting (pass (Timer.Schedule.fire (M.state.schedule.due now)) M.state)) := by
  have counts : ∀ program : Program (outside Job) Clocked Nat,
      (do return .fired (← program) : Program (outside Job) Clocked Answer) = fun s => counting (program s) := by
    intro program
    funext s
    refine congrArg (Run.andThen · (program s)) (funext fun outcome => ?_)
    cases outcome <;> rfl
  exact congrArg (fun program => Machine.enter .process M.frames (looked now M) (program M.state)) (counts _)

def firing (run : Run (outside Job) Clocked Unit) : Run (outside Job) Clocked Answer :=
  counting (run.andThen fun outcome => .ofExcept (outcome.map fun _ => 1))

theorem tick_asks {now : Float} {M : Working Job} {request : Request Job} {s : Clocked}
    {resume : Except Failure ((outside Job).Answer request) → Clocked → Run (outside Job) Clocked Unit}
    {next : Run (outside Job) Clocked Unit}
    (ticks : tick now M = Machine.enter .process M.frames (looked now M) (firing (.waiting request s resume)))
    (goesOn : resume (reading now request) s = next) :
    (tick now M).history = .asked request s :: looked now M ∧ (tick now M).answer (reading now) =
      Machine.enter .process M.frames (.answered request (reading now request) :: (tick now M).history) (firing next) := by
  rw [ticks, ← goesOn]
  exact ⟨rfl, rfl⟩

theorem tick_of_not_timely {M : Working Job} (wound : Wound M.state h) {now : Float} (early : ¬Timely M.state now) :
    tick now M = ⟨M.state, M.frames, .returned .process (.ok (.fired 0)) M.state :: looked now M⟩ := by
  have none : M.state.schedule.due now = [] := by
    cases wound with
    | slack slack => simp [Timer.Schedule.due, slack.empty]
    | tight tight =>
      refine List.filter_eq_nil_iff.mpr fun timer hm hd => early ⟨by simp [hasTimer, tight.held], timer, hm, ?_⟩
      simpa using hd
  have idle : tick now M =
      Machine.enter .process M.frames (looked now M) (counting (pass (Timer.Schedule.fire []) M.state)) :=
    none ▸ tick_eq now M
  exact idle

theorem ends_of_timely {M : Working Job} (wound : Wound M.state h) {now : Float} (timely : Timely M.state now) :
    Ends now M := by
  obtain ⟨held, timer, hm, hd⟩ := timely
  cases wound with
  | slack slack => simp [slack.empty] at hm
  | @tight node number now' tight =>
    have due : Due ⟨M.state.matcher.generation, node.command.elim .abandon .dispatch⟩ M.state.matcher := ⟨rfl, held⟩
    have all : M.state.schedule.due now = M.state.schedule.pending := by
      refine List.filter_eq_self.mpr fun timer' hm' => ?_
      rw [tight.waits, List.mem_singleton] at hm hm'
      simpa [hm', ← hm] using hd
    -- The timer goes off, and its callback runs while no timer waits.
    let s : Clocked := { M.state with schedule := { M.state.schedule with pending := [] } }
    have ticks : ∀ run,
        (step (expire ⟨s.matcher.generation, node.command.elim .abandon .dispatch⟩ : Step Job Unit) s) = run →
        tick now M = Machine.enter .process M.frames (looked now M) (firing run) := by
      rintro _ rfl
      rw [tick_eq, all, tight.waits, pass_fire tight.waits, firing]
    cases hc : node.command with
    | some command =>
      rw [hc] at due ticks
      obtain ⟨t, resume, resume', fires, goesOn⟩ := expire_dispatch (s := s) due tight.active
      obtain ⟨announced, answered⟩ := tick_asks (ticks _ fires) goesOn
      exact .dispatched tight.found hc rfl rfl announced (by rw [answered]; rfl)
    | none =>
      rw [hc] at due ticks
      obtain ⟨t, resume, fires, goesOn⟩ := expire_abandon (s := s) due tight.typed tight.active
      obtain ⟨announced, answered⟩ := tick_asks (ticks _ fires) goesOn
      exact .dropped tight.found hc rfl rfl announced (by rw [answered]; rfl)

theorem Ends.asked {now : Float} {M : Working Job} (ends : Ends now M) :
    ∃ request s before, (tick now M).history = .asked request s :: before := by
  cases ends with
  | dispatched _ _ _ _ announced _ => exact ⟨_, _, _, announced⟩
  | dropped _ _ _ _ announced _ => exact ⟨_, _, _, announced⟩

-- A timer waits if and only if one is held, a time to wait after the clock was read at the last key. A pass over the
-- timers ends the sequence if and only if that time has come, and else does nothing.
theorem one_timer {env : Environment} {M : Working Job}
    (reaches : Machine.Reaches operate (soleHost Job) (fresh Job env) M) :
    M.state.schedule.pending.length = (if M.state.matcher.hasTimer then 1 else 0) ∧
    (∀ timer ∈ M.state.schedule.pending, ∃ now, (readings M.history).getLast? = some now ∧
      timer.deadline = now + Float.ofInt M.state.matcher.keymap.timeout / 1000.0) ∧
    ∀ now, (Ends now M ↔ Timely M.state now) ∧ (¬Timely M.state now →
      tick now M = ⟨M.state, M.frames, .returned .process (.ok (.fired 0)) M.state :: looked now M⟩) := by
  have start : Machine.Sound (soleHost Job) (windup Job) (fresh Job env) := .start (.slack ⟨.inr rfl, rfl, rfl⟩)
  have wound : Wound M.state M.history := wound_of_sound (reaches.sound windup_kept start)
  refine ⟨?_, ?_, fun now => ⟨⟨fun ends => ?_, ends_of_timely wound⟩, tick_of_not_timely wound⟩⟩
  case refine_1 =>
    cases wound with
    | slack slack => simp [slack.empty, hasTimer, slack.released]
    | tight tight => simp [tight.waits, hasTimer, tight.held]
  case refine_2 =>
    cases wound with
    | slack slack => simp [slack.empty]
    | tight tight =>
      intro timer hm
      rw [tight.waits, List.mem_singleton] at hm
      exact ⟨_, tight.read, congrArg _ hm⟩
  case refine_3 =>
    by_contra early
    obtain ⟨request, s, before, asked⟩ := ends.asked
    rw [tick_of_not_timely wound early] at asked
    cases asked

def loaded : Working Unit := .serve operate (reading 5) (fresh Unit {}) (.operation (.reload chord))

def begun : Working Unit := .serve operate (reading 5) loaded (.operation (.press ⟨"a", {}, none⟩))

theorem reaches_begun : Machine.Reaches operate (soleHost Unit) (fresh Unit {}) begun := by
  have given : ∀ request, (soleHost Unit).answers request (reading 5 request) := fun _ => trivial
  have new : (fresh Unit {}).Resting := rfl
  have start : Machine.Reaches operate (soleHost Unit) (fresh Unit {}) loaded := .serve given .refl new nofun
  have rest : loaded.Resting := Machine.resting_serve _ _ _
  exact .serve given start rest nofun

instance (s : Clocked) (now : Float) : Decidable (Timely s now) := inferInstanceAs (Decidable (_ ∧ _))

theorem begun_timely : Timely begun.state 5.5 ∧ ¬Timely begun.state 5.25 := by decide +kernel

theorem one_timer_begun : Machine.Reaches operate (soleHost Unit) (fresh Unit {}) begun ∧
    begun.state.schedule.pending.length = 1 ∧ Ends 5.5 begun ∧ ¬Ends 5.25 begun := by
  obtain ⟨count, -, passes⟩ := one_timer reaches_begun
  obtain ⟨late, early⟩ := begun_timely
  rw [if_pos late.left] at count
  exact ⟨reaches_begun, count, (passes 5.5).left.mpr late, fun ends => early ((passes 5.25).left.mp ends)⟩

end Keychord.Matcher.Clocked
