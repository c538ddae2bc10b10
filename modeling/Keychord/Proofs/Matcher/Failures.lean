import Keychord.Proofs.Matcher.Aftermath
import Keychord.Proofs.Matcher.Refinement
import Keychord.Proofs.Matcher.Tasks

namespace Keychord.Matcher

variable {Job α β : Type} {H : Host Job} {K : Pledge Job}

def Past.due (h : Past Job) : List (String × Failure) := (Past.failures h).filter fun failed => !failed.2.isCancellation

structure Even (s : Logged) (h : Past Job) : Prop where
  active : s.telemetry.active.isSome
  told   : Past.reports h = Past.due h
  handed : Past.handed h = (Past.dispatches h).filterMap leftWork

structure Unreported (command : String) (f : Failure) (s : Logged) (h : Past Job) : Prop where
  active : s.telemetry.active.isSome
  told   : (command, f) :: Past.reports h = Past.due h
  handed : Past.handed h = (Past.dispatches h).filterMap leftWork

structure Unhanded (command : String) (job : Job) (s : Logged) (h : Past Job) : Prop where
  active : s.telemetry.active.isSome
  told   : Past.reports h = Past.due h
  handed : (command, job) :: Past.handed h = (Past.dispatches h).filterMap leftWork

theorem due_cons {h h' : Past Job} {command : String} {f : Failure}
    (failed : Past.failures h' = (command, f) :: Past.failures h) :
    Past.due h' = if f.isCancellation then Past.due h else (command, f) :: Past.due h := by
  rw [Past.due, failed, List.filter_cons]
  cases f.isCancellation <;> rfl

structure Host.Dependable (H : Host Job) : Prop extends H.Reserved where
  consume : ∀ press reply, H.answers (.consume press) reply → reply = .ok ()
  disarm  : ∀ timer reply, H.answers (.disarm timer) reply → reply = .ok ()
  publish : ∀ event reply, H.answers (.publish event) reply → reply = .ok ()

theorem Host.Dependable.disarms (dependable : H.Dependable) {outcome : Except Failure Unit} (disarms : H.Disarms outcome) :
    outcome = .ok () := by
  obtain rfl | ⟨timer, given⟩ := disarms
  · rfl
  · exact dependable.disarm timer outcome given

structure Reliable (H : Host Job) (K : Pledge Job) : Prop extends H.Dependable where
  discreet : K.Discreet
  even     : ∀ s h, K.inv s h → Even s h
  handOver : ∀ c request s h, Even s (.asked request s :: h) → K.handOver c request s (.asked request s :: h)

section Steps

variable {c : Call} {s : Logged} {h : Past Job}

theorem Even.drift (even : Even s h) {t : Telemetry} (ha : s.telemetry.Advances t) {m : Matcher} : Even ⟨m, t⟩ h :=
  ⟨ha.active even.active, even.told, even.handed⟩

theorem Even.disarmed (even : Even s h) {h' : Past Job} (hd : Disarmed s h h') {t : Telemetry} (ha : s.telemetry.Advances t)
    {m : Matcher} : Even ⟨m, t⟩ h' := by
  cases hd <;> exact ⟨ha.active even.active, even.told, even.handed⟩

def Withstands (H : Host Job) (K : Pledge Job) (c : Call) (fails : Failure → Past Job → Prop) (step : Step Job α) : Prop :=
  ∀ s h, Even s h → Ensures H K c step (fun outcome s h => (∀ f, outcome = .error f → fails f h) ∧ Even s h) s h

variable {fails : Failure → Past Job → Prop}

namespace Withstands

theorem pure (a : α) : Withstands H K c fails (Pure.pure a) := fun _ _ even => ⟨nofun, even⟩

theorem bind {first : Step Job α} {next : α → Step Job β} (hf : Withstands H K c fails first)
    (hn : ∀ a, Withstands H K c fails (next a)) : Withstands H K c fails (first >>= next) := by
  intro s h even
  refine ensures_bind.mpr ((hf s h even).mono fun outcome s' h' after => ?_)
  cases outcome with
  | ok a => exact hn a s' h' after.right
  | error f => exact ⟨by rintro _ ⟨⟩; exact after.left f rfl, after.right⟩

theorem ite {p : Prop} [Decidable p] {first second : Step Job α} (hf : Withstands H K c fails first)
    (hs : Withstands H K c fails second) : Withstands H K c fails (if p then first else second) := by
  split <;> assumption

end Withstands

theorem Withstands.sure {step : Step Job α} (hs : Withstands H K c (fun _ _ => False) step) (even : Even s h) :
    Ensures H K c step (fun outcome s h => (∃ a, outcome = .ok a) ∧ Even s h) s h := by
  refine (hs s h even).mono ?_
  rintro (f | a) s' h' ⟨never, even⟩
  · exact (never f rfl).elim
  · exact ⟨⟨a, rfl⟩, even⟩

theorem withstands_get : Withstands H K c fails (get : Step Job Matcher) := fun _ _ even => ⟨nofun, even⟩

theorem withstands_modify (f : Matcher → Matcher) : Withstands H K c fails (modify f : Step Job PUnit) :=
  fun _ _ even => ⟨nofun, even.active, even.told, even.handed⟩

theorem ensures_record (active : s.telemetry.active.isSome) (name : String) {level : String}
    (hl : Telemetry.fieldLevels.contains (Text.lower level)) {data : List (String × Value)}
    (hd : ∀ e ∈ data, e.2.text?.isSome) {Q : Except Failure Unit → Logged → Past Job → Prop}
    (hq : ∀ t, s.telemetry.Advances t → Q (.ok ()) ⟨s.matcher, t⟩ h) :
    Ensures H K c (askTelemetry (.record name level data)) Q s h := by
  obtain ⟨t, hp, hm⟩ := Telemetry.record_ok active hl hd name
  exact ensures_of_perform hp (hq t hm)

theorem withstands_record (name : String) {level : String} (hl : Telemetry.fieldLevels.contains (Text.lower level))
    {data : List (String × Value)} (hd : ∀ e ∈ data, e.2.text?.isSome) :
    Withstands H K c fails (askTelemetry (.record name level data) : Step Job Unit) :=
  fun _ _ even => ensures_record even.active name hl hd fun _ ha => ⟨nofun, even.drift ha⟩

theorem withstands_consume (reliable : Reliable H K) (press : Press) :
    Withstands H K c fails (ask (.consume press) : Step Job Unit) := by
  intro s h even
  refine ensures_plain reliable.toReserved reliable.discreet (.consume press) trivial fun reply t given ha => ?_
  obtain rfl := reliable.consume press reply given
  exact ⟨nofun, ha.active even.active, even.told, even.handed⟩

theorem withstands_disarm (reliable : Reliable H K) (timer : Nat) :
    Withstands H K c fails (ask (.disarm timer) : Step Job Unit) := by
  intro s h even
  refine ensures_plain reliable.toReserved reliable.discreet (.disarm timer) trivial fun reply t given ha => ?_
  obtain rfl := reliable.disarm timer reply given
  exact ⟨nofun, ha.active even.active, even.told, even.handed⟩

def Host.Refuses (H : Host Job) (fails : Failure → Past Job → Prop) : Prop :=
  ∀ delay expiry f before, H.answers (.arm delay expiry) (.error f) →
    fails f (.answered (.arm delay expiry) (.error f) :: before)

def Host.Cancels (H : Host Job) (fails : Failure → Past Job → Prop) : Prop :=
  ∀ request f before, request.IsCommand → f.isCancellation → H.answers request (.error f) →
    fails f (.answered request (.error f) :: before)

theorem Host.Cancels.mono {fails' : Failure → Past Job → Prop} (cancels : H.Cancels fails)
    (hf : ∀ f h, fails f h → fails' f h) : H.Cancels fails' :=
  fun request f before command hc given => hf _ _ (cancels request f before command hc given)

theorem withstands_arm (reliable : Reliable H K) (refuses : H.Refuses fails) (delay : Int) (expiry : Expiry) :
    Withstands H K c fails (ask (.arm delay expiry) : Step Job Nat) := by
  intro s h even
  refine ensures_plain reliable.toReserved reliable.discreet (.arm delay expiry) trivial fun reply t given ha => ?_
  refine ⟨?_, ha.active even.active, even.told, even.handed⟩
  rintro f rfl
  exact refuses delay expiry f _ given

theorem ensures_handed (reliable : Reliable H K) (request : Request Job) (hs : request.IsShown)
    (even : Even s (.asked request s :: h))
    {Q : Except Failure ((surroundings Job).Answer request) → Logged → Past Job → Prop}
    (hq : ∀ reply s' h', H.answers request reply → Even s' h' → Q reply s' (.answered request reply :: h')) :
    Ensures H K c (ask request) Q s h := by
  refine (ensures_ask (by rintro op rfl; exact hs)).mpr ⟨reliable.handOver c request s h even, ?_⟩
  intro reply s' h' given meanwhile
  by_cases opens : H.Opens c request
  case pos => exact hq reply s' h' given (reliable.even _ _ (meanwhile.opened opens))
  case neg =>
    obtain ⟨hd, rfl⟩ := meanwhile.closed opens
    exact hq reply s' _ given (even.drift (reliable.drifted hd).right)

theorem withstands_publish (reliable : Reliable H K) (event : Event) (he : ∀ command f, event ≠ .failed command f) :
    Withstands H K c fails (ask (.publish event) : Step Job Unit) := by
  intro s h even
  have asked : Even s (.asked (.publish event) s :: h) := by
    cases event with
    | failed command f => exact absurd rfl (he command f)
    | _ => exact ⟨even.active, even.told, even.handed⟩
  refine ensures_handed reliable (.publish event) trivial asked fun reply s' h' given even => ?_
  obtain rfl := reliable.publish event reply given
  exact ⟨nofun, even.active, even.told, even.handed⟩

theorem ensures_reportFailure (reliable : Reliable H K) {command : String} {f : Failure}
    (unreported : Unreported command f s h) :
    Ensures H K c (reportFailure command f) (fun outcome s h => (∃ a, outcome = .ok a) ∧ Even s h) s h := by
  refine ensures_bind.mpr (ensures_record unreported.active "keys.dispatch_failed" (by decide) ?_ fun t ha => ?_)
  case refine_1 => simp
  case refine_2 =>
    have asked : Even ⟨s.matcher, t⟩ (.asked (.publish (.failed command f)) ⟨s.matcher, t⟩ :: h) :=
      ⟨ha.active unreported.active, unreported.told, unreported.handed⟩
    refine ensures_handed reliable (.publish (.failed command f)) trivial asked fun reply s' h' given even => ?_
    obtain rfl := reliable.publish _ reply given
    exact ⟨⟨(), rfl⟩, even.active, even.told, even.handed⟩

theorem ensures_reportIfFailed (reliable : Reliable H K) (command : String) {step : Step Job α}
    {Q : Option α → Logged → Past Job → Prop}
    (hs : Ensures H K c step (fun outcome s h => (∀ a, outcome = .ok a → Q (some a) s h) ∧ ∀ f, outcome = .error f →
      (f.isCancellation → fails f h ∧ Even s h) ∧ (¬f.isCancellation → Unreported command f s h)) s h)
    (hq : ∀ s h, Even s h → Q none s h) :
    Ensures H K c (reportIfFailed command step) (fun outcome s h => (∀ a, outcome = .ok a → Q a s h) ∧
      ∀ f, outcome = .error f → fails f h ∧ Even s h) s h := by
  refine ensures_bind.mpr (ensures_attempt.mpr (hs.mono ?_))
  rintro outcome s' h' ⟨done, failed⟩
  cases outcome with
  | ok a =>
    refine ⟨?_, nofun⟩
    rintro _ ⟨⟩
    exact done a rfl
  | error f =>
    obtain ⟨cancelled, unreported⟩ := failed f rfl
    refine ensures_ite.mpr ?_
    split
    case isTrue hc =>
      refine ⟨nofun, ?_⟩
      rintro _ ⟨⟩
      exact cancelled hc
    case isFalse hc =>
      refine ensures_bind.mpr ((ensures_reportFailure reliable (unreported hc)).mono ?_)
      rintro _ s h ⟨⟨a, rfl⟩, even⟩
      refine ⟨?_, nofun⟩
      rintro _ ⟨⟩
      exact hq s h even

def Left (command : String) (work : Option (Option Job)) (s : Logged) (h : Past Job) : Prop :=
  match work with
  | some (some job) => Unhanded command job s h
  | _ => Even s h

theorem ensures_execute (reliable : Reliable H K) (cancels : H.Cancels fails) (even : Even s h) (command : String) :
    Ensures H K c (reportIfFailed command (ask (.execute command))) (fun outcome s h =>
      (∀ work, outcome = .ok work → Left command work s h) ∧ ∀ f, outcome = .error f → fails f h ∧ Even s h) s h := by
  refine ensures_reportIfFailed reliable command (Q := Left command) ?_ fun s h even => even
  have asked : Even s (.asked (.execute command) s :: h) := ⟨even.active, even.told, even.handed⟩
  refine ensures_handed reliable (.execute command) trivial asked fun reply s' h' given even => ⟨?_, ?_⟩
  case refine_1 =>
    rintro (_ | job) rfl
    · exact ⟨even.active, even.told, even.handed⟩
    · exact ⟨even.active, even.told, congrArg ((command, job) :: ·) even.handed⟩
  case refine_2 =>
    rintro f rfl
    have due : Past.due (.answered (.execute command) (.error f) :: h') =
        if f.isCancellation then Past.due h' else (command, f) :: Past.due h' := due_cons rfl
    refine ⟨fun hc => ⟨cancels (.execute command) f _ trivial hc given, even.active, ?_, even.handed⟩,
      fun hc => ⟨even.active, ?_, even.handed⟩⟩
    · rw [due, if_pos hc]; exact even.told
    · rw [due, if_neg hc]; exact congrArg ((command, f) :: ·) even.told

theorem ensures_settle (reliable : Reliable H K) (cancels : H.Cancels fails) {command : String} {job : Job}
    (unhanded : Unhanded command job s h) :
    Ensures H K c (reportIfFailed command (ask (.settle command job))) (fun outcome s h =>
      (∀ a, outcome = .ok a → Even s h) ∧ ∀ f, outcome = .error f → fails f h ∧ Even s h) s h := by
  refine ensures_reportIfFailed reliable command (Q := fun _ => Even) ?_ fun _ _ even => even
  have asked : Even s (.asked (.settle command job) s :: h) := ⟨unhanded.active, unhanded.told, unhanded.handed⟩
  refine ensures_handed reliable (.settle command job) trivial asked fun reply s' h' given even => ⟨?_, ?_⟩
  case refine_1 =>
    rintro _ rfl
    exact ⟨even.active, even.told, even.handed⟩
  case refine_2 =>
    rintro f rfl
    have due : Past.due (.answered (.settle command job) (.error f) :: h') =
        if f.isCancellation then Past.due h' else (command, f) :: Past.due h' := due_cons rfl
    refine ⟨fun hc => ⟨cancels (.settle command job) f _ trivial hc given, even.active, ?_, even.handed⟩,
      fun hc => ⟨even.active, ?_, even.handed⟩⟩
    · rw [due, if_pos hc]; exact even.told
    · rw [due, if_neg hc]; exact congrArg ((command, f) :: ·) even.told

theorem withstands_cancelTimer (reliable : Reliable H K) : Withstands H K c fails (cancelTimer : Step Job Unit) := by
  refine .bind (withstands_modify _) fun _ => .bind withstands_get fun m => ?_
  cases m.timer with
  | none => exact .pure ()
  | some timer => exact .bind (withstands_modify _) fun _ => withstands_disarm reliable timer

theorem withstands_startTimer (reliable : Reliable H K) (refuses : H.Refuses fails) (action : Action) :
    Withstands H K c fails (startTimer action : Step Job Unit) :=
  .bind (withstands_cancelTimer reliable) fun _ => .bind withstands_get fun m =>
    .bind (withstands_arm reliable refuses m.keymap.timeout ⟨m.generation, action⟩) fun _ => withstands_modify _

theorem withstands_clear (reliable : Reliable H K) : Withstands H K c fails (clear : Step Job Unit) :=
  .bind (withstands_cancelTimer reliable) fun _ => withstands_modify _

theorem withstands_reset (reliable : Reliable H K) : Withstands H K c fails (reset : Step Job Unit) :=
  .bind withstands_get fun _ => .bind (withstands_clear reliable) fun _ =>
    .ite (withstands_publish reliable .reset (by simp)) (.pure _)

theorem withstands_dispatch (reliable : Reliable H K) (cancels : H.Cancels fails) (command : String) :
    Withstands H K c fails (dispatch command : Step Job Unit) := by
  refine .bind withstands_get fun m => .bind (withstands_clear reliable) fun _ => ?_
  refine .bind (withstands_record "keys.dispatch" (by decide) (by simp)) fun _ => ?_
  refine .bind (withstands_publish reliable (.dispatch command m.pendingDisplay) (by simp)) fun _ s h even => ?_
  refine ensures_bind.mpr ((ensures_execute reliable cancels even command).mono ?_)
  rintro (f | work) s' h' ⟨left, passed⟩
  case error =>
    obtain ⟨hf, even⟩ := passed f rfl
    refine ⟨?_, even⟩
    rintro _ ⟨⟩
    exact hf
  case ok =>
    have left := left work rfl
    rcases work with _ | _ | job
    · exact ⟨nofun, left⟩
    · exact ⟨nofun, left⟩
    · refine ensures_bind.mpr ((ensures_settle reliable cancels left).mono ?_)
      rintro (f | _) s h ⟨settled, passed⟩
      · obtain ⟨hf, even⟩ := passed f rfl
        refine ⟨?_, even⟩
        rintro _ ⟨⟩
        exact hf
      · exact ⟨nofun, settled _ rfl⟩

theorem withstands_abandon (reliable : Reliable H K) : Withstands H K c fails (abandon : Step Job Unit) :=
  .bind withstands_get fun _ => .bind (withstands_record "keys.abandoned" (by decide) (by simp)) fun _ =>
    withstands_reset reliable

theorem withstands_expire (reliable : Reliable H K) (cancels : H.Cancels fails) (expiry : Expiry) :
    Withstands H K c fails (expire expiry : Step Job Unit) := by
  refine .bind withstands_get fun m => .ite (.bind (withstands_modify _) fun _ => ?_) (.pure _)
  cases expiry.action with
  | dispatch command => exact withstands_dispatch reliable cancels command
  | abandon => exact withstands_abandon reliable

theorem withstands_arrive (reliable : Reliable H K) (refuses : H.Refuses fails) (cancels : H.Cancels fails)
    (node : Keymap.Node) : Withstands H K c fails (arrive node : Step Job Unit) := by
  rw [arrive]
  split
  · exact withstands_dispatch reliable cancels _
  · exact .bind (withstands_startTimer reliable refuses _) fun _ => .bind withstands_get fun m =>
      withstands_publish reliable _ (by simp)

theorem withstands_followOr (reliable : Reliable H K) (refuses : H.Refuses fails) (cancels : H.Cancels fails)
    (press : Press) (key : Key) {otherwise : Step Job Bool} (ho : Withstands H K c fails otherwise) :
    Withstands H K c fails (followOr press key otherwise) := by
  refine .bind withstands_get fun m => ?_
  dsimp only
  split
  case h_1 node _ =>
    exact .bind (withstands_cancelTimer reliable) fun _ => .bind (withstands_consume reliable press) fun _ =>
      .bind (withstands_modify _) fun _ => .bind (withstands_arrive reliable refuses cancels node) fun _ => .pure _
  case h_2 => exact .ite (.pure _) (.bind (withstands_reset reliable) fun _ => ho)

theorem ensures_span {m : Matcher} {key : Key} {body : Step Job Bool} {Q : Except Failure Bool → Logged → Past Job → Prop}
    (active : s.telemetry.active.isSome)
    (hb : ∀ t, s.telemetry.Advances t → Ensures H K c body (fun outcome s' h' =>
      ∀ t', s'.telemetry.Advances t' → Q outcome ⟨s'.matcher, t'⟩ h') ⟨s.matcher, t⟩ h) :
    Ensures H K c (Telemetry.around askTelemetry (keySpan m key) body) Q s h := by
  obtain ⟨span, t, hp, ha⟩ := Telemetry.openSpan_ok (.inl active) (keySpan_texts m key)
  have legible : ∀ key ∈ span.metadata.entries.map Prod.fst, key.text?.isSome := by
    rw [Telemetry.openSpan_keys hp]
    simp [keySpan]
  refine ensures_bind.mpr (ensures_of_perform hp (ensures_bind.mpr (ensures_tryCatch.mpr ((hb t ha).mono ?_))))
  intro outcome s₁ h₁ closes
  cases outcome with
  | ok handled =>
    obtain ⟨t', hp', ha'⟩ := Telemetry.closeSpan_legible legible none s₁.telemetry
    exact ensures_bind.mpr (ensures_of_perform hp' (closes t' ha'))
  | error f =>
    obtain ⟨t', hp', ha'⟩ := Telemetry.closeSpan_legible legible (some f) s₁.telemetry
    exact ensures_bind.mpr (ensures_of_perform hp' (closes t' ha'))

theorem withstands_handle (reliable : Reliable H K) (refuses : H.Refuses fails) (cancels : H.Cancels fails)
    (press : Press) : Withstands H K c fails (handle press : Step Job Bool) := by
  refine .ite (.pure _) ?_
  cases press.toKey? with
  | none => exact .pure _
  | some key =>
    refine .bind withstands_get fun m s h even => ensures_span even.active fun t ha => ?_
    have followed : Withstands H K c fails (follow press key) := withstands_followOr reliable refuses cancels press key
      (withstands_followOr reliable refuses cancels press key (.pure _))
    exact (followed _ _ (even.drift ha)).mono fun outcome s₁ h₁ ⟨passed, even⟩ t' ha' => ⟨passed, even.drift ha'⟩

theorem even_reload (reliable : Reliable H K) (even : Even s h) (config : Config) :
    Ensures H K c (reload config) (fun _ s h => Even s h) s h := by
  refine ensures_bind.mpr ((ensures_compileTraced _ _ _).mono ?_)
  rintro outcome ⟨_, t⟩ h ⟨rfl, rfl, ha, -⟩
  have even : Even ⟨s.matcher, t⟩ h := even.drift ha
  cases outcome with
  | error f => exact even
  | ok keymap =>
    refine ensures_bind.mpr (((withstands_reset reliable).sure even).mono ?_)
    rintro _ s' h' ⟨⟨_, rfl⟩, even⟩
    refine ensures_bind.mpr (ensures_modify.mpr (then_ok.mpr ?_))
    exact ensures_performed fun _ t' _ ha' => ⟨ha'.active even.active, even.told, even.handed⟩

-- What is told of a task that has failed is reported. That it has been cancelled is not.
theorem ensures_settled (reliable : Reliable H K) (even : Even s h) (command : String) (outcome : Except Failure Unit) :
    Ensures H K c (settled command outcome) (fun ended s h => (∃ a, ended = .ok a) ∧ Even s h) s
      (.called (.settled command outcome) s :: h) := by
  cases outcome with
  | ok _ => exact ⟨⟨(), rfl⟩, even.active, even.told, even.handed⟩
  | error f =>
    have due : Past.due (.called (.settled command (.error f)) s :: h) =
        if f.isCancellation then Past.due h else (command, f) :: Past.due h := due_cons rfl
    refine ensures_ite.mpr ?_
    split
    case isTrue hc =>
      have unreported : Unreported command f s (.called (.settled command (.error f)) s :: h) := by
        refine ⟨even.active, ?_, even.handed⟩
        rw [due, if_neg (by simpa using hc)]
        exact congrArg ((command, f) :: ·) even.told
      exact ensures_reportFailure reliable unreported
    case isFalse hc =>
      refine ⟨⟨(), rfl⟩, even.active, ?_, even.handed⟩
      rw [due, if_pos (by simpa using hc)]
      exact even.told

-- A press is answered unless a timer was refused or a command cancelled, and a callback returns unless a command was. A
-- reload may fail. No other call does.
def Call.Succeeds (refused cancelled : Failure → Past Job → Prop) : Call → Except Failure (Option Bool) → Past Job → Prop
  | .press _, outcome, h =>
    (∃ handled, outcome = .ok (some handled)) ∨ ∃ f, outcome = .error f ∧ (refused f h ∨ cancelled f h)
  | .expire _, outcome, h => outcome = .ok none ∨ ∃ f, outcome = .error f ∧ cancelled f h
  | .reload _, _, _ => True
  | _, outcome, _ => outcome = .ok none

theorem ensures_call (reliable : Reliable H K) {refused cancelled : Failure → Past Job → Prop} (refuses : H.Refuses refused)
    (cancels : H.Cancels cancelled) (even : Even s h) (call : Call) :
    Ensures H K call call.step (fun outcome s' h' => Even s' h' ∧ call.Succeeds refused cancelled outcome h') s
      (.called call s :: h) := by
  -- Calls without an answer of their own return once their step has.
  have returns : ∀ {step : Step Job Unit} {h₀}, (∀ h : Past Job, call.Succeeds refused cancelled (.ok none) h) →
      Ensures H K call step (fun outcome s h => (∃ a, outcome = .ok a) ∧ Even s h) s h₀ →
      Ensures H K call (do step; return none)
        (fun outcome s' h' => Even s' h' ∧ call.Succeeds refused cancelled outcome h') s h₀ := by
    intro step h₀ succeeds hs
    refine ensures_bind.mpr (hs.mono ?_)
    rintro _ s' h' ⟨⟨_, rfl⟩, even⟩
    exact ⟨even, succeeds h'⟩
  cases call with
  | press press =>
    have called : Even s (.called (.press press) s :: h) := ⟨even.active, even.told, even.handed⟩
    have withstands : Withstands H K (.press press) (fun f h => refused f h ∨ cancelled f h) (handle press) :=
      withstands_handle reliable (fun _ _ _ _ given => .inl (refuses _ _ _ _ given)) (cancels.mono fun _ _ => .inr) press
    refine ensures_bind.mpr ((withstands _ _ called).mono ?_)
    rintro (f | handled) s' h' ⟨passed, even⟩
    · exact ⟨even, .inr ⟨f, rfl, passed f rfl⟩⟩
    · exact ⟨even, .inl ⟨handled, rfl⟩⟩
  | expire expiry =>
    have called : Even s (.called (.expire expiry) s :: h) := ⟨even.active, even.told, even.handed⟩
    refine ensures_bind.mpr ((withstands_expire reliable cancels expiry _ _ called).mono ?_)
    rintro (f | _) s' h' ⟨passed, even⟩
    · exact ⟨even, .inr ⟨f, rfl, passed f rfl⟩⟩
    · exact ⟨even, .inl rfl⟩
  | reset =>
    have called : Even s (.called .reset s :: h) := ⟨even.active, even.told, even.handed⟩
    exact returns (fun _ => rfl) ((withstands_reset reliable).sure called)
  | close =>
    have called : Even s (.called .close s :: h) := ⟨even.active, even.told, even.handed⟩
    exact returns (fun _ => rfl) ((withstands_reset reliable).sure called)
  | reload config =>
    have called : Even s (.called (.reload config) s :: h) := ⟨even.active, even.told, even.handed⟩
    refine ensures_bind.mpr ((even_reload reliable called config).mono fun outcome s' h' even => ?_)
    cases outcome <;> exact ⟨even, trivial⟩
  | settled command outcome => exact returns (fun _ => rfl) (ensures_settled reliable even command outcome)

end Steps

section Isolation

variable {looped : Bool} {result : Job → Except Failure Unit}

-- Surroundings in which commands come to any end, though only the work that they leave is cancelled. Timers may be
-- refused, and all others return. Anybody calls what they like while control is handed on. Of a task it is told once
-- that it has come to its end.
def taskHost (looped : Bool) (result : Job → Except Failure Unit) : Host Job where
  calls call _ h := ∀ command outcome, call = .settled command outcome →
    ((command, outcome) :: Past.settlements h).Subperm ((Past.tasks looped h).map (ending result))
  during _ request _ := request.IsShown
  answers request reply :=
    match request with
    | .telemetry _ | .arm .. => True
    | .execute _ => ∀ f, reply = .error f → ¬f.isCancellation
    | .settle _ job => reply = .ok () ∨ reply = result job
    | _ => ∃ answer, reply = .ok answer
  drifts s s' := s'.matcher = s.matcher ∧ s.telemetry.Use s'.telemetry

def Lasting (result : Job → Except Failure Unit) : Prop := ∀ job f, result job = .error f → ¬f.isCancellation

def Interrupted (f : Failure) (h : Past Job) : Prop :=
  f.isCancellation ∧ ∃ command job before, h = .answered (.settle command job) (.error f) :: before

theorem taskHost_refuses : (taskHost looped result).Refuses Refused :=
  fun delay expiry _ before _ => ⟨delay, expiry, before, rfl⟩

theorem taskHost_cancels : (taskHost looped result).Cancels Interrupted := by
  intro request f before carries hc given
  cases request with
  | execute => exact absurd hc (given f rfl)
  | settle command job => exact ⟨hc, command, job, before, rfl⟩
  | _ => exact carries.elim

theorem not_interrupted (lasting : Lasting result) {h before : Past Job}
    (allowed : History.Always (taskHost looped result).Allows h) (hs : before <:+ h) (f : Failure) :
    ¬Interrupted f before := by
  rintro ⟨hc, command, job, earlier, rfl⟩
  obtain done | failed := allowed _ earlier hs
  · cases done
  · exact lasting job f failed.symm hc

theorem due_eq_failures (lasting : Lasting result) {h : Past Job}
    (allowed : History.Always (taskHost looped result).Allows h) :
    Past.due h = Past.failures h := by
  induction h with
  | nil => rfl
  | cons sight h ih =>
    have ih := ih (allowed.of_suffix (List.suffix_cons _ _))
    have new := allowed sight h List.suffix_rfl
    have counts : ∀ command f, ¬f.isCancellation → Past.failures (sight :: h) = (command, f) :: Past.failures h →
        Past.due (sight :: h) = Past.failures (sight :: h) := by
      intro command f hc failed
      rw [due_cons failed, if_neg hc, ih, failed]
    cases sight with
    | called call s =>
      rcases call with _ | _ | _ | _ | _ | ⟨command, f | _⟩
      case settled.error =>
        obtain ⟨⟨_, job⟩, -, he⟩ := List.mem_map.mp ((new command _ rfl).subset List.mem_cons_self)
        exact counts command f (lasting job f (congrArg Prod.snd he)) rfl
      all_goals exact ih
    | answered request reply =>
      cases request with
      | execute command =>
        cases reply with
        | ok => exact ih
        | error f => exact counts command f (new f rfl) rfl
      | settle command job =>
        cases reply with
        | ok => exact ih
        | error f => exact counts command f (lasting job f (new.resolve_left nofun).symm) rfl
      | _ => exact ih
    | _ => exact ih

def Succeeded (h : Past Job) : Prop :=
  ∀ call outcome s before, h = .returned call outcome s :: before → call.Succeeds Refused Interrupted outcome before

def isolating (Job : Type) : Pledge Job where
  inv s h := Even s h ∧ Succeeded h
  handOver _ request s h := request.IsShown → Even s h ∧ Succeeded h

theorem succeeded_asked (request : Request Job) (s : Logged) (h : Past Job) : Succeeded (.asked request s :: h) := by
  rintro _ _ _ _ ⟨⟩

theorem isolating_reliable : Reliable (taskHost looped result) (isolating Job) where
  opens := fun _ _ ⟨_, hs⟩ => hs
  drifts := fun _ _ hd => hd
  consume := fun _ _ ⟨_, he⟩ => he
  disarm := fun _ _ ⟨_, he⟩ => he
  publish := fun _ _ ⟨_, he⟩ => he
  discreet := fun _ _ _ _ hn hs => absurd hs hn
  even := fun _ _ hi => hi.left
  handOver := fun _ request s h even _ => ⟨even, succeeded_asked request s h⟩

-- Wherever others may call, every failure has been reported, and calls have returned.
theorem isolating_kept : (isolating Job).Kept operate (taskHost looped result) where
  meets := by
    intro call s h made ⟨even, _⟩
    refine Ensures.mono (ensures_call isolating_reliable taskHost_refuses taskHost_cancels even call) ?_
    rintro outcome s' h' ⟨even, succeeds⟩
    refine ⟨⟨even.active, even.told, even.handed⟩, ?_⟩
    rintro _ _ _ _ ⟨⟩
    exact succeeds
  opens := fun _ _ _ _ ⟨_, hs⟩ hh => hh hs
  drifts := by
    rintro s ⟨_, t⟩ h ⟨rfl, hu⟩ ⟨even, succeeded⟩
    exact ⟨even.drift hu.advances, succeeded⟩

end Isolation

end Keychord.Matcher
