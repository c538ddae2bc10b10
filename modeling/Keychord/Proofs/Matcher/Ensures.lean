import Keychord.Proofs.Matcher.Work

namespace Keychord.Matcher

open Relation (ReflTransGen)

variable {Job α β : Type} {H : Host Job} {K : Pledge Job} {c : Call} {s : Logged} {h : Past Job}

def Ensures (H : Host Job) (K : Pledge Job) (c : Call) (step : Step Job α)
    (Q : Except Failure α → Logged → Past Job → Prop) (s : Logged) (h : Past Job) : Prop :=
  (Logged.step step s).Meets H K c Q h

theorem Ensures.mono {step : Step Job α} {Q Q' : Except Failure α → Logged → Past Job → Prop}
    (e : Ensures H K c step Q s h) (hq : ∀ outcome s h, Q outcome s h → Q' outcome s h) :
    Ensures H K c step Q' s h :=
  Run.Meets.mono e hq

section Steps

variable {Q : Except Failure α → Logged → Past Job → Prop}

@[simp]
theorem ensures_pure {a : α} : Ensures H K c (pure a) Q s h ↔ Q (.ok a) s h := Iff.rfl

def Then (H : Host Job) (K : Pledge Job) (c : Call) (next : α → Step Job β)
    (Q : Except Failure β → Logged → Past Job → Prop) : Except Failure α → Logged → Past Job → Prop
  | .ok a => Ensures H K c (next a) Q
  | .error f => Q (.error f)

@[simp]
theorem then_ok {next : α → Step Job β} {Q : Except Failure β → Logged → Past Job → Prop} {a : α} :
    Then H K c next Q (.ok a) s h ↔ Ensures H K c (next a) Q s h := Iff.rfl

theorem ensures_andThen {step : Step Job α} {next : Except Failure α → Step Job β}
    {Q : Except Failure β → Logged → Past Job → Prop} :
    Ensures H K c (fun m => (step m).andThen next) Q s h ↔
      Ensures H K c step (fun outcome s h => Ensures H K c (next outcome) Q s h) s h :=
  (iff_of_eq (congrArg (Run.Meets H K c Q · h) (Logged.run_andThen (step s.matcher) next s.telemetry))).trans
    Run.meets_andThen

@[simp]
theorem ensures_bind {first : Step Job α} {next : α → Step Job β}
    {Q : Except Failure β → Logged → Past Job → Prop} :
    Ensures H K c (first >>= next) Q s h ↔ Ensures H K c first (Then H K c next Q) s h := by
  refine ensures_andThen.trans (iff_of_eq (congrArg (Ensures H K c first · s h) (funext fun outcome => ?_)))
  cases outcome <;> rfl

@[simp]
theorem ensures_tryCatch {step : Step Job α} {handler : Failure → Step Job α} :
    Ensures H K c (tryCatchThe Failure step handler) Q s h ↔ Ensures H K c step (fun outcome s h =>
      match outcome with
      | .ok a => Q (.ok a) s h
      | .error f => Ensures H K c (handler f) Q s h) s h := by
  refine ensures_andThen.trans (iff_of_eq (congrArg (Ensures H K c step · s h) (funext fun outcome => ?_)))
  cases outcome <;> rfl

@[simp]
theorem ensures_attempt {step : Step Job α} {Q : Except Failure (Except Failure α) → Logged → Past Job → Prop} :
    Ensures H K c step.attempt Q s h ↔ Ensures H K c step (fun outcome s h => Q (.ok outcome) s h) s h :=
  ensures_andThen

@[simp]
theorem ensures_get {Q : Except Failure Matcher → Logged → Past Job → Prop} :
    Ensures H K c get Q s h ↔ Q (.ok s.matcher) s h := Iff.rfl

@[simp]
theorem ensures_modify {f : Matcher → Matcher} {Q : Except Failure PUnit → Logged → Past Job → Prop} :
    Ensures H K c (modify f) Q s h ↔ Q (.ok ()) { s with matcher := f s.matcher } h := Iff.rfl

@[simp]
theorem ensures_telemetry {op : Telemetry.Op} {Q : Except Failure op.Answer → Logged → Past Job → Prop} :
    Ensures H K c (askTelemetry op) Q s h ↔
      Q (Telemetry.perform op s.telemetry).1 { s with telemetry := (Telemetry.perform op s.telemetry).2 } h :=
  Iff.rfl

theorem ensures_of_perform {op : Telemetry.Op} {Q : Except Failure op.Answer → Logged → Past Job → Prop}
    {outcome : Except Failure op.Answer} {t : Telemetry} (hp : Telemetry.perform op s.telemetry = (outcome, t))
    (hq : Q outcome ⟨s.matcher, t⟩ h) : Ensures H K c (askTelemetry op) Q s h := by
  rw [ensures_telemetry, hp]
  exact hq

theorem ensures_performed {op : Telemetry.Op} {Q : Except Failure op.Answer → Logged → Past Job → Prop}
    (hq : ∀ outcome t, Telemetry.perform op s.telemetry = (outcome, t) → s.telemetry.Advances t →
      Q outcome ⟨s.matcher, t⟩ h) : Ensures H K c (askTelemetry op) Q s h :=
  ensures_of_perform rfl (hq _ _ rfl (Telemetry.perform_moves op _))

theorem ensures_get_bind {next : Matcher → Step Job α} :
    Ensures H K c (get >>= next) Q s h ↔ Ensures H K c (next s.matcher) Q s h := Iff.rfl

theorem ensures_ite {p : Prop} [Decidable p] {first second : Step Job α} :
    Ensures H K c (if p then first else second) Q s h ↔
      if p then Ensures H K c first Q s h else Ensures H K c second Q s h := by
  by_cases hp : p
  · rw [if_pos hp, if_pos hp]
  · rw [if_neg hp, if_neg hp]

theorem ensures_ask {request : Request Job} (hr : ∀ op, request ≠ .telemetry op)
    {Q : Except Failure ((surroundings Job).Answer request) → Logged → Past Job → Prop} :
    Ensures H K c (ask request) Q s h ↔ K.handOver c request s (.asked request s :: h) ∧
      ∀ reply s' h', H.answers request reply → H.Meanwhile K.inv c request s (.asked request s :: h) s' h' →
        Q reply s' (.answered request reply :: h') := by
  cases request with
  | telemetry op => exact absurd rfl (hr op)
  | _ => rfl

end Steps

def Pledge.Discreet (K : Pledge Job) : Prop := ∀ c request s h, ¬request.IsShown → K.handOver c request s h

section Requests

theorem ensures_closed (reserved : H.Reserved) {request : Request Job} (hr : ∀ op, request ≠ .telemetry op)
    (hc : ¬H.Opens c request) {Q : Except Failure ((surroundings Job).Answer request) → Logged → Past Job → Prop}
    (ho : K.handOver c request s (.asked request s :: h))
    (hq : ∀ reply t, H.answers request reply → s.telemetry.Advances t →
      Q reply ⟨s.matcher, t⟩ (.answered request reply :: .asked request s :: h)) :
    Ensures H K c (ask request) Q s h := by
  refine (ensures_ask hr).mpr ⟨ho, fun reply ⟨m, t⟩ h' ha meanwhile => ?_⟩
  obtain ⟨hd, rfl⟩ := meanwhile.closed hc
  obtain ⟨rfl, ht⟩ := reserved.drifted hd
  exact hq reply t ha ht

theorem ensures_plain (reserved : H.Reserved) (discreet : K.Discreet) (request : Request Job) (hp : request.IsPlain)
    {Q : Except Failure ((surroundings Job).Answer request) → Logged → Past Job → Prop}
    (hq : ∀ reply t, H.answers request reply → s.telemetry.Advances t →
      Q reply ⟨s.matcher, t⟩ (.answered request reply :: .asked request s :: h)) :
    Ensures H K c (ask request) Q s h := by
  have hs : ¬request.IsShown := by cases request <;> first | exact id | exact absurd hp id
  exact ensures_closed reserved (by rintro op rfl; exact hp) (fun ho => hs (reserved.opens _ _ ho))
    (discreet _ _ _ _ hs) hq

end Requests

def released (m : Matcher) : Matcher := { m with generation := m.generation + 1, timer := none }

inductive Disarmed (s : Logged) (h : Past Job) : Past Job → Prop
  | none : Disarmed s h h
  | some (timer : Nat) (reply : Except Failure Unit) :
      Disarmed s h (.answered (.disarm timer) reply :: .asked (.disarm timer) { s with matcher := released s.matcher } :: h)

def Host.Disarms (H : Host Job) (outcome : Except Failure Unit) : Prop :=
  outcome = .ok () ∨ ∃ timer, H.answers (.disarm timer) outcome

section Timers

variable {action : Action} {Q : Except Failure Unit → Logged → Past Job → Prop}

theorem ensures_cancelTimer (reserved : H.Reserved) (discreet : K.Discreet)
    (hq : ∀ outcome t h', H.Disarms outcome → s.telemetry.Advances t → Disarmed s h h' →
      Q outcome ⟨released s.matcher, t⟩ h') : Ensures H K c cancelTimer Q s h := by
  simp only [cancelTimer, ensures_bind, ensures_modify, then_ok, ensures_get]
  cases ht : s.matcher.timer with
  | none =>
    exact hq (.ok ()) s.telemetry h (.inl rfl) (.refl _) .none
  | some timer =>
    refine ensures_bind.mpr (ensures_plain reserved discreet (.disarm timer) trivial fun reply t ha hadv => ?_)
    exact hq reply t _ (.inr ⟨timer, ha⟩) hadv (.some timer reply)

theorem ensures_clear (reserved : H.Reserved) (discreet : K.Discreet)
    (ho : ∀ t h', s.telemetry.Advances t → Disarmed s h h' →
      Q (.ok ()) ⟨{ released s.matcher with path := [], typed := [] }, t⟩ h')
    (he : ∀ f t h', H.Disarms (.error f) → s.telemetry.Advances t → Disarmed s h h' →
      Q (.error f) ⟨released s.matcher, t⟩ h') : Ensures H K c clear Q s h := by
  rw [clear, ensures_bind]
  refine ensures_cancelTimer reserved discreet fun outcome t h' hd ht hh => ?_
  cases outcome with
  | ok _ => exact ho t h' ht hh
  | error f => exact he f t h' hd ht hh

theorem ensures_startTimer (reserved : H.Reserved) (discreet : K.Discreet)
    (he : ∀ f t h', H.Disarms (.error f) → s.telemetry.Advances t → Disarmed s h h' →
      Q (.error f) ⟨released s.matcher, t⟩ h')
    (ha : ∀ reply t t' h', H.answers (.arm s.matcher.keymap.timeout ⟨s.matcher.generation + 1, action⟩) reply →
      s.telemetry.Advances t → t.Advances t' → Disarmed s h h' →
      Q (reply.map fun _ => ())
        ⟨{ released s.matcher with timer := reply.toOption }, t'⟩
        (.answered (.arm s.matcher.keymap.timeout ⟨s.matcher.generation + 1, action⟩) reply ::
          .asked (.arm s.matcher.keymap.timeout ⟨s.matcher.generation + 1, action⟩) ⟨released s.matcher, t⟩ :: h')) :
    Ensures H K c (startTimer action) Q s h := by
  rw [startTimer, ensures_bind]
  refine ensures_cancelTimer reserved discreet fun outcome t h' hd ht hh => ?_
  cases outcome with
  | error f => exact he f t h' hd ht hh
  | ok _ =>
    simp only [then_ok, ensures_bind, ensures_get]
    refine ensures_plain reserved discreet (.arm _ _) trivial fun reply t' hr ht' => ?_
    have hq := ha reply t t' h' hr ht ht' hh
    cases reply with
    | error f => exact hq
    | ok timer => exact hq

end Timers

theorem ensures_compileTraced (leader : Notation.Leader) (timeout : Int) (bindings : OrderedMap String String) :
    Ensures H K c (Keymap.compileTraced askTelemetry leader timeout bindings) (fun outcome s' h' =>
      s'.matcher = s.matcher ∧ h' = h ∧ s.telemetry.Advances s'.telemetry ∧ ∀ keymap, outcome = .ok keymap →
        Keymap.compile leader timeout bindings = .ok keymap ∧
          (s.telemetry.Coherent → s'.telemetry.active.isSome)) s h := by
  refine ensures_bind.mpr (ensures_performed fun outcome t hp ha => ?_)
  cases outcome with
  | error f => exact ⟨rfl, rfl, ha, nofun⟩
  | ok span =>
    have hs : s.telemetry.Coherent → t.active.isSome := fun hc => Telemetry.active_of_openSpan hc hp
    refine ensures_bind.mpr (ensures_tryCatch.mpr ?_)
    -- Whatever becomes of the keymap, the span is closed.
    cases hk : Keymap.compile leader timeout bindings with
    | ok keymap =>
      refine ensures_bind.mpr (ensures_performed fun outcome t' _ hc => ?_)
      cases outcome with
      | error f => exact ⟨rfl, rfl, .trans _ _ _ ha hc, nofun⟩
      | ok _ =>
        refine ⟨rfl, rfl, .trans _ _ _ ha hc, ?_⟩
        rintro _ ⟨⟩
        exact ⟨rfl, fun hn => hc.active (hs hn)⟩
    | error fault =>
      refine ensures_bind.mpr (ensures_performed fun outcome t' _ hc => ?_)
      cases outcome <;> exact ⟨rfl, rfl, .trans _ _ _ ha hc, nofun⟩

theorem ensures_reload {config : Config} {Q : Except Failure Unit → Logged → Past Job → Prop}
    (refused : ∀ f t, s.telemetry.Advances t → Q (.error f) ⟨s.matcher, t⟩ h)
    (taken : ∀ keymap t, Keymap.compile (.text config.leader) config.timeout config.bindings = .ok keymap →
      s.telemetry.Advances t → (s.telemetry.Coherent → t.active.isSome) →
      Ensures H K c reset (fun outcome s' h' =>
        match outcome with
        | .ok _ => ∀ outcome t', s'.telemetry.Advances t' →
          Q outcome ⟨{ s'.matcher with keymap := keymap, path := [] }, t'⟩ h'
        | .error f => Q (.error f) s' h') ⟨s.matcher, t⟩ h) : Ensures H K c (reload config) Q s h := by
  refine ensures_bind.mpr ((ensures_compileTraced _ _ _).mono ?_)
  rintro outcome ⟨_, t⟩ _ ⟨rfl, rfl, ha, hk⟩
  cases outcome with
  | error f => exact refused f t ha
  | ok keymap =>
    obtain ⟨hk, active⟩ := hk keymap rfl
    refine ensures_bind.mpr ((taken keymap t hk ha active).mono fun outcome s' h' hq => ?_)
    cases outcome with
    | error f => exact hq
    | ok _ => exact ensures_bind.mpr (ensures_modify.mpr (ensures_performed fun outcome t' _ ha' => hq outcome t' ha'))

def Due (expiry : Expiry) (m : Matcher) : Prop := expiry.generation = m.generation ∧ m.hasTimer

instance (expiry : Expiry) (m : Matcher) : Decidable (Due expiry m) := inferInstanceAs (Decidable (_ ∧ _))

def act (action : Action) : Step Job Unit := do
  modify fun m => { m with timer := none }
  match action with
  | .dispatch command => dispatch command
  | .abandon => abandon

theorem expire_of_due {expiry : Expiry} {m : Matcher} (hd : Due expiry m) :
    (expire expiry : Step Job Unit) m = act expiry.action m :=
  congrFun (if_pos (by simpa [Due] using hd)) m

theorem expire_of_not {expiry : Expiry} {m : Matcher} (hd : ¬Due expiry m) :
    (expire expiry : Step Job Unit) m = .finished (.ok ()) m :=
  congrFun (if_neg (by simpa [Due] using hd)) m

def Preserves (H : Host Job) (K : Pledge Job) (c : Call) (inv : Logged → Past Job → Prop) (step : Step Job α) : Prop :=
  ∀ s h, inv s h → Ensures H K c step (fun _ s h => inv s h) s h

namespace Preserves

variable {inv : Logged → Past Job → Prop}

theorem pure (a : α) : Preserves H K c inv (Pure.pure a) := fun _ _ hi => hi

theorem throw (f : Failure) : Preserves H K c inv (MonadExcept.throw f : Step Job α) := fun _ _ hi => hi

theorem bind {first : Step Job α} {next : α → Step Job β} (hf : Preserves H K c inv first)
    (hn : ∀ a, Preserves H K c inv (next a)) : Preserves H K c inv (first >>= next) := by
  intro s h hi
  refine ensures_bind.mpr ((hf s h hi).mono fun outcome s h hi => ?_)
  cases outcome with
  | ok a => exact hn a s h hi
  | error f => exact hi

theorem ite {p : Prop} [Decidable p] {first second : Step Job α} (hf : p → Preserves H K c inv first)
    (hs : ¬p → Preserves H K c inv second) : Preserves H K c inv (if p then first else second) := by
  by_cases hp : p
  · rw [if_pos hp]; exact hf hp
  · rw [if_neg hp]; exact hs hp

theorem get : Preserves H K c inv (MonadStateOf.get : Step Job Matcher) := fun _ _ hi => hi

theorem attempt {step : Step Job α} (hs : Preserves H K c inv step) : Preserves H K c inv step.attempt :=
  fun s h hi => ensures_attempt.mpr (hs s h hi)

theorem around {wanted : Telemetry.SpanRequest} {block : Step Job α}
    (ht : ∀ op, Preserves H K c inv (askTelemetry op : Step Job op.Answer)) (hb : Preserves H K c inv block) :
    Preserves H K c inv (Telemetry.around askTelemetry wanted block) := by
  refine .bind (ht _) fun span => .bind (fun s h hi => ?_) fun result => .bind (ht _) fun _ => .pure _
  refine ensures_tryCatch.mpr ((hb s h hi).mono fun outcome s h hi => ?_)
  cases outcome with
  | ok a => exact hi
  | error f => exact Preserves.bind (ht _) (fun _ => .throw f) s h hi

variable {command : String}

theorem reportFailure (ht : ∀ op, Preserves H K c inv (askTelemetry op : Step Job op.Answer)) {failure : Failure}
    (hf : Preserves H K c inv (ask (.publish (.failed command failure)))) :
    Preserves H K c inv (Matcher.reportFailure command failure : Step Job Unit) :=
  .bind (ht _) fun _ => hf

theorem reportIfFailed (ht : ∀ op, Preserves H K c inv (askTelemetry op : Step Job op.Answer))
    (hf : ∀ failure, Preserves H K c inv (ask (.publish (.failed command failure)))) {step : Step Job α}
    (hs : Preserves H K c inv step) : Preserves H K c inv (Matcher.reportIfFailed command step) := by
  refine .bind hs.attempt fun outcome => ?_
  cases outcome with
  | ok a => exact .pure _
  | error failure =>
    have reports : Preserves H K c inv (do Matcher.reportFailure command failure; return (none : Option α)) :=
      .bind (.reportFailure ht (hf failure)) fun _ => .pure _
    exact .ite (fun _ => .bind (.throw _) fun _ => reports) fun _ => reports

theorem carryOut (ht : ∀ op, Preserves H K c inv (askTelemetry op : Step Job op.Answer))
    (hf : ∀ failure, Preserves H K c inv (ask (.publish (.failed command failure))))
    (he : Preserves H K c inv (ask (.execute command))) (hs : ∀ job, Preserves H K c inv (ask (.settle command job))) :
    Preserves H K c inv (do
      let work : Option (Option Job) ← Matcher.reportIfFailed command (ask (.execute command))
      match work with
      | some (some job) =>
        let _ ← Matcher.reportIfFailed command (ask (.settle command job))
      | _ => Pure.pure ()) := by
  refine .bind (.reportIfFailed ht hf he) fun work => ?_
  rcases work with _ | _ | job
  · exact .pure _
  · exact .pure _
  · exact .bind (.reportIfFailed ht hf (hs job)) fun _ => .pure _

theorem settled (ht : ∀ op, Preserves H K c inv (askTelemetry op : Step Job op.Answer))
    (hf : ∀ failure, Preserves H K c inv (ask (.publish (.failed command failure)))) (outcome : Except Failure Unit) :
    Preserves H K c inv (Matcher.settled command outcome : Step Job Unit) := by
  cases outcome with
  | ok _ => exact .pure _
  | error failure => exact .ite (fun _ => .reportFailure ht (hf failure)) fun _ => .pure _

end Preserves

end Keychord.Matcher
