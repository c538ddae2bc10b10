import Keychord.Proofs.Matcher.Refinement
import Keychord.Timer

namespace Keychord.Matcher

variable {Job α β : Type}

def polled (now : Float) (schedule : Timer.Schedule Expiry) (delay : Int) (expiry : Expiry) : Except Failure Nat :=
  (Timer.Schedule.arm now (.whole delay) expiry schedule).1.map (·.number)

theorem polled_ok {delay : Int} (hd : delay.natAbs < Number.tooLarge) (now : Float) (schedule : Timer.Schedule Expiry)
    (expiry : Expiry) : polled now schedule delay expiry = .ok (schedule.made + 1) := by
  have fits : Number.ofInt? delay = some (Float.ofInt delay) := by rw [Number.ofInt?, if_pos hd]
  have seconds : (Timer.Delay.whole delay).seconds = .ok (Float.ofInt delay / 1000.0) := by
    rw [Timer.Delay.seconds, fits]
  rw [polled, Timer.Schedule.arm, seconds]
  rfl

-- Surroundings in which timers are looked at from time to time and all others return. Subscribers and commands call
-- what they like, and callbacks may be called whenever anybody likes.
def pollingHost (Job : Type) : Host Job where
  calls call _ _ := ∀ config, call = .reload config → config.timeout.natAbs < Number.tooLarge
  during _ request _ := request.IsShown
  answers request reply :=
    match request with
    | .telemetry _ => True
    | .arm delay expiry => ∃ now schedule, reply = polled now schedule delay expiry
    | .execute _ | .settle .. => ∀ f, reply = .error f → ¬f.isCancellation
    | _ => ∃ answer, reply = .ok answer
  drifts s s' := s'.matcher = s.matcher ∧ s.telemetry.Use s'.telemetry

theorem pollingHost_reserved : (pollingHost Job).Reserved where
  opens := fun _ _ ⟨_, hs⟩ => hs
  drifts := fun _ _ hd => hd

theorem polling_disarms {outcome : Except Failure Unit} (hd : (pollingHost Job).Disarms outcome) : outcome = .ok () := by
  obtain rfl | ⟨timer, answer, rfl⟩ := hd <;> rfl

structure Apt (s : Logged) : Prop where
  active  : s.telemetry.active.isSome
  bounded : s.matcher.keymap.timeout.natAbs < Number.tooLarge

structure Fit (s : Logged) : Prop extends Apt s where
  timer : ¬s.matcher.isIdle → s.matcher.hasTimer

def Answers (h : Past Job) : Prop :=
  ∀ press outcome s before, h = .returned (.press press) outcome s :: before → ∃ handled, outcome = .ok (some handled)

theorem answers_nil : Answers ([] : Past Job) := by
  rintro _ _ _ _ ⟨⟩

theorem answers_asked (request : Request Job) (s : Logged) (h : Past Job) : Answers (.asked request s :: h) := by
  rintro _ _ _ _ ⟨⟩

def service (Job : Type) : Pledge Job where
  inv s h := Fit s ∧ Answers h
  handOver _ request s h := request.IsShown → Fit s ∧ Answers h

theorem service_discreet : (service Job).Discreet := fun _ _ _ _ hn hs => absurd hs hn

def Achieves (c : Call) (step : Step Job α) (P : Logged → Prop) (s : Logged) (h : Past Job) : Prop :=
  Ensures (pollingHost Job) (service Job) c step (fun outcome s' _ => (∃ a, outcome = .ok a) ∧ P s') s h

section Steps

variable {c : Call} {s : Logged} {h : Past Job} {P P' : Logged → Prop}

theorem Apt.keep (apt : Apt s) {s' : Logged} (hk : s'.matcher.keymap = s.matcher.keymap)
    (ha : s.telemetry.Advances s'.telemetry) : Apt s' :=
  ⟨ha.active apt.active, hk ▸ apt.bounded⟩

theorem Apt.fit_of_idle (apt : Apt s) (hi : s.matcher.path = []) : Fit s :=
  ⟨apt, fun hn => absurd (by simp [isIdle, hi]) hn⟩

theorem Fit.advances (fit : Fit s) {t : Telemetry} (ha : s.telemetry.Advances t) : Fit ⟨s.matcher, t⟩ :=
  ⟨fit.toApt.keep rfl ha, fit.timer⟩

theorem achieves_pure {a : α} (hp : P s) : Achieves c (pure a : Step Job α) P s h := ⟨⟨a, rfl⟩, hp⟩

theorem Achieves.bind {first : Step Job α} {next : α → Step Job β} (hf : Achieves c first P s h)
    (hn : ∀ a s' h', P s' → Achieves c (next a) P' s' h') : Achieves c (first >>= next) P' s h := by
  refine ensures_bind.mpr (hf.mono ?_)
  rintro _ s' h' ⟨⟨a, rfl⟩, hp⟩
  exact hn a s' h' hp

theorem achieves_ite {p : Prop} [Decidable p] {first second : Step Job α} (hf : p → Achieves c first P s h)
    (hs : ¬p → Achieves c second P s h) : Achieves c (if p then first else second) P s h := by
  by_cases hp : p
  · rw [if_pos hp]; exact hf hp
  · rw [if_neg hp]; exact hs hp

theorem ensures_shown (fit : Fit s) (request : Request Job) (hs : request.IsShown) :
    Ensures (pollingHost Job) (service Job) c (ask request)
      (fun outcome s' _ => (pollingHost Job).answers request outcome ∧ Fit s') s h := by
  refine (ensures_ask (by rintro op rfl; exact hs)).mpr ⟨fun _ => ⟨fit, answers_asked request s h⟩, ?_⟩
  intro reply s' h' ha meanwhile
  have opens : (pollingHost Job).Opens c request := ⟨c, hs⟩
  have fit' : Fit s' := (meanwhile.opened opens).left
  exact ⟨ha, fit'⟩

theorem achieves_publish (fit : Fit s) (event : Event) : Achieves c (ask (.publish event)) Fit s h :=
  (ensures_shown fit (.publish event) trivial).mono fun _ _ _ hr => hr

theorem achieves_record (ha : s.telemetry.active.isSome) (name : String) {level : String}
    (hl : Telemetry.fieldLevels.contains (Text.lower level)) {data : List (String × Value)}
    (hd : ∀ e ∈ data, e.2.text?.isSome) : Achieves c (askTelemetry (.record name level data))
      (fun s' => s'.matcher = s.matcher ∧ s.telemetry.Advances s'.telemetry) s h := by
  obtain ⟨t, hp, hm⟩ := Telemetry.record_ok ha hl hd name
  exact ensures_of_perform hp ⟨⟨(), rfl⟩, rfl, hm⟩

theorem achieves_cancelTimer : Achieves c cancelTimer
    (fun s' => s'.matcher = released s.matcher ∧ s.telemetry.Advances s'.telemetry) s h := by
  refine ensures_cancelTimer pollingHost_reserved service_discreet fun outcome t h' hd ht _ => ?_
  exact ⟨⟨(), polling_disarms hd⟩, rfl, ht⟩

theorem achieves_clear (apt : Apt s) : Achieves c clear Fit s h := by
  refine achieves_cancelTimer.bind fun _ s' h' ⟨hm, ht⟩ => ⟨⟨_, rfl⟩, ?_⟩
  exact Apt.fit_of_idle ⟨ht.active apt.active, by simpa [hm, released] using apt.bounded⟩ rfl

theorem achieves_reset (apt : Apt s) : Achieves c reset Fit s h := by
  refine ensures_get_bind.mpr ((achieves_clear apt).bind fun _ s' h' fit => achieves_ite (fun _ => ?_) fun _ => ?_)
  · exact achieves_publish fit .reset
  · exact achieves_pure fit

theorem achieves_startTimer (apt : Apt s) (action : Action) : Achieves c (startTimer action) Fit s h := by
  refine ensures_startTimer pollingHost_reserved service_discreet ?_ ?_
  case refine_1 => exact fun f t h' hf ht hd => nomatch polling_disarms hf
  case refine_2 =>
    rintro reply t t' h' ⟨now, schedule, rfl⟩ ht ht' _
    rw [polled_ok apt.bounded]
    exact ⟨⟨_, rfl⟩, ⟨ht'.active (ht.active apt.active), apt.bounded⟩, fun _ => rfl⟩

theorem achieves_reportFailure (fit : Fit s) (command : String) (failure : Failure) :
    Achieves c (reportFailure command failure) Fit s h := by
  refine (achieves_record fit.active "keys.dispatch_failed" (by decide) (by simp)).bind fun _ ⟨_, t⟩ h' ⟨hm, ht⟩ => ?_
  obtain rfl := hm
  exact achieves_publish (fit.advances ht) _

theorem achieves_reportIfFailed (command : String) {step : Step Job α}
    (hs : Ensures (pollingHost Job) (service Job) c step
      (fun outcome s' _ => (∀ f, outcome = .error f → ¬f.isCancellation) ∧ Fit s') s h) :
    Achieves c (reportIfFailed command step) Fit s h := by
  refine ensures_bind.mpr (ensures_attempt.mpr (hs.mono fun outcome s' h' ⟨hc, fit⟩ => ?_))
  cases outcome with
  | ok a => exact achieves_pure fit
  | error failure =>
    have reported : Achieves c (do reportFailure command failure; return (none : Option α)) Fit s' h' :=
      (achieves_reportFailure fit command failure).bind fun _ _ _ fit => achieves_pure fit
    exact achieves_ite (fun h => absurd h (hc failure rfl)) fun _ => reported

theorem achieves_dispatch (apt : Apt s) (command : String) : Achieves c (dispatch command) Fit s h := by
  refine ensures_get_bind.mpr ((achieves_clear apt).bind fun _ s₁ h₁ fit₁ => ?_)
  refine (achieves_record fit₁.active "keys.dispatch" (by decide) (by simp)).bind fun _ ⟨_, t⟩ h₂ ⟨hm, ht⟩ => ?_
  obtain rfl := hm
  refine (achieves_publish (fit₁.advances ht) _).bind fun _ s₃ h₃ fit₃ => ?_
  have executed : Achieves c (reportIfFailed command (ask (.execute command))) Fit s₃ h₃ :=
    achieves_reportIfFailed command (ensures_shown fit₃ (.execute command) trivial)
  refine executed.bind fun work s₄ h₄ fit₄ => ?_
  match work with
  | none | some none => exact achieves_pure fit₄
  | some (some job) =>
    have settled : Achieves c (reportIfFailed command (ask (.settle command job))) Fit s₄ h₄ :=
      achieves_reportIfFailed command (ensures_shown fit₄ (.settle command job) trivial)
    exact settled.bind fun _ _ _ fit => achieves_pure fit

theorem achieves_abandon (apt : Apt s) : Achieves c abandon Fit s h := by
  refine ensures_get_bind.mpr ?_
  refine (achieves_record apt.active "keys.abandoned" (by decide) (by simp)).bind fun _ s' h' ⟨hm, ht⟩ => ?_
  exact achieves_reset (apt.keep (congrArg _ hm) ht)

theorem achieves_expire (fit : Fit s) (expiry : Expiry) : Achieves c (expire expiry) Fit s h := by
  by_cases hd : Due expiry s.matcher
  case pos =>
    have apt : Apt ⟨timedOut s.matcher, s.telemetry⟩ := ⟨fit.active, fit.bounded⟩
    rw [Achieves, Ensures, Logged.step, expire_of_due hd]
    refine ensures_bind.mpr (ensures_modify.mpr ?_)
    cases expiry.action with
    | dispatch command => exact achieves_dispatch apt command
    | abandon => exact achieves_abandon apt
  case neg =>
    rw [Achieves, Ensures, Logged.step, expire_of_not hd]
    exact ⟨⟨(), rfl⟩, fit⟩

theorem achieves_arrive (apt : Apt s) (node : Keymap.Node) : Achieves c (arrive node) Fit s h := by
  have waits : ∀ action command, Achieves c (do
      startTimer action
      ask (.publish (.pending (← get).pendingDisplay command node.nextEdges))) Fit s h := fun action command =>
    (achieves_startTimer apt action).bind fun _ s' h' fit => ensures_get_bind.mpr (achieves_publish fit _)
  rw [arrive]
  split
  · exact achieves_dispatch apt _
  · exact waits _ _

theorem achieves_followOr (fit : Fit s) (press : Press) (key : Key) {otherwise : Step Job Bool}
    (ho : ∀ s' h', Fit s' → Achieves c otherwise Fit s' h') : Achieves c (followOr press key otherwise) Fit s h := by
  refine ensures_get_bind.mpr ?_
  dsimp only
  split
  case h_1 node hn =>
    refine achieves_cancelTimer.bind fun _ s₁ h₁ ⟨hm, ht⟩ => ?_
    refine ensures_bind.mpr (ensures_plain pollingHost_reserved service_discreet (.consume press) trivial ?_)
    rintro _ t ⟨_, rfl⟩ ht'
    have apt : Apt ⟨advanced s.matcher key, t⟩ := ⟨ht'.active (ht.active fit.active), fit.bounded⟩
    refine ensures_bind.mpr (ensures_modify.mpr ?_)
    rw [hm]
    exact (achieves_arrive apt node).bind fun _ _ _ fit => achieves_pure fit
  case h_2 =>
    refine achieves_ite (fun _ => achieves_pure fit) fun _ => ?_
    exact (achieves_reset fit.toApt).bind fun _ s' h' fit => ho s' h' fit

theorem achieves_handle (fit : Fit s) (press : Press) : Achieves c (handle press) Fit s h := by
  refine achieves_ite (fun _ => achieves_pure fit) fun _ => ?_
  cases press.toKey? with
  | none => exact achieves_pure fit
  | some key =>
    obtain ⟨span, t, hp, ha⟩ := Telemetry.openSpan_ok (.inl fit.active) (keySpan_texts s.matcher key)
    refine ensures_get_bind.mpr (ensures_bind.mpr (ensures_of_perform hp ?_))
    have followed : Achieves c (follow press key) Fit ⟨s.matcher, t⟩ h :=
      achieves_followOr (fit.advances ha) press key fun _ _ fit =>
        achieves_followOr fit press key fun _ _ fit => achieves_pure fit
    refine ensures_bind.mpr (ensures_tryCatch.mpr (followed.mono ?_))
    rintro _ s₁ h₁ ⟨⟨handled, rfl⟩, fit₁⟩
    have closes : ∀ f ∈ (none : Option Failure), f.isCancellation := by simp
    obtain ⟨t', hp', ha'⟩ := Telemetry.closeSpan_ok span closes s₁.telemetry
    exact ensures_bind.mpr (ensures_of_perform hp' ⟨⟨_, rfl⟩, fit₁.advances ha'⟩)

theorem Fit.taken (fit : Fit s) {config : Config} (bounded : config.timeout.natAbs < Number.tooLarge) {keymap : Keymap}
    (compiles : Keymap.compile (.text config.leader) config.timeout config.bindings = .ok keymap) {t : Telemetry}
    (ha : s.telemetry.Advances t) : Fit ⟨{ s.matcher with keymap := keymap, path := [] }, t⟩ := by
  obtain ⟨-, ht, -⟩ := Keymap.compile_ok compiles
  exact Apt.fit_of_idle ⟨ha.active fit.active, ht ▸ bounded⟩ rfl

theorem fit_reload (fit : Fit s) {config : Config} (bounded : config.timeout.natAbs < Number.tooLarge) :
    Ensures (pollingHost Job) (service Job) c (reload config) (fun _ s' _ => Fit s') s h := by
  refine ensures_reload (fun f t ha => fit.advances ha) fun keymap t compiles ha _ => ?_
  refine (achieves_reset (fit.advances ha).toApt).mono ?_
  rintro _ s' h' ⟨⟨_, rfl⟩, fit'⟩
  exact fun outcome t' ha' => fit'.taken bounded compiles ha'

theorem achieves_settled (fit : Fit s) (command : String) (outcome : Except Failure Unit) :
    Achieves c (settled command outcome) Fit s h := by
  cases outcome with
  | ok _ => exact achieves_pure fit
  | error failure => exact achieves_ite (fun _ => achieves_reportFailure fit command failure) fun _ => achieves_pure fit

end Steps

theorem answers_returned {call : Call} (hn : ∀ press, call ≠ .press press) (outcome : Except Failure (Option Bool))
    (s : Logged) (h : Past Job) : Answers (.returned call outcome s :: h) := by
  rintro press _ _ _ ⟨⟩
  exact absurd rfl (hn press)

theorem service_kept : (service Job).Kept operate (pollingHost Job) where
  meets := by
    intro call s h hc ⟨fit, _⟩
    have silent : ∀ {step : Step Job Unit}, (∀ press, call ≠ .press press) →
        Ensures (pollingHost Job) (service Job) call step (fun _ s' _ => Fit s') s (.called call s :: h) →
        Ensures (pollingHost Job) (service Job) call (do step; return none)
          (fun outcome s' h' => (service Job).inv s' (.returned call outcome s' :: h')) s (.called call s :: h) := by
      intro step hn hs
      refine ensures_bind.mpr (hs.mono fun outcome s' h' fit => ?_)
      cases outcome <;> exact ⟨fit, answers_returned hn _ _ _⟩
    cases call with
    | press press =>
      refine ensures_bind.mpr ((achieves_handle fit press).mono ?_)
      rintro _ s' h' ⟨⟨handled, rfl⟩, fit'⟩
      exact ⟨fit', by rintro _ _ _ _ ⟨⟩; exact ⟨handled, rfl⟩⟩
    | expire expiry => exact silent (by simp) ((achieves_expire fit expiry).mono fun _ _ _ e => e.right)
    | reset | close => exact silent (by simp) ((achieves_reset fit.toApt).mono fun _ _ _ e => e.right)
    | reload config => exact silent (by simp) (fit_reload fit (hc config rfl))
    | settled command outcome =>
      exact silent (by simp) ((achieves_settled fit command outcome).mono fun _ _ _ e => e.right)
  opens := fun _ _ _ _ ⟨_, hs⟩ hh => hh hs
  drifts := by
    rintro s ⟨_, t⟩ h ⟨rfl, hu⟩ ⟨fit, answers⟩
    exact ⟨fit.advances hu.advances, answers⟩

theorem Made.fit {config : Config} {s : Logged} (made : Made Job config s)
    (bounded : config.timeout.natAbs < Number.tooLarge) : Fit s := by
  obtain ⟨env, t, used, finished⟩ := made
  have starts : Ensures (pollingHost Job) (service Job) (.reload config) (Call.step (.reload config))
      (fun outcome s _ => outcome = .ok none → Fit s) ⟨{}, t⟩ ([] : Past Job) := by
    refine ensures_bind.mpr (ensures_reload (fun f _ _ => by rintro ⟨⟩) fun keymap t₁ compiles _ active => ?_)
    refine reset_idle fun outcome t₂ ha => ?_
    have timeout := (Keymap.compile_ok compiles).right.left
    have apt : Apt ⟨{ cleared {} with keymap := keymap, path := [] }, t₂⟩ :=
      ⟨ha.active (active (coherent_of_used used)), timeout ▸ bounded⟩
    cases outcome with
    | error f => rintro ⟨⟩
    | ok _ => exact fun _ => apt.fit_of_idle rfl
  have ended : (operate (.reload config) ⟨{}, t⟩ : Run (surroundings Job) Logged (Option Bool)).Meets _ _ _ _ _ := starts
  rw [finished] at ended
  exact ended rfl

def tick : (request : Request Job) → Except Failure ((surroundings Job).Answer request)
  | .arm delay expiry => polled 0 {} delay expiry
  | request => calm request

theorem pollingHost_tick (request : Request Job) : (pollingHost Job).answers request (tick request) := by
  cases request with
  | telemetry op => trivial
  | arm delay expiry => exact ⟨0, {}, rfl⟩
  | execute | settle => rintro _ ⟨⟩
  | _ => exact ⟨_, rfl⟩

-- Wherever a press is made, it comes to its end with an answer, and leaves no keys waiting without a timer.
theorem presses_return {config : Config} {s : Logged} {M : Working Job} (made : Made Job config s)
    (bounded : config.timeout.natAbs < Number.tooLarge)
    (reaches : Machine.Reaches operate (pollingHost Job) ⟨s, [], []⟩ M) :
    (∀ press outcome s' h, .returned (.press press) outcome s' :: h <:+ M.history →
      (∃ handled, outcome = .ok (some handled)) ∧ (s'.matcher.isIdle ∨ s'.matcher.hasTimer)) ∧
    (M.Open (pollingHost Job) → ∀ press, ∃ M' handled s' h,
      Machine.Reaches operate (pollingHost Job) (M.enterCall operate (.press press)) M' ∧ M'.frames = M.frames ∧
        M'.history = .returned (.press press) (.ok (some handled)) s' :: h) := by
  have start : Machine.Sound (pollingHost Job) (service Job) ⟨s, [], []⟩ := .start ⟨made.fit bounded, answers_nil⟩
  have returns : ∀ {M : Working Job}, Machine.Reaches operate (pollingHost Job) ⟨s, [], []⟩ M →
      ∀ press outcome s' h, .returned (.press press) outcome s' :: h <:+ M.history →
        (∃ handled, outcome = .ok (some handled)) ∧ (s'.matcher.isIdle ∨ s'.matcher.hasTimer) := by
    intro M reaches press outcome s' h hs
    obtain ⟨fit, answers⟩ := reaches.inv_of_returned service_kept start rfl hs
    exact ⟨answers _ _ _ _ rfl, or_iff_not_imp_left.mpr fit.timer⟩
  refine ⟨returns reaches, fun ho press => ?_⟩
  have free : ∀ frame ∈ M.frames.head?, (pollingHost Job).during frame.call frame.request (.press press) := by
    intro frame hf
    obtain ⟨_, hs⟩ := ho frame hf
    exact hs
  have called : Machine.Reaches operate (pollingHost Job) ⟨s, [], []⟩ (M.enterCall operate (.press press)) :=
    reaches.tail (.call free (by rintro _ ⟨⟩))
  have ends : Machine.Reaches operate (pollingHost Job) (M.enterCall operate (.press press)) _ :=
    Machine.reaches_answerAll pollingHost_tick _ _ _ _
  obtain ⟨⟨handled, hd⟩, -⟩ := returns (called.trans ends) press _ _ _ List.suffix_rfl
  exact ⟨_, handled, _, _, ends, rfl, by rw [hd]⟩

def waiting (s : Logged) : Working Unit := .serve operate tick ⟨s, [], []⟩ (.press ⟨"a", {}, none⟩)

theorem reaches_waiting (s : Logged) : Machine.Reaches operate (pollingHost Unit) ⟨s, [], []⟩ (waiting s) := by
  have rest : (⟨s, [], []⟩ : Working Unit).Resting := rfl
  exact Machine.Reaches.serve pollingHost_tick .refl rest (by rintro _ ⟨⟩)

theorem waiting_idle : started?.map (fun s => (waiting s).state.matcher.isIdle) = some false := by decide +kernel

theorem presses_return_waiting : ∃ s, Made Unit chord s ∧ chord.timeout.natAbs < Number.tooLarge ∧
    Machine.Reaches operate (pollingHost Unit) ⟨s, [], []⟩ (waiting s) ∧ (waiting s).state.matcher.hasTimer := by
  obtain ⟨s, hs, hi⟩ := Option.map_eq_some_iff.mp waiting_idle
  have made : Made Unit chord s := made_of_started? hs
  have bounded : chord.timeout.natAbs < Number.tooLarge := by decide +kernel
  have returned := (presses_return made bounded (reaches_waiting s)).left _ _ _ _ List.suffix_rfl
  have pending : ¬(waiting s).state.matcher.isIdle := by simp [hi]
  exact ⟨s, made, bounded, reaches_waiting s, returned.right.resolve_left pending⟩

def patient : Config := { chord with timeout := Nat.pow 10 400 }

def patient? : Option Logged := configured? Unit patient

theorem made_of_patient? {s : Logged} (hs : patient? = some s) : Made Unit patient s := made_of_configured? hs

def pressed? : Past Unit → Option (Press × Except Failure (Option Bool) × Logged)
  | .returned (.press press) outcome s :: _ => some (press, outcome, s)
  | _ => none

theorem eq_of_pressed? {press : Press} {outcome : Except Failure (Option Bool)} {s : Logged} {h : Past Unit}
    (hp : pressed? h = some (press, outcome, s)) : ∃ before, h = .returned (.press press) outcome s :: before := by
  unfold pressed? at hp
  split at hp
  case h_1 before => cases hp; exact ⟨before, rfl⟩
  case h_2 => cases hp

theorem patient_pressed : patient?.map (fun s => (pressed? (waiting s).history).map fun (press, outcome, s') =>
    (press.key, outcome, s'.matcher.stateName, s'.matcher.hasTimer)) =
      some (some ("a", .error .delayTooLong, "pending", false)) := by decide +kernel

-- With a valid configuration the first key of a chord fails and is left pending without a timer.
theorem press_fails_pending : Config.build (.text " ") (.int (Nat.pow 10 400)) ⟨[(.text "ab", .text "open")]⟩ = .ok patient ∧
    ∃ s press s' before, Made Unit patient s ∧ Machine.Reaches operate (pollingHost Unit) ⟨s, [], []⟩ (waiting s) ∧
      (waiting s).history = .returned (.press press) (.error .delayTooLong) s' :: before ∧
        s'.matcher.stateName = "pending" ∧ ¬s'.matcher.hasTimer := by
  refine ⟨by decide +kernel, ?_⟩
  obtain ⟨s, hs, hp⟩ := Option.map_eq_some_iff.mp patient_pressed
  obtain ⟨⟨press, outcome, s'⟩, hp, he⟩ := Option.map_eq_some_iff.mp hp
  simp only [Prod.mk.injEq] at he
  obtain ⟨-, rfl, pending, unheld⟩ := he
  obtain ⟨before, hh⟩ := eq_of_pressed? hp
  exact ⟨s, press, s', before, made_of_patient? hs, reaches_waiting s, hh, pending, by simp [unheld]⟩

end Keychord.Matcher
