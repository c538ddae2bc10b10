import Keychord.Proofs.Matcher.Upkeep
import Keychord.Proofs.Telemetry.Concord

namespace Keychord.Matcher

open Relation (ReflTransGen)

variable {Job α : Type}

def Event.line? : Event → Option String
  | .pending keys _ _ => some keys
  | .reset | .dispatch .. => some ""
  | .failed .. => none

namespace Past

def line : Past Job → String
  | [] => ""
  | .asked (.publish event) _ :: h => event.line?.getD (line h)
  | _ :: h => line h

end Past

def Silent (sight : Sight (surroundings Job) Logged Call (Option Bool)) : Prop :=
  ∀ event s, sight = .asked (.publish event) s → event.line? = none

theorem line_cons {sight : Sight (surroundings Job) Logged Call (Option Bool)} (silent : Silent sight) (h : Past Job) :
    Past.line (sight :: h) = Past.line h := by
  obtain _ | ⟨_ | _ | _ | _ | event, s⟩ | _ | _ := sight
  case asked.publish => rw [Past.line, silent event s rfl, Option.getD_none]
  all_goals rfl

-- What has been told last is so, or there are keys for which there is no timer. Telemetry is active as soon as there are
-- keys.
structure Told (s : Logged) (h : Past Job) : Prop where
  coherent : s.telemetry.Coherent
  active   : s.matcher.typed ≠ [] → s.telemetry.active.isSome
  line     : Past.line h = s.matcher.pendingDisplay ∨
    (s.matcher.typed ≠ [] ∧ s.matcher.timer = none ∧ ∃ f before, before <:+ h ∧ Refused f before)

-- Surroundings whose subscribers do not call the matcher. Commands and their work call what they like, anybody may
-- fail, and callbacks may be called whenever anybody likes.
def discreetHost (Job : Type) : Host Job where
  calls _ _ _ := True
  during _ request _ := request.IsCommand
  answers _ _ := True
  drifts s s' := s'.matcher = s.matcher ∧ s.telemetry.Use s'.telemetry

theorem discreetHost_reserved : (discreetHost Job).Reserved where
  opens := by
    rintro c request ⟨_, work⟩
    cases request <;> trivial
  drifts := fun _ _ drifts => drifts

theorem drifts_of_uses {s : Logged} {t : Telemetry} (uses : ReflTransGen Telemetry.Use s.telemetry t) :
    ReflTransGen (discreetHost Job).drifts s ⟨s.matcher, t⟩ := by
  induction uses with
  | refl => exact .refl
  | tail _ use ih => exact ih.tail ⟨rfl, use⟩

def telling (Job : Type) : Pledge Job where
  inv := Told
  handOver _ request s h :=
    match request with
    | .publish _ => s.telemetry.active.isSome
    | .execute _ | .settle .. => Told s h
    | _ => True

theorem telling_discreet : (telling Job).Discreet := by
  intro c request s h hidden
  cases request <;> first | trivial | exact absurd trivial hidden

section Told

variable {s : Logged} {h : Past Job}

theorem Told.cons (told : Told s h) {sight : Sight (surroundings Job) Logged Call (Option Bool)} (silent : Silent sight) :
    Told s (sight :: h) where
  coherent := told.coherent
  active := told.active
  line := by
    rw [line_cons silent]
    exact told.line.imp_right fun ⟨keys, timer, f, before, hs, refused⟩ =>
      ⟨keys, timer, f, before, hs.trans (List.suffix_cons _ _), refused⟩

theorem Told.advances (told : Told s h) {t : Telemetry} (ha : s.telemetry.Advances t) : Told ⟨s.matcher, t⟩ h :=
  ⟨ha.coherent told.coherent, fun keys => ha.active (told.active keys), told.line⟩

theorem Told.disarmed (told : Told s h) {h' : Past Job} (hd : Disarmed s h h') : Told s h' := by
  cases hd with
  | none => exact told
  | some => exact (told.cons (by simp [Silent])).cons (by simp [Silent])

theorem Told.released (told : Told s h) : Told ⟨Matcher.released s.matcher, s.telemetry⟩ h :=
  ⟨told.coherent, told.active, told.line.imp_right fun ⟨keys, _, refused⟩ => ⟨keys, rfl, refused⟩⟩

theorem pendingDisplay_of_nil {m : Matcher} (empty : m.typed = []) : m.pendingDisplay = "" := by
  rw [pendingDisplay, empty]
  rfl

theorem told_of_nil (coherent : s.telemetry.Coherent) (empty : s.matcher.typed = []) (line : Past.line h = "") :
    Told s h :=
  ⟨coherent, fun keys => absurd empty keys, .inl (line.trans (pendingDisplay_of_nil empty).symm)⟩

theorem Told.line_of_nil (told : Told s h) (empty : s.matcher.typed = []) : Past.line h = "" := by
  obtain line | ⟨keys, -⟩ := told.line
  · rw [line, pendingDisplay_of_nil empty]
  · exact absurd empty keys

theorem Told.heard (told : Told s h) : s.telemetry.active.isSome ∨ Past.line h = "" := by
  by_cases empty : s.matcher.typed = []
  · exact .inr (told.line_of_nil empty)
  · exact .inl (told.active empty)

end Told

section Steps

variable {c : Call} {s : Logged} {h : Past Job}

abbrev Tells (c : Call) (step : Step Job α) (Q : Except Failure α → Logged → Past Job → Prop) (s : Logged)
    (h : Past Job) : Prop :=
  Ensures (discreetHost Job) (telling Job) c step Q s h

def KeepsTold (c : Call) (step : Step Job α) (s : Logged) (h : Past Job) : Prop :=
  Tells c step (fun _ s' h' => Told s' h') s h

theorem not_opens_publish (event : Event) : ¬(discreetHost Job).Opens c (.publish event) :=
  fun ⟨_, work⟩ => work

theorem keepsTold_publish (event : Event) (active : s.telemetry.active.isSome)
    (told : Told s (.asked (.publish event) s :: h)) : KeepsTold c (ask (.publish event)) s h :=
  ensures_closed discreetHost_reserved (by simp) (not_opens_publish event) active fun _ _ _ ha =>
    (told.cons (by simp [Silent])).advances ha

theorem tells_reset (told : Told s h) : Tells c reset (fun outcome s' h' => Told s' h' ∧
    (s.telemetry.active.isSome → s'.telemetry.active.isSome) ∧ (outcome = .ok () → s'.matcher.typed = [])) s h := by
  refine ensures_get_bind.mpr (ensures_bind.mpr (ensures_clear discreetHost_reserved telling_discreet ?_ ?_))
  case refine_1 =>
    intro t h' ha hd
    have coherent : t.Coherent := ha.coherent told.coherent
    refine ensures_ite.mpr ?_
    split
    case isTrue keys =>
      have active : t.active.isSome := ha.active (told.active (by simpa using keys))
      refine ensures_closed discreetHost_reserved (by simp) (not_opens_publish .reset) active ?_
      intro reply t' _ ha'
      exact ⟨told_of_nil (ha'.coherent coherent) rfl rfl, fun _ => ha'.active active, fun _ => rfl⟩
    case isFalse empty =>
      have line : Past.line h' = "" := (told.disarmed hd).line_of_nil (by simpa using empty)
      exact ⟨told_of_nil coherent rfl line, ha.active, fun _ => rfl⟩
  case refine_2 => exact fun f t h' _ ha hd => ⟨(told.disarmed hd).released.advances ha, ha.active, nofun⟩

-- A line is written, or that fails. Once one has been written telemetry is active, and then the next one can be written.
theorem tells_record (name : String) {level : String} (standard : Telemetry.fieldLevels.contains (Text.lower level))
    {data : List (String × Value)} (texts : ∀ e ∈ data, e.2.text?.isSome) (coherent : s.telemetry.Coherent) :
    Tells c (askTelemetry (.record name level data)) (fun outcome s' h' => s'.matcher = s.matcher ∧ h' = h ∧
      s.telemetry.Advances s'.telemetry ∧ (outcome = .ok () → s'.telemetry.active.isSome) ∧
      (s.telemetry.active.isSome → outcome = .ok ())) s h := by
  refine ensures_performed fun outcome t performed ha => ⟨rfl, rfl, ha, ?_, fun active => ?_⟩
  case refine_1 =>
    rintro rfl
    exact (ha.coherent coherent).active (Telemetry.inUse_of_record performed)
  case refine_2 =>
    obtain ⟨t', written, -⟩ := Telemetry.record_ok active standard texts name
    exact congrArg Prod.fst (performed.symm.trans written)

theorem keepsTold_reportFailure (told : Told s h) (command : String) (f : Failure) :
    KeepsTold c (reportFailure command f) s h := by
  refine ensures_bind.mpr ((tells_record _ (by decide) (by simp) told.coherent).mono ?_)
  rintro outcome ⟨_, t⟩ _ ⟨rfl, rfl, ha, active, -⟩
  cases outcome with
  | error f => exact told.advances ha
  | ok _ =>
    exact keepsTold_publish _ (active rfl) ((told.advances ha).cons (by simp [Silent, Event.line?]))

theorem keepsTold_work (told : Told s h) (request : Request Job) (work : request.IsCommand) :
    KeepsTold c (ask request) s h := by
  have handed : (telling Job).handOver c request s (.asked request s :: h) := by
    cases request with
    | execute | settle => exact told.cons (by simp [Silent])
    | _ => exact work.elim
  refine (ensures_ask (by rintro op rfl; exact work)).mpr ⟨handed, fun reply s' h' _ meanwhile => ?_⟩
  exact (meanwhile.opened ⟨c, work⟩ : Told s' h').cons (by simp [Silent])

theorem keepsTold_reportIfFailed (command : String) {step : Step Job α} (keeps : KeepsTold c step s h) :
    KeepsTold c (reportIfFailed command step) s h := by
  refine ensures_bind.mpr (ensures_attempt.mpr (keeps.mono fun outcome s' h' told => ?_))
  cases outcome with
  | ok a => exact told
  | error f =>
    refine ensures_ite.mpr ?_
    split
    case isTrue => exact told
    case isFalse =>
      refine ensures_bind.mpr ((keepsTold_reportFailure told command f).mono fun outcome _ _ told => ?_)
      cases outcome <;> exact told

theorem ensures_cancelTimer_of_none (unheld : s.matcher.timer = none)
    {Q : Except Failure Unit → Logged → Past Job → Prop} (hq : Q (.ok ()) ⟨released s.matcher, s.telemetry⟩ h) :
    Tells c cancelTimer Q s h := by
  simp only [cancelTimer, ensures_bind, ensures_modify, then_ok, ensures_get, unheld]
  simpa [released, unheld] using hq

theorem keepsTold_dispatch (coherent : s.telemetry.Coherent) (unheld : s.matcher.timer = none)
    (line : s.telemetry.active.isSome ∨ Past.line h = "") (command : String) : KeepsTold c (dispatch command) s h := by
  refine ensures_get_bind.mpr (ensures_bind.mpr (ensures_bind.mpr (ensures_cancelTimer_of_none unheld ?_)))
  refine ensures_bind.mpr ((tells_record (s := ⟨cleared s.matcher, s.telemetry⟩) _ (by decide) (by simp)
    coherent).mono ?_)
  rintro outcome ⟨_, t⟩ h ⟨rfl, rfl, ha, active, written⟩
  cases outcome with
  | error f =>
    have told : Past.line h = "" := line.resolve_left fun active => nomatch written active
    exact told_of_nil (ha.coherent coherent) rfl told
  | ok _ =>
    refine ensures_bind.mpr ((keepsTold_publish _ (active rfl) ?_).mono fun outcome s' h' told => ?_)
    · exact told_of_nil (ha.coherent coherent) rfl rfl
    cases outcome with
    | error f => exact told
    | ok _ =>
      have carried := keepsTold_work (c := c) told (.execute command) trivial
      refine ensures_bind.mpr ((keepsTold_reportIfFailed command carried).mono fun outcome s h told => ?_)
      cases outcome with
      | error f => exact told
      | ok work =>
        cases work with
        | none => exact told
        | some left =>
          cases left with
          | none => exact told
          | some job =>
            have awaited := keepsTold_work (c := c) told (.settle command job) trivial
            refine ensures_bind.mpr ((keepsTold_reportIfFailed command awaited).mono fun outcome s h told => ?_)
            cases outcome <;> exact told

theorem keepsTold_abandon (told : Told s h) : KeepsTold c abandon s h := by
  refine ensures_get_bind.mpr (ensures_bind.mpr ((tells_record _ (by decide) (by simp) told.coherent).mono ?_))
  rintro outcome ⟨_, t⟩ _ ⟨rfl, rfl, ha, -⟩
  cases outcome with
  | error f => exact told.advances ha
  | ok _ => exact (tells_reset (told.advances ha)).mono fun _ _ _ told => told.left

theorem keepsTold_expire (expiry : Expiry) (told : Told s h) : KeepsTold c (expire expiry) s h := by
  by_cases due : Due expiry s.matcher
  case pos =>
    have line : Past.line h = s.matcher.pendingDisplay :=
      told.line.resolve_right fun ⟨_, unheld, _⟩ => by simp [Due, hasTimer, unheld] at due
    have told' : Told ⟨timedOut s.matcher, s.telemetry⟩ h := ⟨told.coherent, told.active, .inl line⟩
    rw [KeepsTold, Tells, Ensures, Logged.step, expire_of_due due]
    refine ensures_bind.mpr ?_
    cases expiry.action with
    | dispatch command => exact keepsTold_dispatch told'.coherent rfl told'.heard command
    | abandon => exact keepsTold_abandon told'
  case neg =>
    rw [KeepsTold, Tells, Ensures, Logged.step, expire_of_not due]
    exact told

theorem keepsTold_arrive (node : Keymap.Node) (coherent : s.telemetry.Coherent) (active : s.telemetry.active.isSome)
    (keys : s.matcher.typed ≠ []) (unheld : s.matcher.timer = none) : KeepsTold c (arrive node) s h := by
  have waits : KeepsTold c (do
      startTimer (node.command.elim .abandon .dispatch)
      ask (.publish (.pending (← get).pendingDisplay node.command node.nextEdges))) s h := by
    refine ensures_bind.mpr (ensures_bind.mpr (ensures_cancelTimer_of_none unheld (ensures_get_bind.mpr ?_)))
    refine ensures_bind.mpr (ensures_plain discreetHost_reserved telling_discreet (.arm _ _) trivial ?_)
    intro reply t given ha
    cases reply with
    | error f =>
      exact ⟨ha.coherent coherent, fun _ => ha.active active, .inr ⟨keys, rfl, f, _, List.suffix_rfl, _, _, _, rfl⟩⟩
    | ok timer =>
      refine ensures_bind.mpr (ensures_get_bind.mpr (keepsTold_publish _ (ha.active active) ?_))
      exact ⟨ha.coherent coherent, fun _ => ha.active active, .inl rfl⟩
  rw [arrive]
  split
  case h_1 command _ _ => exact keepsTold_dispatch coherent unheld (.inl active) command
  case h_2 => exact waits

theorem keepsTold_followOr (press : Press) (key : Key) {otherwise : Step Job Bool} (told : Told s h)
    (active : s.telemetry.active.isSome)
    (keeps : ∀ s' h', Told s' h' → s'.telemetry.active.isSome → KeepsTold c otherwise s' h') :
    KeepsTold c (followOr press key otherwise) s h := by
  refine ensures_get_bind.mpr ?_
  dsimp only
  split
  case h_1 node found =>
    refine ensures_bind.mpr (ensures_cancelTimer discreetHost_reserved telling_discreet fun outcome t h' _ ha hd => ?_)
    have told := ((told.disarmed hd).released).advances ha
    cases outcome with
    | error f => exact told
    | ok _ =>
      refine ensures_bind.mpr (ensures_plain discreetHost_reserved telling_discreet (.consume press) trivial ?_)
      intro reply t' _ ha'
      cases reply with
      | error f => exact ((told.cons (by simp [Silent])).cons (by simp [Silent])).advances ha'
      | ok _ =>
        have arrived := keepsTold_arrive (c := c) node (s := ⟨advanced s.matcher key, t'⟩)
          (h := .answered (.consume press) (.ok ()) :: .asked (.consume press) ⟨released s.matcher, t⟩ :: h')
          (ha'.coherent told.coherent) (ha'.active (ha.active active)) (by simp [advanced]) rfl
        refine ensures_bind.mpr (ensures_bind.mpr (arrived.mono fun outcome s h told => ?_))
        cases outcome <;> exact told
  case h_2 =>
    refine ensures_ite.mpr ?_
    split
    case isTrue => exact told
    case isFalse =>
      refine ensures_bind.mpr ((tells_reset told).mono ?_)
      rintro outcome s' h' ⟨told, lasts, -⟩
      cases outcome with
      | error f => exact told
      | ok _ => exact keeps s' h' told (lasts active)

theorem keepsTold_telemetry (op : Telemetry.Op) (told : Told s h) : KeepsTold c (askTelemetry op) s h :=
  ensures_performed fun _ _ _ ha => told.advances ha

theorem keepsTold_handle (press : Press) (told : Told s h) : KeepsTold c (handle press) s h := by
  refine ensures_ite.mpr ?_
  split
  case isTrue => exact told
  case isFalse =>
    split
    case h_1 => exact told
    case h_2 key _ =>
      refine ensures_get_bind.mpr (ensures_bind.mpr (ensures_performed fun outcome t opened ha => ?_))
      cases outcome with
      | error f => exact told.advances ha
      | ok span =>
        have active : t.active.isSome := Telemetry.active_of_openSpan told.coherent opened
        have follows : KeepsTold c (follow press key) ⟨s.matcher, t⟩ h :=
          keepsTold_followOr press key (told.advances ha) active fun _ _ told active =>
            keepsTold_followOr press key told active fun _ _ told _ => told
        refine ensures_bind.mpr (ensures_tryCatch.mpr (follows.mono fun outcome s h told => ?_))
        -- The span is closed whether the key was followed or not.
        cases outcome <;>
          refine ensures_bind.mpr ((keepsTold_telemetry _ told).mono fun outcome s h told => ?_) <;>
          cases outcome <;> exact told

theorem keepsTold_reload (config : Config) (told : Told s h) : KeepsTold c (reload config) s h := by
  refine ensures_reload (fun f t ha => told.advances ha) fun keymap t _ ha _ => ?_
  refine (tells_reset (told.advances ha)).mono ?_
  rintro outcome s' h' ⟨told, -, dropped⟩
  cases outcome with
  | error f => exact told
  | ok _ =>
    have empty := dropped rfl
    exact fun _ t' ha' => told_of_nil (ha'.coherent told.coherent) empty (told.line_of_nil empty)

theorem keepsTold_settled (command : String) (outcome : Except Failure Unit) (told : Told s h) :
    KeepsTold c (settled command outcome) s h := by
  cases outcome with
  | ok _ => exact told
  | error f =>
    refine ensures_ite.mpr ?_
    split
    case isTrue => exact keepsTold_reportFailure told command f
    case isFalse => exact told

theorem KeepsTold.answered {β : Type} {step : Step Job α} {f : α → β} (keeps : KeepsTold c step s h) :
    KeepsTold c (do return f (← step)) s h :=
  ensures_bind.mpr (keeps.mono (by rintro (_ | _) _ _ told <;> exact told))

theorem keepsTold_step (told : Told s h) : KeepsTold c c.step s h := by
  cases c with
  | press press => exact (keepsTold_handle press told).answered
  | expire expiry => exact (keepsTold_expire expiry told).answered
  | reset | close => exact KeepsTold.answered ((tells_reset told).mono fun _ _ _ told => told.left)
  | reload config => exact (keepsTold_reload config told).answered
  | settled command outcome => exact (keepsTold_settled command outcome told).answered

end Steps

-- Wherever the matcher may be called and wherever a call has returned, it has been told which keys are waiting.
theorem telling_kept : (telling Job).Kept operate (discreetHost Job) where
  meets := fun call s h _ told =>
    (keepsTold_step (told.cons (by simp [Silent]))).mono fun _ _ _ told => told.cons (by simp [Silent])
  opens := by
    rintro c request s h ⟨_, work⟩ handed
    cases request with
    | execute | settle => exact handed
    | _ => exact work.elim
  drifts := by
    rintro s ⟨_, t'⟩ h drifts told
    obtain ⟨rfl, use⟩ := drifts
    exact told.advances use.advances

end Keychord.Matcher
