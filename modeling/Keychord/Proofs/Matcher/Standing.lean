import Keychord.Proofs.Matcher.Ensures

namespace Keychord.Matcher

variable {Job α β : Type} {H : Host Job}

-- The latest report of keys that may go on, with the state at that time and the edges, unless something has been done
-- since: answers and returns only bring calls to their ends.
def Past.standing? : Past Job → Option (Logged × List Edge)
  | .asked (.publish (.pending _ _ next)) s :: _ => some (s, next)
  | .answered .. :: h | .returned .. :: h => standing? h
  | _ => none

theorem Past.exists_report {h : Past Job} {s : Logged} {next : List Edge} (standing : standing? h = some (s, next)) :
    ∃ keys command before, .asked (.publish (.pending keys command next)) s :: before <:+ h := by
  induction h with
  | nil => cases standing
  | cons sight h ih =>
    have later : standing? h = some (s, next) →
        ∃ keys command before, .asked (.publish (.pending keys command next)) s :: before <:+ sight :: h := by
      intro standing
      have ⟨keys, command, before, hs⟩ := ih standing
      exact ⟨keys, command, before, hs.trans (List.suffix_cons _ _)⟩
    cases sight with
    | called => cases standing
    | answered => exact later standing
    | returned => exact later standing
    | asked request s' =>
      cases request with
      | publish event =>
        cases event with
        | pending keys command next' => cases standing; exact ⟨keys, command, h, List.suffix_refl _⟩
        | _ => cases standing
      | _ => cases standing

def Standing (s : Logged) (h : Past Job) : Prop :=
  ∀ s₀ next, Past.standing? h = some (s₀, next) → s.matcher = s₀.matcher

structure Host.Hushed (H : Host Job) : Prop extends H.Reserved where
  quiet : ∀ c event, ¬H.Opens c (.publish event)

def standing (Job : Type) : Pledge Job := ⟨Standing, fun _ _ => Standing⟩

section Steps

variable {c : Call} {s : Logged} {h : Past Job}

theorem standing_of_none (none : Past.standing? h = none) : Standing s h := by simp [Standing, none]

theorem standing_asked (request : Request Job) : Standing s (.asked request s :: h) := by
  intro s₀ next standing
  cases request with
  | publish event =>
    cases event with
    | pending => cases standing; rfl
    | _ => cases standing
  | _ => cases standing

theorem stands_ask (hushed : H.Hushed) (request : Request Job) (hr : ∀ op, request ≠ .telemetry op) :
    Ensures H (standing Job) c (ask request) (fun _ s h => Standing s h) s h := by
  have asked : Standing s (.asked request s :: h) := standing_asked request
  refine (ensures_ask hr).mpr ⟨asked, fun reply s' h' _ meanwhile => ?_⟩
  by_cases opens : H.Opens c request
  case pos => exact meanwhile.opened opens
  case neg =>
    have ⟨hd, same⟩ := meanwhile.closed opens
    have ⟨hm, _⟩ := hushed.toReserved.drifted hd
    intro s₀ next standing
    rw [same] at standing
    exact hm.trans (asked s₀ next standing)

abbrev KeepsStanding (H : Host Job) (c : Call) (step : Step Job α) : Prop := Preserves H (standing Job) c Standing step

theorem keepsStanding_ask (hushed : H.Hushed) (request : Request Job) (hr : ∀ op, request ≠ .telemetry op) :
    KeepsStanding H c (ask request) := fun _ _ _ => stands_ask hushed request hr

theorem keepsStanding_telemetry (op : Telemetry.Op) : KeepsStanding H c (askTelemetry op : Step Job op.Answer) :=
  fun _ _ hs => hs

abbrev Unreporting (H : Host Job) (c : Call) (step : Step Job α) : Prop :=
  Preserves H (standing Job) c (fun _ h => Past.standing? h = none) step

def LeavesStanding (H : Host Job) (c : Call) (step : Step Job α) : Prop :=
  ∀ s h, Past.standing? h = none → Ensures H (standing Job) c step (fun _ s h => Standing s h) s h

theorem KeepsStanding.leavesStanding {step : Step Job α} (keeps : KeepsStanding H c step) : LeavesStanding H c step :=
  fun s h none => keeps s h (standing_of_none none)

theorem Unreporting.leavesStanding {step : Step Job α} (unreporting : Unreporting H c step) : LeavesStanding H c step :=
  fun s h none => (unreporting s h none).mono fun _ _ _ none => standing_of_none none

theorem Unreporting.bind {first : Step Job α} {next : α → Step Job β} (hf : Unreporting H c first)
    (hn : ∀ a, LeavesStanding H c (next a)) : LeavesStanding H c (first >>= next) := by
  intro s h none
  refine ensures_bind.mpr ((hf s h none).mono fun outcome s' h' none => ?_)
  cases outcome with
  | ok a => exact hn a s' h' none
  | error f => exact standing_of_none none

theorem LeavesStanding.map {step : Step Job α} (hs : LeavesStanding H c step) (f : α → β) :
    LeavesStanding H c (do return f (← step)) := by
  intro s h none
  refine ensures_bind.mpr ((hs s h none).mono fun outcome s' h' hs => ?_)
  cases outcome <;> exact hs

theorem unreporting_get : Unreporting H c (get : Step Job Matcher) := .get

theorem unreporting_modify (f : Matcher → Matcher) : Unreporting H c (modify f : Step Job PUnit) := fun _ _ none => none

theorem unreporting_telemetry (op : Telemetry.Op) : Unreporting H c (askTelemetry op : Step Job op.Answer) :=
  fun _ _ none => none

theorem unreporting_ask (hushed : H.Hushed) {request : Request Job} (hr : ∀ op, request ≠ .telemetry op)
    (shut : ¬H.Opens c request) (other : ∀ s h, Past.standing? (.asked request s :: h : Past Job) = none) :
    Unreporting H c (ask request) :=
  fun s h _ => ensures_closed hushed.toReserved hr shut (standing_asked request) fun _ _ _ _ => other s h

theorem unreporting_plain (hushed : H.Hushed) {request : Request Job} (plain : request.IsPlain) :
    Unreporting H c (ask request) := by
  refine unreporting_ask hushed (by rintro op rfl; exact plain) (fun opens => ?_) fun s h => ?_
  case refine_1 =>
    have shown := hushed.opens c request opens
    cases request <;> first | exact plain | exact shown
  case refine_2 => cases request <;> first | exact plain.elim | rfl

theorem unreporting_cancelTimer (hushed : H.Hushed) : Unreporting H c (cancelTimer : Step Job Unit) := by
  refine Preserves.bind (unreporting_modify _) fun _ => .bind unreporting_get fun m => ?_
  cases m.timer with
  | none => exact .pure ()
  | some timer => exact .bind (unreporting_modify _) fun _ => unreporting_plain hushed trivial

theorem unreporting_startTimer (hushed : H.Hushed) (action : Action) :
    Unreporting H c (startTimer action : Step Job Unit) :=
  Preserves.bind (unreporting_cancelTimer hushed) fun _ => .bind unreporting_get fun _ =>
    .bind (unreporting_plain hushed trivial) fun _ => unreporting_modify _

theorem unreporting_clear (hushed : H.Hushed) : Unreporting H c (clear : Step Job Unit) :=
  Preserves.bind (unreporting_cancelTimer hushed) fun _ => unreporting_modify _

theorem unreporting_reset (hushed : H.Hushed) : Unreporting H c (reset : Step Job Unit) :=
  Preserves.bind unreporting_get fun _ => .bind (unreporting_clear hushed) fun _ =>
    .ite (fun _ => unreporting_ask hushed (by simp) (hushed.quiet _ _) fun _ _ => rfl) fun _ => .pure _

theorem unreporting_abandon (hushed : H.Hushed) : Unreporting H c (abandon : Step Job Unit) :=
  Preserves.bind unreporting_get fun _ => .bind (unreporting_telemetry _) fun _ => unreporting_reset hushed

theorem leavesStanding_dispatch (hushed : H.Hushed) (command : String) :
    LeavesStanding H c (dispatch command : Step Job Unit) := by
  refine unreporting_get.bind fun m => (unreporting_clear hushed).bind fun _ => KeepsStanding.leavesStanding ?_
  refine .bind (keepsStanding_telemetry _) fun _ => .bind (keepsStanding_ask hushed _ (by simp)) fun _ => ?_
  exact .carryOut keepsStanding_telemetry (fun _ => keepsStanding_ask hushed _ (by simp))
    (keepsStanding_ask hushed _ (by simp)) fun _ => keepsStanding_ask hushed _ (by simp)

theorem leavesStanding_expire (hushed : H.Hushed) (expiry : Expiry) :
    LeavesStanding H c (expire expiry : Step Job Unit) := by
  refine unreporting_get.bind fun m s h none => ensures_ite.mpr ?_
  split
  case isFalse => exact standing_of_none none
  case isTrue =>
    refine (unreporting_modify _).bind (fun _ => ?_) s h none
    cases expiry.action with
    | dispatch command => exact leavesStanding_dispatch hushed command
    | abandon => exact (unreporting_abandon hushed).leavesStanding

theorem leavesStanding_arrive (hushed : H.Hushed) (node : Keymap.Node) :
    LeavesStanding H c (arrive node : Step Job Unit) := by
  rw [arrive]
  split
  · exact leavesStanding_dispatch hushed _
  · exact (unreporting_startTimer hushed _).bind fun _ => unreporting_get.bind fun _ =>
      (keepsStanding_ask hushed _ (by simp)).leavesStanding

theorem leavesStanding_followOr (hushed : H.Hushed) (press : Press) (key : Key) {otherwise : Step Job Bool}
    (ho : LeavesStanding H c otherwise) : LeavesStanding H c (followOr press key otherwise) := by
  refine unreporting_get.bind fun m => ?_
  dsimp only
  split
  case h_1 node _ =>
    have arrives : LeavesStanding H c (do arrive node; return true : Step Job Bool) :=
      (leavesStanding_arrive hushed node).map fun _ => true
    have plain : (Request.consume press : Request Job).IsPlain := trivial
    exact (unreporting_cancelTimer hushed).bind fun _ => (unreporting_plain hushed plain).bind fun _ =>
      (unreporting_modify _).bind fun _ => arrives
  case h_2 =>
    intro s h none
    refine ensures_ite.mpr ?_
    split
    case isTrue => exact standing_of_none none
    case isFalse => exact (unreporting_reset hushed).bind (fun _ => ho) s h none

theorem leavesStanding_handle (hushed : H.Hushed) (press : Press) : LeavesStanding H c (handle press : Step Job Bool) := by
  intro s h none
  refine ensures_ite.mpr ?_
  split
  case isTrue => exact standing_of_none none
  case isFalse =>
    cases press.toKey? with
    | none => exact standing_of_none none
    | some key =>
      have follows : LeavesStanding H c (follow press key : Step Job Bool) :=
        leavesStanding_followOr hushed press key
          (leavesStanding_followOr hushed press key (KeepsStanding.leavesStanding (.pure _)))
      refine unreporting_get.bind (fun m => (unreporting_telemetry _).bind fun span => ?_) s h none
      intro s h none
      refine ensures_bind.mpr (ensures_tryCatch.mpr ((follows s h none).mono fun outcome s h hs => ?_))
      cases outcome with
      | ok handled => exact Preserves.bind (keepsStanding_telemetry _) (fun _ => .pure _) s h hs
      | error f =>
        refine ensures_bind.mpr ((keepsStanding_telemetry _ s h hs).mono fun outcome s h hs => ?_)
        cases outcome <;> exact hs

theorem leavesStanding_reload (hushed : H.Hushed) (config : Config) :
    LeavesStanding H c (reload config : Step Job Unit) := by
  intro s h none
  refine ensures_reload (fun _ _ _ => standing_of_none none) fun keymap t _ _ _ => ?_
  refine (unreporting_reset hushed _ h none).mono fun outcome s' h' none => ?_
  cases outcome with
  | ok _ => exact fun _ _ _ => standing_of_none none
  | error f => exact standing_of_none none

theorem leavesStanding_step (hushed : H.Hushed) (call : Call) :
    LeavesStanding H c (call.step : Step Job (Option Bool)) := by
  cases call with
  | press press => exact (leavesStanding_handle hushed press).map some
  | expire expiry => exact (leavesStanding_expire hushed expiry).map fun _ => none
  | reset | close => exact (unreporting_reset hushed).leavesStanding.map fun _ => none
  | reload config => exact (leavesStanding_reload hushed config).map fun _ => none
  | settled command outcome =>
    have settled : KeepsStanding H c (settled command outcome : Step Job Unit) :=
      .settled keepsStanding_telemetry (fun _ => keepsStanding_ask hushed _ (by simp)) outcome
    exact settled.leavesStanding.map fun _ => none

end Steps

-- Every call begins without a report, and one that stands when it ends is about the matcher that it leaves.
theorem standing_kept (hushed : H.Hushed) : (standing Job).Kept operate H where
  meets := fun c s h _ _ => leavesStanding_step hushed c s _ rfl
  opens := fun _ _ _ _ _ hs => hs
  drifts := by
    intro s s' h hd hs s₀ next standing
    have ⟨hm, _⟩ := hushed.drifts s s' hd
    exact hm.trans (hs s₀ next standing)

end Keychord.Matcher
