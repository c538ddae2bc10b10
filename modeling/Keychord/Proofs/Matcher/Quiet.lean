import Keychord.Proofs.Matcher.StaleTimers

namespace Keychord.Matcher

variable {Job α : Type}

namespace Past

def calls : Past Job → List Call
  | [] => []
  | .called call _ :: h => call :: calls h
  | _ :: h => calls h

def outcomes : Past Job → List (Except Failure (Option Bool))
  | [] => []
  | .returned _ outcome _ :: h => outcome :: outcomes h
  | _ :: h => outcomes h

def executed : Past Job → List String
  | [] => []
  | .asked (.execute command) _ :: h => command :: executed h
  | _ :: h => executed h

def Cancelled (f : Failure) (h : Past Job) : Prop :=
  f.isCancellation ∧ ((∃ command, .answered (.execute command) (.error f) ∈ h) ∨
    ∃ command job, .answered (.settle command job) (.error f) ∈ h)

theorem Cancelled.mono {f : Failure} {h h' : Past Job} (hc : Cancelled f h) (hs : h <:+ h') : Cancelled f h' := by
  obtain ⟨hf, ⟨command, hm⟩ | ⟨command, job, hm⟩⟩ := hc
  · exact ⟨hf, .inl ⟨command, hs.subset hm⟩⟩
  · exact ⟨hf, .inr ⟨command, job, hs.subset hm⟩⟩

end Past

def Ends (a : α) (h : Past Job) : Except Failure α → Prop
  | .ok a' => a' = a
  | .error f => Past.Cancelled f h

theorem Ends.mono {a : α} {h h' : Past Job} {outcome : Except Failure α} (e : Ends a h outcome) (hs : h <:+ h') :
    Ends a h' outcome := by
  cases outcome with
  | ok a' => exact e
  | error f => exact Past.Cancelled.mono e hs

-- Surroundings in which nobody calls from within, timers, subscribers and the host of the presses do not fail, and
-- only the callback that is held is called.
def quietHost (Job : Type) : Host Job where
  calls call s h :=
    match call with
    | .press _ | .reset => True
    | .expire expiry => Holds expiry s.matcher h
    | _ => False
  during _ _ _ := False
  answers request reply :=
    match request with
    | .telemetry _ | .execute _ | .settle .. => True
    | _ => ∃ answer, reply = .ok answer
  drifts s s' := s'.matcher = s.matcher ∧ s.telemetry.Use s'.telemetry

theorem quietHost_reserved : (quietHost Job).Reserved where
  opens := by rintro _ _ ⟨_, ⟨⟩⟩
  drifts := fun _ _ hd => hd

theorem quietHost_calm (request : Request Job) : (quietHost Job).answers request (calm request) := by
  cases request with
  | telemetry | execute | settle => trivial
  | _ => exact ⟨_, rfl⟩

structure Onward (s : Logged) (h : Past Job) (commands : List String) (s' : Logged) (h' : Past Job) : Prop where
  active   : s.telemetry.active.isSome → s'.telemetry.active.isSome
  grown    : h <:+ h'
  calls    : Past.calls h' = Past.calls h
  outcomes : Past.outcomes h' = Past.outcomes h
  executed : Past.executed h' = commands ++ Past.executed h

namespace Onward

variable {s s' s'' : Logged} {h h' h'' : Past Job} {commands commands' : List String}

theorem trans (o : Onward s h commands s' h') (o' : Onward s' h' commands' s'' h'') :
    Onward s h (commands' ++ commands) s'' h'' where
  active := o'.active ∘ o.active
  grown := o.grown.trans o'.grown
  calls := o'.calls.trans o.calls
  outcomes := o'.outcomes.trans o.outcomes
  executed := by rw [o'.executed, o.executed, List.append_assoc]

theorem drift {m m' : Matcher} {t t' : Telemetry} (ha : t.Advances t') : Onward ⟨m, t⟩ h [] ⟨m', t'⟩ h where
  active := ha.active
  grown := List.suffix_refl h
  calls := rfl
  outcomes := rfl
  executed := rfl

end Onward

section Steps

variable {inv : Logged → Past Job → Prop} {c : Call} {s : Logged} {h : Past Job}

def silent (inv : Logged → Past Job → Prop) : Pledge Job := ⟨inv, fun _ _ _ _ => True⟩

theorem silent_discreet : (silent inv).Discreet := fun _ _ _ _ _ => trivial

abbrev Quietly (inv : Logged → Past Job → Prop) (c : Call) (step : Step Job α)
    (Q : Except Failure α → Logged → Past Job → Prop) (s : Logged) (h : Past Job) : Prop :=
  Ensures (quietHost Job) (silent inv) c step Q s h

theorem quiet_ask {request : Request Job} (hr : ∀ op, request ≠ .telemetry op)
    {Q : Except Failure ((surroundings Job).Answer request) → Logged → Past Job → Prop}
    (hq : ∀ reply t, (quietHost Job).answers request reply → s.telemetry.Advances t →
      Q reply ⟨s.matcher, t⟩ (.answered request reply :: .asked request s :: h)) :
    Quietly inv c (ask request) Q s h :=
  ensures_closed quietHost_reserved hr (by rintro ⟨_, ⟨⟩⟩) trivial hq

theorem quiet_publish (event : Event) : Quietly inv c (ask (.publish event)) (fun outcome s' h' =>
    outcome = .ok () ∧ s'.matcher = s.matcher ∧ Past.latest? h' = Past.latest? h ∧ Onward s h [] s' h') s h := by
  refine quiet_ask (by simp) fun reply t ha ht => ?_
  obtain ⟨_, rfl⟩ := ha
  exact ⟨rfl, rfl, rfl, ht.active, ⟨[_, _], rfl⟩, rfl, rfl, rfl⟩

theorem quiet_record (ha : s.telemetry.active.isSome) (name : String) {level : String}
    (hl : Telemetry.fieldLevels.contains (Text.lower level)) {data : List (String × Value)}
    (hd : ∀ e ∈ data, e.2.text?.isSome) :
    Quietly inv c (askTelemetry (.record name level data)) (fun outcome s' h' =>
      outcome = .ok () ∧ s'.matcher = s.matcher ∧ h' = h ∧ Onward s h [] s' h) s h := by
  obtain ⟨t, hp, hm⟩ := Telemetry.record_ok ha hl hd name
  exact ensures_of_perform hp ⟨rfl, rfl, rfl, .drift hm⟩

theorem Onward.disarmed {m : Matcher} {t : Telemetry} {h' : Past Job} (hd : Disarmed s h h')
    (ht : s.telemetry.Advances t) : Onward s h [] ⟨m, t⟩ h' := by
  cases hd with
  | none => exact .drift ht
  | some timer reply => exact ⟨ht.active, ⟨[_, _], rfl⟩, rfl, rfl, rfl⟩

theorem quiet_disarms {outcome : Except Failure Unit} (hd : (quietHost Job).Disarms outcome) : outcome = .ok () := by
  obtain rfl | ⟨timer, answer, rfl⟩ := hd <;> rfl

theorem quiet_cancelTimer : Quietly inv c cancelTimer (fun outcome s' h' =>
    outcome = .ok () ∧ s'.matcher = released s.matcher ∧ Onward s h [] s' h') s h :=
  ensures_cancelTimer quietHost_reserved silent_discreet fun _ _ _ hf ht hd =>
    ⟨quiet_disarms hf, rfl, .disarmed hd ht⟩

theorem quiet_clear : Quietly inv c clear (fun outcome s' h' =>
    outcome = .ok () ∧ s'.matcher = cleared s.matcher ∧ Onward s h [] s' h') s h := by
  refine ensures_clear quietHost_reserved silent_discreet ?_ ?_
  case refine_1 => exact fun t h' ht hd => ⟨rfl, rfl, .disarmed hd ht⟩
  case refine_2 => exact fun f t h' hf ht hd => nomatch quiet_disarms hf

theorem quiet_reset : Quietly inv c reset (fun outcome s' h' =>
    outcome = .ok () ∧ s'.matcher = cleared s.matcher ∧ Onward s h [] s' h') s h := by
  refine ensures_get_bind.mpr (ensures_bind.mpr (quiet_clear.mono ?_))
  rintro _ s₁ h₁ ⟨rfl, hm, o⟩
  refine ensures_ite.mpr ?_
  split
  case isFalse => exact ⟨rfl, hm, o⟩
  case isTrue =>
    refine (quiet_publish .reset).mono ?_
    rintro _ s₂ h₂ ⟨rfl, hm', -, o'⟩
    exact ⟨rfl, hm'.trans hm, o.trans o'⟩

theorem quiet_startTimer (action : Action) : Quietly inv c (startTimer action) (fun outcome s' h' =>
    outcome = .ok () ∧ ∃ timer, s'.matcher = { released s.matcher with timer := some timer } ∧
      Past.latest? h' = some (⟨s.matcher.generation + 1, action⟩, timer) ∧ Onward s h [] s' h') s h := by
  refine ensures_startTimer quietHost_reserved silent_discreet ?_ ?_
  case refine_1 => exact fun f t h' hf ht hd => nomatch quiet_disarms hf
  case refine_2 =>
    rintro reply t t' h' ⟨timer, rfl⟩ ht ht' hd
    have o : Onward s h [] ⟨released s.matcher, t⟩ h' := .disarmed hd ht
    exact ⟨rfl, timer, rfl, rfl, ht'.active ∘ o.active, o.grown.trans ⟨[_, _], rfl⟩, o.calls, o.outcomes, o.executed⟩

theorem quiet_reportFailure (ha : s.telemetry.active.isSome) (command : String) (failure : Failure) :
    Quietly inv c (reportFailure command failure) (fun outcome s' h' =>
      outcome = .ok () ∧ s'.matcher = s.matcher ∧ Onward s h [] s' h') s h := by
  refine ensures_bind.mpr ((quiet_record ha "keys.dispatch_failed" (by decide) ?_).mono ?_)
  case refine_1 => simp
  case refine_2 =>
    rintro _ s₁ _ ⟨rfl, hm, rfl, o⟩
    refine (quiet_publish _).mono ?_
    rintro _ s₂ h₂ ⟨rfl, hm', -, o'⟩
    exact ⟨rfl, hm'.trans hm, o.trans o'⟩

theorem quiet_reportIfFailed {commands : List String} {m : Matcher} (ha : s.telemetry.active.isSome) (command : String)
    {step : Step Job α} (hs : Quietly inv c step (fun outcome s' h' => s'.matcher = m ∧ Onward s h commands s' h' ∧
      ∀ f, outcome = .error f → f.isCancellation → Past.Cancelled f h') s h) :
    Quietly inv c (reportIfFailed command step) (fun outcome s' h' => s'.matcher = m ∧ Onward s h commands s' h' ∧
      ∀ f, outcome = .error f → Past.Cancelled f h') s h := by
  refine ensures_bind.mpr (ensures_attempt.mpr (hs.mono ?_))
  rintro outcome s₁ h₁ ⟨hm, o, hf⟩
  cases outcome with
  | ok a => exact ⟨hm, o, nofun⟩
  | error failure =>
    have hr : Quietly inv c (do reportFailure command failure; return (none : Option α)) (fun outcome s' h' =>
        s'.matcher = m ∧ Onward s h commands s' h' ∧ ∀ f, outcome = .error f → Past.Cancelled f h') s₁ h₁ := by
      refine ensures_bind.mpr ((quiet_reportFailure (o.active ha) command failure).mono ?_)
      rintro _ s₂ h₂ ⟨rfl, hm', o'⟩
      exact ⟨hm'.trans hm, o.trans o', nofun⟩
    refine ensures_ite.mpr ?_
    split
    case isTrue hc => exact ⟨hm, o, by rintro _ ⟨⟩; exact hf _ rfl hc⟩
    case isFalse => exact hr

theorem quiet_execute (command : String) : Quietly inv c (ask (.execute command)) (fun outcome s' h' =>
    s'.matcher = s.matcher ∧ Onward s h [command] s' h' ∧
      ∀ f, outcome = .error f → f.isCancellation → Past.Cancelled f h') s h := by
  refine quiet_ask (by simp) fun reply t _ ht => ?_
  refine ⟨rfl, ⟨ht.active, ⟨[_, _], rfl⟩, rfl, rfl, rfl⟩, ?_⟩
  rintro f rfl hc
  exact ⟨hc, .inl ⟨command, List.mem_cons_self⟩⟩

theorem quiet_settle (command : String) (job : Job) : Quietly inv c (ask (.settle command job)) (fun outcome s' h' =>
    s'.matcher = s.matcher ∧ Onward s h [] s' h' ∧
      ∀ f, outcome = .error f → f.isCancellation → Past.Cancelled f h') s h := by
  refine quiet_ask (by simp) fun reply t _ ht => ?_
  refine ⟨rfl, ⟨ht.active, ⟨[_, _], rfl⟩, rfl, rfl, rfl⟩, ?_⟩
  rintro f rfl hc
  exact ⟨hc, .inr ⟨command, job, List.mem_cons_self⟩⟩

theorem quiet_consume (press : Press) : Quietly inv c (ask (.consume press)) (fun outcome s' h' =>
    outcome = .ok () ∧ s'.matcher = s.matcher ∧ Onward s h [] s' h') s h := by
  refine quiet_ask (by simp) fun reply t ha ht => ?_
  obtain ⟨_, rfl⟩ := ha
  exact ⟨rfl, rfl, ht.active, ⟨[_, _], rfl⟩, rfl, rfl, rfl⟩

theorem quiet_dispatch (ha : s.telemetry.active.isSome) (command : String) :
    Quietly inv c (dispatch command) (fun outcome s' h' => Ends () h' outcome ∧ s'.matcher = cleared s.matcher ∧
      Onward s h [command] s' h') s h := by
  refine ensures_get_bind.mpr (ensures_bind.mpr (quiet_clear.mono ?_))
  rintro _ s₁ h₁ ⟨rfl, hm₁, o₁⟩
  refine ensures_bind.mpr ((quiet_record (o₁.active ha) "keys.dispatch" (by decide) ?_).mono ?_)
  case refine_1 => simp
  rintro _ s₂ _ ⟨rfl, hm₂, rfl, o₂⟩
  have o₂ := o₁.trans o₂
  refine ensures_bind.mpr ((quiet_publish _).mono ?_)
  rintro _ s₃ h₃ ⟨rfl, hm₃, -, o₃⟩
  have o₃ := o₂.trans o₃
  refine ensures_bind.mpr ((quiet_reportIfFailed (o₃.active ha) command (quiet_execute command)).mono ?_)
  rintro outcome s₄ h₄ ⟨hm₄, o₄, hf⟩
  have o₄ := o₃.trans o₄
  have hm₄ : s₄.matcher = cleared s.matcher := by rw [hm₄, hm₃, hm₂, hm₁]
  cases outcome with
  | error f => exact ⟨hf f rfl, hm₄, o₄⟩
  | ok work =>
    cases work with
    | none => exact ⟨rfl, hm₄, o₄⟩
    | some left =>
      cases left with
      | none => exact ⟨rfl, hm₄, o₄⟩
      | some job =>
        refine ensures_bind.mpr ((quiet_reportIfFailed (o₄.active ha) command (quiet_settle command job)).mono ?_)
        rintro outcome s₅ h₅ ⟨hm₅, o₅, hf⟩
        have o₅ := o₄.trans o₅
        cases outcome with
        | error f => exact ⟨hf f rfl, hm₅.trans hm₄, o₅⟩
        | ok _ => exact ⟨rfl, hm₅.trans hm₄, o₅⟩

theorem quiet_abandon (ha : s.telemetry.active.isSome) : Quietly inv c abandon (fun outcome s' h' =>
    outcome = .ok () ∧ s'.matcher = cleared s.matcher ∧ Onward s h [] s' h') s h := by
  refine ensures_get_bind.mpr (ensures_bind.mpr ((quiet_record ha "keys.abandoned" (by decide) ?_).mono ?_))
  case refine_1 => simp
  rintro _ s₁ _ ⟨rfl, hm, rfl, o⟩
  refine quiet_reset.mono ?_
  rintro _ s₂ h₂ ⟨rfl, hm', o'⟩
  exact ⟨rfl, hm'.trans (congrArg cleared hm), o.trans o'⟩

end Steps

end Keychord.Matcher
