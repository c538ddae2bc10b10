import Keychord.Proofs.Matcher.Failures
import Keychord.Proofs.UnderWay

namespace Keychord.Matcher

variable {Job : Type} {H : Host Job}

def Awake (s : Logged) : Prop := s.telemetry.active.isSome

def Balanced (h : Past Job) : Prop :=
  Past.reports h = Past.due h ∧ Past.handed h = (Past.dispatches h).filterMap leftWork

abbrev Host.account (H : Host Job) : Pledge Job := H.upholding Awake Balanced

theorem Host.Dependable.reliable (dependable : H.Dependable) : Reliable H H.account where
  toDependable := dependable
  discreet := fun c request _ _ hidden opens => absurd (dependable.opens c request opens) hidden
  even := fun _ _ ⟨awake, told, handed⟩ => ⟨awake, told, handed⟩
  handOver := fun _ _ _ _ even _ => ⟨even.active, even.told, even.handed⟩

theorem even_nil {s : Logged} (awake : Awake s) : Even s ([] : Past Job) := ⟨awake, rfl, rfl⟩

-- Surroundings in which commands come to any end but a cancellation and all others return. Commands call the matcher as
-- they like, and from within nobody else does.
def executingHost (Job : Type) : Host Job where
  calls _ _ _ := True
  during _ request _ := request.IsCommand
  answers request reply :=
    match request with
    | .telemetry _ => True
    | .execute _ | .settle .. => ∀ f, reply = .error f → ¬f.isCancellation
    | _ => ∃ answer, reply = .ok answer
  drifts s s' := s'.matcher = s.matcher ∧ s.telemetry.Use s'.telemetry

theorem executingHost_dependable : (executingHost Job).Dependable where
  opens := by
    rintro _ request ⟨_, command⟩
    cases request with
    | execute | settle => trivial
    | _ => exact command.elim
  drifts := fun _ _ hd => hd
  consume := fun _ _ ⟨_, he⟩ => he
  disarm := fun _ _ ⟨_, he⟩ => he
  publish := fun _ _ ⟨_, he⟩ => he

theorem executingHost_refuses : (executingHost Job).Refuses fun _ _ => False :=
  fun _ _ _ _ ⟨_, he⟩ => nomatch he

theorem executingHost_cancels : (executingHost Job).Cancels fun _ _ => False := by
  intro request f before command hc given
  cases request with
  | execute | settle => exact absurd hc (given f rfl)
  | _ => exact command.elim

def LeadsOn (m : Matcher) (edge : Edge) : Prop :=
  (∃ node, m.keymap.root.find? m.path = some node ∧ edge ∈ node.nextEdges) ∨ edge ∈ m.keymap.root.nextEdges

def Useful (m : Matcher) (press : Press) : Prop :=
  ¬press.isFiltered ∧ ∃ key, press.toKey? = some key ∧ LeadsOn m key.edge

theorem leadsOn_iff {m : Matcher} {edge : Edge} : LeadsOn m edge ↔
    (m.keymap.root.find? (m.path ++ [edge])).isSome ∨ (m.keymap.root.find? [edge]).isSome := by
  simp only [LeadsOn, Keymap.Node.mem_nextEdges_iff, Keymap.Node.find?_append]
  cases m.keymap.root.find? m.path <;> simp

def Past.delivery : Past Job → Delivery
  | [] => {}
  | .asked (.consume _) _ :: h => (delivery h).consume
  | _ :: h => delivery h

def Unused (h : Past Job) : Prop :=
  ∀ request s, .asked request s ∈ h → ¬request.IsCommand ∧ ∀ press, request ≠ .consume press

theorem Unused.asked {h : Past Job} (unused : Unused h) {request : Request Job} {s : Logged} (other : ¬request.IsCommand)
    (hp : ∀ press, request ≠ .consume press) : Unused (.asked request s :: h) := by
  intro request' s' hm
  obtain he | hm := List.mem_cons.mp hm
  · cases he
    exact ⟨other, hp⟩
  · exact unused request' s' hm

theorem Unused.answered {h : Past Job} (unused : Unused h) (request : Request Job)
    (reply : Except Failure ((surroundings Job).Answer request)) : Unused (.answered request reply :: h) :=
  fun request' s' hm => unused request' s' ((List.mem_cons.mp hm).resolve_left nofun)

theorem Unused.disarmed {s : Logged} {h h' : Past Job} (unused : Unused h) (hd : Disarmed s h h') : Unused h' := by
  cases hd with
  | none => exact unused
  | some timer reply => exact (unused.asked id (by simp)).answered _ _

theorem Unused.delivery {h : Past Job} (unused : Unused h) : Past.delivery h = {} := by
  induction h with
  | nil => rfl
  | cons sight h ih =>
    have rest := ih fun request s hm => unused request s (List.mem_cons_of_mem _ hm)
    cases sight with
    | asked request s =>
      cases request with
      | consume press => exact absurd rfl ((unused _ s List.mem_cons_self).right press)
      | _ => exact rest
    | _ => exact rest

theorem Unused.executed {h before : Past Job} (unused : Unused h) : Past.executed (h ++ before) = Past.executed before := by
  induction h with
  | nil => rfl
  | cons sight h ih =>
    have rest := ih fun request s hm => unused request s (List.mem_cons_of_mem _ hm)
    cases sight with
    | asked request s =>
      cases request with
      | execute command => exact absurd trivial (unused _ s List.mem_cons_self).left
      | _ => exact rest
    | _ => exact rest

theorem delivery_of_consumed {h : Past Job} {press : Press} {s : Logged} (hm : .asked (.consume press) s ∈ h) :
    Past.delivery h = ⟨true, true⟩ := by
  induction h with
  | nil => cases hm
  | cons sight h ih =>
    obtain he | hm := List.mem_cons.mp hm
    · cases he
      rfl
    · have rest := ih hm
      cases sight with
      | asked request s' =>
        cases request with
        | consume => rfl
        | _ => exact rest
      | _ => exact rest

structure Verdict (m : Matcher) (press : Press) (handled : Bool) (own : Past Job) : Prop where
  taken    : handled = true → Useful m press ∧ ∃ s, .asked (.consume press) s ∈ own
  declined : handled = false → ¬Useful m press ∧ Unused own

section Steps

variable {c : Call} {s : Logged} {h : Past Job} {m : Matcher} {press : Press} {key : Key}

abbrev Judges (m : Matcher) (press : Press) (c : Call) (step : Step Job Bool) (s : Logged) (h : Past Job) : Prop :=
  Ensures (executingHost Job) (executingHost Job).account c step
    (fun outcome s' own => Even s' own ∧ ∃ handled, outcome = .ok handled ∧ Verdict m press handled own) s h

theorem ensures_reset_unused (even : Even s h) (unused : Unused h) :
    Ensures (executingHost Job) (executingHost Job).account c reset (fun outcome s' h' =>
      outcome = .ok () ∧ s'.matcher = cleared s.matcher ∧ Even s' h' ∧ Unused h') s h := by
  have reliable : Reliable (executingHost Job) (executingHost Job).account := executingHost_dependable.reliable
  refine ensures_get_bind.mpr (ensures_bind.mpr (ensures_clear reliable.toReserved reliable.discreet ?_ ?_))
  case refine_1 =>
    intro t h' ht hd
    have even' : Even ⟨cleared s.matcher, t⟩ h' := even.disarmed hd ht
    refine then_ok.mpr (ensures_ite.mpr ?_)
    split
    case isTrue =>
      have shut : ¬(executingHost Job).Opens c (.publish .reset) := fun ⟨_, command⟩ => command
      refine ensures_closed reliable.toReserved (by simp) shut (fun opens => absurd opens shut) fun reply t' given ht' => ?_
      obtain rfl := reliable.publish _ reply given
      exact ⟨rfl, rfl, ⟨ht'.active even'.active, even'.told, even'.handed⟩,
        ((unused.disarmed hd).asked id (by simp)).answered _ _⟩
    case isFalse => exact ⟨rfl, rfl, even', unused.disarmed hd⟩
  case refine_2 =>
    intro f t h' failed
    exact absurd (reliable.disarms failed) nofun

-- A key that leads on is consumed before anything else is done. One that does not is given up.
theorem judges_followOr (even : Even s h) (unused : Unused h) {otherwise : Step Job Bool}
    (here : (s.matcher.keymap.root.find? (s.matcher.path ++ [key.edge])).isSome → Useful m press)
    (nowhere : s.matcher.keymap.root.find? (s.matcher.path ++ [key.edge]) = none → s.matcher.path = [] → ¬Useful m press)
    (ho : s.matcher.keymap.root.find? (s.matcher.path ++ [key.edge]) = none → ∀ s' h', s'.matcher = cleared s.matcher →
      Even s' h' → Unused h' → Judges m press c otherwise s' h') : Judges m press c (followOr press key otherwise) s h := by
  have reliable : Reliable (executingHost Job) (executingHost Job).account := executingHost_dependable.reliable
  refine ensures_get_bind.mpr ?_
  dsimp only
  cases hn : s.matcher.keymap.root.find? (s.matcher.path ++ [key.edge]) with
  | some node =>
    refine ensures_bind.mpr (((withstands_cancelTimer reliable).sure even).mono ?_)
    rintro _ s₁ h₁ ⟨⟨_, rfl⟩, even₁⟩
    refine ensures_bind.mpr (ensures_plain reliable.toReserved reliable.discreet (.consume press) trivial ?_)
    intro reply t given ha
    obtain rfl := reliable.consume press reply given
    have arrives : Withstands (executingHost Job) (executingHost Job).account c (fun _ _ => False) (arrive node) :=
      withstands_arrive reliable executingHost_refuses executingHost_cancels node
    refine ensures_bind.mpr (ensures_modify.mpr (then_ok.mpr (ensures_bind.mpr ?_)))
    refine Ensures.mono (Run.Meets.grows (arrives.sure ?_)) ?_
    case refine_1 => exact ⟨ha.active even₁.active, even₁.told, even₁.handed⟩
    case refine_2 =>
      rintro _ s₂ h₂ ⟨⟨⟨_, rfl⟩, even₂⟩, grown⟩
      have consumed : .asked (.consume press) s₁ ∈ h₂ := grown.subset (by simp)
      exact ⟨even₂, true, rfl, fun _ => ⟨here (by simp [hn]), s₁, consumed⟩, by simp⟩
  | none =>
    refine ensures_ite.mpr ?_
    split
    case isTrue idle =>
      have start : s.matcher.path = [] := by simpa [isIdle] using idle
      exact ⟨even, false, rfl, by simp, fun _ => ⟨nowhere hn start, unused⟩⟩
    case isFalse =>
      refine ensures_bind.mpr ((ensures_reset_unused even unused).mono ?_)
      rintro _ s' h' ⟨rfl, hm, even', unused'⟩
      exact ho hn s' h' hm even' unused'

theorem useful_iff (filtered : ¬press.isFiltered) (hk : press.toKey? = some key) : Useful m press ↔ LeadsOn m key.edge := by
  simp [Useful, filtered, hk]

theorem judges_follow (even : Even s h) (unused : Unused h) (useful : Useful s.matcher press ↔ LeadsOn s.matcher key.edge) :
    Judges s.matcher press c (follow press key) s h := by
  rw [leadsOn_iff] at useful
  refine judges_followOr even unused (fun here => useful.mpr (.inl here)) ?_ ?_
  case refine_1 =>
    intro gone start
    have gone' : s.matcher.keymap.root.find? [key.edge] = none := by simpa [start] using gone
    simp [useful, gone, gone']
  case refine_2 =>
    intro gone s' h' hm even' unused'
    refine judges_followOr even' unused' ?_ ?_ ?_
    case refine_1 =>
      rw [hm]
      exact fun here => useful.mpr (.inr here)
    case refine_2 =>
      rw [hm]
      intro gone' _
      have gone' : s.matcher.keymap.root.find? [key.edge] = none := gone'
      simp [useful, gone, gone']
    case refine_3 =>
      rw [hm]
      intro gone' s'' h'' _ even'' unused''
      have gone' : s.matcher.keymap.root.find? [key.edge] = none := gone'
      exact ⟨even'', false, rfl, nofun, fun _ => ⟨by simp [useful, gone, gone'], unused''⟩⟩

theorem judges_handle (even : Even s h) (unused : Unused h) : Judges s.matcher press c (handle press) s h := by
  refine ensures_ite.mpr ?_
  split
  case isTrue filtered => exact ⟨even, false, rfl, nofun, fun _ => ⟨fun useful => useful.left filtered, unused⟩⟩
  case isFalse filtered =>
    cases hk : press.toKey? with
    | none => exact ⟨even, false, rfl, nofun, fun _ => ⟨by simp [Useful, hk], unused⟩⟩
    | some key =>
      refine ensures_get_bind.mpr (ensures_span even.active fun t ha => ?_)
      refine (judges_follow (even.drift ha) unused (useful_iff filtered hk)).mono ?_
      rintro _ s' h' ⟨even', handled, rfl, verdict⟩ t' ha'
      exact ⟨even'.drift ha', handled, rfl, verdict⟩

end Steps

-- What has come of a press when it returns: it was handled just if it was of use, and just if it was consumed. If it
-- was not handled, the host has been asked for nothing and no command has been carried out meanwhile. A key that is
-- bound from the start was handled, whatever it has interrupted.
structure Decided (press : Press) (u : Undertaking (surroundings Job) Logged Call (Option Bool)) (before : Past Job)
    (handled : Bool) : Prop where
  useful   : handled = true ↔ Useful u.state.matcher press
  consumed : handled = true ↔ (Past.delivery u.own).consumed
  itself   : handled = true → ∃ s, .asked (.consume press) s ∈ u.own
  declined : handled = false → Past.delivery u.own = {} ∧ Past.executed before = Past.executed u.before
  bound    : ¬press.isFiltered → ∀ key, press.toKey? = some key → key.edge ∈ u.state.matcher.keymap.root.nextEdges →
    handled = true

theorem Verdict.decided {press : Press} {handled : Bool} {u : Undertaking (surroundings Job) Logged Call (Option Bool)}
    {before : Past Job} (verdict : Verdict u.state.matcher press handled u.own)
    (accounts : u.Accounts (executingHost Job) before) : Decided press u before handled := by
  obtain ⟨taken, left⟩ := verdict
  cases handled with
  | true =>
    obtain ⟨useful, s, consumed⟩ := taken rfl
    refine ⟨by simp [useful], ?_, fun _ => ⟨s, consumed⟩, nofun, fun _ _ _ _ => rfl⟩
    simp [delivery_of_consumed consumed, Delivery.consumed]
  | false =>
    obtain ⟨useless, unused⟩ := left rfl
    have alone : u.Alone (executingHost Job) := fun request s hm ⟨_, command⟩ => (unused request s hm).left command
    refine ⟨by simp [useless], ?_, nofun, fun _ => ⟨unused.delivery, ?_⟩, fun filtered key hk bound => ?_⟩
    · simp [unused.delivery, Delivery.consumed]
    · rw [accounts alone]
      exact unused.executed
    · exact absurd ⟨filtered, key, hk, .inr bound⟩ useless

theorem undertakes_of_made {config : Config} {s : Logged} {M : Working Job} (made : Made Job config s)
    (reaches : Machine.Reaches operate (executingHost Job) ⟨s, [], []⟩ M) :
    Machine.Undertakes (executingHost Job) Awake (fun u outcome _ => ∀ press, u.call = .press press → ∃ handled,
      outcome = .ok (some handled) ∧ Verdict u.state.matcher press handled u.own) M := by
  obtain ⟨keymap, -, hm⟩ := made.compiles
  refine reaches.undertakes (fun c s h _ awake => ?_) ?_ rfl rfl hm.active
  case refine_1 =>
    have reliable : Reliable (executingHost Job) (executingHost Job).account := executingHost_dependable.reliable
    by_cases hp : ∃ press, c = .press press
    case pos =>
      obtain ⟨press, rfl⟩ := hp
      have unused : Unused ([.called (.press press) s] : Past Job) := by simp [Unused]
      have judged : Judges s.matcher press (.press press) (handle press) s [.called (.press press) s] :=
        judges_handle ⟨awake, rfl, rfl⟩ unused
      refine Run.Meets.delivers (ensures_bind.mpr (judged.mono ?_))
      rintro _ s' own ⟨even, handled, rfl, verdict⟩
      refine ⟨even.active, ?_⟩
      rintro _ ⟨⟩
      exact ⟨handled, rfl, verdict⟩
    case neg =>
      have called := ensures_call reliable executingHost_refuses executingHost_cancels (even_nil awake) c
      exact Run.Meets.delivers (called.mono fun _ _ _ ends => ⟨ends.left.active, fun press he => absurd ⟨press, he⟩ hp⟩)
  case refine_2 =>
    rintro s ⟨m, t⟩ ⟨-, used⟩ awake
    exact used.advances.active awake

theorem executingHost_calm (request : Request Job) : (executingHost Job).answers request (calm request) := by
  cases request with
  | telemetry => trivial
  | execute | settle => rintro _ ⟨⟩
  | _ => exact ⟨_, rfl⟩

-- Wherever a press is made, it is answered, and what has come of it is decided by where the matcher was.
theorem handled_iff_consumed {config : Config} {s : Logged} {M : Working Job} (made : Made Job config s)
    (reaches : Machine.Reaches operate (executingHost Job) ⟨s, [], []⟩ M) :
    (∀ press outcome s' before, .returned (.press press) outcome s' :: before <:+ M.history →
      ∃ u rest handled, History.underWay before = u :: rest ∧ u.call = .press press ∧ outcome = .ok (some handled) ∧
        Decided press u before handled) ∧
    (M.Open (executingHost Job) → ∀ press, ∃ M' handled s' before, Machine.Reaches operate (executingHost Job) M M' ∧
      M'.frames = M.frames ∧ M'.history = .returned (.press press) (.ok (some handled)) s' :: before ∧
        .called (.press press) M.state :: M.history <:+ before) := by
  have decided : ∀ {M : Working Job}, Machine.Reaches operate (executingHost Job) ⟨s, [], []⟩ M →
      ∀ press outcome s' before, .returned (.press press) outcome s' :: before <:+ M.history →
        ∃ u rest handled, History.underWay before = u :: rest ∧ u.call = .press press ∧ outcome = .ok (some handled) ∧
          Decided press u before handled := by
    intro M reaches press outcome s' before hs
    obtain ⟨u, rest, hu, hc, judged, accounts⟩ := (undertakes_of_made made reaches).returned _ _ _ _ hs
    obtain ⟨handled, ho, verdict⟩ := judged press hc
    exact ⟨u, rest, handled, hu, hc, ho, verdict.decided accounts⟩
  refine ⟨decided reaches, fun opens press => ?_⟩
  have free : ∀ frame ∈ M.frames.head?, (executingHost Job).during frame.call frame.request (.press press) := by
    intro frame hf
    obtain ⟨_, command⟩ := opens frame hf
    exact command
  obtain ⟨M', outcome, s', before, further, frames, history, called⟩ : ∃ M' outcome s' before,
      Machine.Reaches operate (executingHost Job) M M' ∧ M'.frames = M.frames ∧
        M'.history = .returned (.press press) outcome s' :: before ∧
          .called (.press press) M.state :: M.history <:+ before :=
    Machine.exists_returned executingHost_calm free trivial
  obtain ⟨u, rest, handled, -, -, rfl, -⟩ := decided (reaches.trans further) press outcome s' before ⟨[], history.symm⟩
  exact ⟨M', handled, s', before, further, frames, history, called⟩

def keyed (s : Logged) : Working Unit := .serve operate calm ⟨s, [], []⟩ (.press ⟨"a", {}, none⟩)

def strayed (s : Logged) : Working Unit := .serve operate calm (keyed s) (.press ⟨"x", {}, none⟩)

theorem reaches_strayed (s : Logged) : Machine.Reaches operate (executingHost Unit) ⟨s, [], []⟩ (strayed s) := by
  have rest : (⟨s, [], []⟩ : Working Unit).Resting := rfl
  have first : Machine.Reaches operate (executingHost Unit) ⟨s, [], []⟩ (keyed s) :=
    .serve executingHost_calm .refl rest trivial
  exact .serve executingHost_calm first (Machine.resting_serve _ _ _) trivial

theorem strayed_outcomes : started?.map (fun s => Past.outcomes (strayed s).history) =
    some [.ok (some false), .ok (some true)] := by decide +kernel

theorem handled_iff_consumed_strayed : ∃ s outcome s' before u, Made Unit chord s ∧
    Machine.Reaches operate (executingHost Unit) ⟨s, [], []⟩ (strayed s) ∧
    (strayed s).history = .returned (.press ⟨"x", {}, none⟩) outcome s' :: before ∧
      Decided ⟨"x", {}, none⟩ u before false := by
  obtain ⟨s, hs, outcomes⟩ := Option.map_eq_some_iff.mp strayed_outcomes
  have made : Made Unit chord s := made_of_started? hs
  obtain ⟨outcome, s', before, history⟩ := Machine.exists_history_serve operate calm (keyed s) (.press ⟨"x", {}, none⟩)
  have history : (strayed s).history = .returned (.press ⟨"x", {}, none⟩) outcome s' :: before := history
  obtain ⟨u, _, handled, -, -, answered, decided⟩ :=
    (handled_iff_consumed made (reaches_strayed s)).left _ _ _ _ ⟨[], history.symm⟩
  obtain rfl : handled = false := by
    rw [history] at outcomes
    simpa [answered] using (List.cons.inj outcomes).left
  exact ⟨s, outcome, s', before, u, made, reaches_strayed s, history, decided⟩

end Keychord.Matcher
