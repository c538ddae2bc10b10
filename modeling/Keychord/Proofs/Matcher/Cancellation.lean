import Keychord.Proofs.Matcher.FailedReload
import Keychord.Proofs.Matcher.Reporting

namespace Keychord.Matcher

variable {Job α β γ : Type}

def DoneOrCancelled (outcome : Except Failure α) : Prop := ∀ f, outcome = .error f → f.isCancellation

def EndsLike (outcome : Except Failure α) (s : Logged) (run : Run (surroundings Job) Logged β) : Prop :=
  ∃ outcome' t, run = .finished outcome' ⟨s.matcher, t⟩ ∧ s.telemetry.Advances t ∧ Agree (fun _ _ => True) outcome outcome'

def PassesOn (next : Except Failure α → Step Job β) : Prop :=
  ∀ outcome s, DoneOrCancelled outcome → EndsLike outcome s (Logged.step (next outcome) s)

def Settles : (request : Request Job) → Resume Job α request → Prop
  | .settle _ _, resume => ∀ reply s, DoneOrCancelled reply → EndsLike reply s (resume reply s)
  | _, _ => True

def settling (Job : Type) : Pattern Job where
  before _ request _ := request.work? = none
  whole _ := Settles
  after := PassesOn

section Steps

theorem EndsLike.andThen {outcome : Except Failure γ} {s : Logged} {run : Run (surroundings Job) Logged α}
    {next : Except Failure α → Step Job β} (mild : DoneOrCancelled outcome) (ends : EndsLike outcome s run)
    (passes : PassesOn next) : EndsLike outcome s (run.andThen fun outcome => Logged.step (next outcome)) := by
  obtain ⟨_, t, rfl, ha, agree⟩ := ends
  cases agree with
  | ok =>
    obtain ⟨_, t', he, ha', agree⟩ := passes (.ok _) ⟨s.matcher, t⟩ nofun
    cases agree
    exact ⟨_, t', he, .trans _ _ _ ha ha', .ok trivial⟩
  | error f =>
    obtain ⟨_, t', he, ha', agree⟩ := passes (.error f) ⟨s.matcher, t⟩ (by rintro _ ⟨⟩; exact mild f rfl)
    cases agree
    exact ⟨_, t', he, .trans _ _ _ ha ha', .error f⟩

theorem passesOn_ifOk {next : α → Step Job β} (hn : ∀ a s, ∃ b t, Logged.step (next a) s = .finished (.ok b) ⟨s.matcher, t⟩ ∧
    s.telemetry.Advances t) : PassesOn fun
      | .ok a => next a
      | .error f => fun s => .finished (.error f) s := by
  intro outcome s _
  cases outcome with
  | ok a =>
    obtain ⟨b, t, he, ha⟩ := hn a s
    exact ⟨_, t, he, ha, .ok trivial⟩
  | error f => exact ⟨_, s.telemetry, rfl, .refl _, .error f⟩

theorem unsettled_common : Mark.Common (settling Job).before where
  andThen := fun _ _ _ other => other
  ask := by
    intro request usual
    cases request with
    | settle => exact usual.elim
    | _ => rfl

theorem settles_of_other {request : Request Job} (other : request.work? = none) (resume : Resume Job α request) :
    Settles request resume := by
  cases request with
  | settle => cases other
  | _ => trivial

theorem step_of_perform {op : Telemetry.Op} {a : op.Answer} {next : op.Answer → Step Job β} {s : Logged} {t : Telemetry}
    (hp : Telemetry.perform op s.telemetry = (.ok a, t)) :
    Logged.step (askTelemetry op >>= next) s = Logged.step (next a) ⟨s.matcher, t⟩ := by
  show Logged.run ((Run.finished (Telemetry.perform op s.telemetry).1 s.matcher).andThen _)
    (Telemetry.perform op s.telemetry).2 = _
  rw [hp]
  rfl

theorem settling_lawful : (settling Job).Lawful where
  common := unsettled_common
  covers _ resume other := settles_of_other other resume
  precedes _ _ _ other := settles_of_other other _
  follows := by
    intro _ _ request resume next passes settles
    cases request with
    | settle => exact fun reply s mild => .andThen mild (settles reply s mild) passes
    | _ => trivial
  gives result := passesOn_ifOk fun a s => ⟨result a, s.telemetry, rfl, .refl _⟩
  fails := by
    intro _ span outcome s mild
    cases outcome with
    | ok handled => exact ⟨_, s.telemetry, rfl, .refl _, .ok trivial⟩
    | error f =>
      obtain ⟨t, hp, ha⟩ : ∃ t, Telemetry.perform (.closeSpan span (some f)) s.telemetry = (.ok (), t) ∧
          s.telemetry.Advances t := Telemetry.closeSpan_ok span (by simpa using mild f rfl) s.telemetry
      exact ⟨.error f, t, step_of_perform hp, ha, .error f⟩
  closes := by
    refine fun span => passesOn_ifOk fun handled s => ?_
    obtain ⟨t, hp, ha⟩ : ∃ t, Telemetry.perform (.closeSpan span none) s.telemetry = (.ok (), t) ∧
        s.telemetry.Advances t := Telemetry.closeSpan_ok span (by simp) s.telemetry
    exact ⟨handled, t, step_of_perform hp, ha⟩

theorem settling_settle (command : String) (job : Job) :
    Throughout (settling Job).whole (ask (.settle command job) : Step Job Unit) := by
  refine fun s => ⟨fun reply s _ => ⟨reply, s.telemetry, rfl, .refl _, ?_⟩, fun _ _ => trivial⟩
  cases reply with
  | ok => exact .ok trivial
  | error f => exact .error f

theorem unsettled_reportFailure (command : String) (f : Failure) :
    Throughout (settling Job).before (reportFailure command f : Step Job Unit) :=
  unsettled_common.closed.bind (unsettled_common.closed.telemetry _) fun _ => throughout_ask rfl

theorem settling_reportIfFailed (command : String) {step : Step Job α} (hs : Throughout (settling Job).whole step) :
    Throughout (settling Job).whole (reportIfFailed command step) := by
  rw [reportIfFailed_eq]
  refine settling_lawful.endWith hs (fun outcome s mild => ?_) fun outcome =>
    settling_lawful.covered (unsettled_common.closed.reported unsettled_reportFailure command outcome)
  cases outcome with
  | ok a => exact ⟨_, s.telemetry, rfl, .refl _, .ok trivial⟩
  | error f =>
    refine ⟨.error f, s.telemetry, ?_, .refl _, .error f⟩
    rw [reported, if_pos (mild f rfl)]
    rfl

theorem settling_dispatch (command : String) : Throughout (settling Job).whole (dispatch command : Step Job Unit) := by
  have lawful : (settling Job).Lawful := settling_lawful
  have closed := lawful.common.closed
  refine lawful.begin throughout_get fun m => lawful.begin unsettled_common.clear fun _ =>
    lawful.begin (closed.telemetry _) fun _ => lawful.begin (throughout_ask rfl) fun _ =>
      lawful.begin (closed.reportIfFailed unsettled_reportFailure command (throughout_ask rfl)) ?_
  rintro (_ | _ | job)
  · exact fun _ => trivial
  · exact fun _ => trivial
  · exact lawful.give (settling_reportIfFailed command (settling_settle command job)) fun _ => ()

theorem settling_settled (command : String) (outcome : Except Failure Unit) :
    Throughout (settling Job).whole (Call.settled command outcome).step :=
  settling_lawful.covered (unsettled_common.closed.bind
    (unsettled_common.closed.settled unsettled_reportFailure command outcome) fun _ => unsettled_common.closed.returns _)

-- Whatever a matcher is asked to do, it awaits work last of all.
theorem settling_operate (c : Call) (s : Logged) :
    (operate c s : Run (surroundings Job) Logged (Option Bool)).Each Settles :=
  settling_lawful.operate settling_dispatch settling_settled c s

end Steps

def Awaiting (M : Working Job) : Prop := ∃ frame frames, M.frames = frame :: frames ∧ frame.request.work?.isSome

def Cut (looped : Bool) (result : Job → Except Failure Unit) (h : Past Job) : Prop :=
  ∃ command job before, h = .answered (.settle command job) (.error .cancelled) :: before ∧ result job = .error .cancelled ∧
    Past.looping looped before = false

-- How presses and callbacks have ended where work is cancelled: those that dispatch a command are handled, and callbacks
-- return, unless the work was cancelled that they awaited themselves where no loop ran.
structure Undisturbed (looped : Bool) (result : Job → Except Failure Unit) (h : Past Job) : Prop where
  presses     : ∀ press outcome s before, .returned (.press press) outcome s :: before <:+ h →
    (∃ handled, outcome = .ok (some handled)) ∨ (∃ f, outcome = .error f ∧ Refused f before) ∨
      (outcome = .error .cancelled ∧ Cut looped result before)
  dispatching : ∀ press outcome s before, .returned (.press press) outcome s :: before <:+ h →
    (Past.busy before).head? = some true →
      outcome = .ok (some true) ∨ (outcome = .error .cancelled ∧ Cut looped result before)
  callbacks   : ∀ expiry outcome s before, .returned (.expire expiry) outcome s :: before <:+ h →
    outcome = .ok none ∨ (outcome = .error .cancelled ∧ Cut looped result before)

def ReturnsOn (reply : (request : Request Job) → Except Failure ((surroundings Job).Answer request)) (M : Working Job)
    (outcome : Except Failure (Option Bool)) : Prop :=
  ∃ frame frames t, M.frames = frame :: frames ∧ M.state.telemetry.Advances t ∧
    M.answer reply = ⟨⟨M.state.matcher, t⟩, frames,
    .returned frame.call outcome ⟨M.state.matcher, t⟩ :: .answered frame.request (reply frame.request) :: M.history⟩

def Mirrors (M N : Working Job) : Prop := ∀ M', Machine.Reaches operate (steadyHost Job) M M' → ∃ N',
  Machine.Reaches operate (steadyHost Job) N N' ∧ SameSince M.history N.history M'.history N'.history ∧
    M'.state.matcher = N'.state.matcher

def cancelling : (request : Request Job) → Except Failure ((surroundings Job).Answer request)
  | .settle .. => .error .cancelled
  | request => calm request

structure Interchangeable (M N : Working Job) : Prop where
  forth : Mirrors M N
  back  : Mirrors N M

section

variable {config : Config} {s : Logged} {result : Job → Except Failure Unit} {looped : Bool} {M N : Working Job}

theorem interchangeable_of_alike (matchers : N.state.matcher = M.state.matcher)
    (telemetries : Telemetry.Concordant N.state.telemetry M.state.telemetry) (frames : N.frames = M.frames)
    (alike : ∀ frame ∈ M.frames, frame.Alike (likeness Job Telemetry.Concordant 0) frame)
    (armed : Past.armed N.history = Past.armed M.history) : Interchangeable N M where
  forth := fun _ => goes_along matchers telemetries frames alike armed
  back := fun _ => goes_along matchers.symm telemetries.symm frames.symm (frames ▸ alike) armed.symm

theorem eq_cancelled {f : Failure} (hc : f.isCancellation) : f = .cancelled := by
  cases f <;> first | rfl | cases hc

theorem cut_of_interrupted (awaited : Past.Awaited looped result M.history) {before : Past Job} (hs : before <:+ M.history)
    {f : Failure} (interrupted : Interrupted f before) : f = .cancelled ∧ Cut looped result before := by
  obtain ⟨hc, command, job, earlier, rfl⟩ := interrupted
  obtain rfl := eq_cancelled hc
  have given : Except.error Failure.cancelled = if Past.looping looped earlier then .ok () else result job :=
    awaited _ earlier hs
  cases alone : Past.looping looped earlier with
  | true => rw [alone] at given; cases given
  | false =>
    rw [alone] at given
    exact ⟨rfl, command, job, earlier, rfl, given.symm, alone⟩

theorem not_cut_looped {h : Past Job} : ¬Cut true result h := by
  rintro ⟨command, job, before, -, -, alone⟩
  simp [Past.looping] at alone

theorem undisturbed_of_reaches (made : Made Job config s)
    (reaches : Machine.Reaches operate (taskHost looped result) ⟨s, [], []⟩ M)
    (awaited : Past.Awaited looped result M.history) : Undisturbed looped result M.history := by
  have cut : ∀ {call : Call} {outcome s' before f}, .returned call outcome s' :: before <:+ M.history →
      Interrupted f before → f = .cancelled ∧ Cut looped result before :=
    fun hs => cut_of_interrupted awaited ((List.suffix_cons _ _).trans hs)
  have presses : ∀ press outcome s' before, .returned (.press press) outcome s' :: before <:+ M.history →
      (∃ handled, outcome = .ok (some handled)) ∨ (∃ f, outcome = .error f ∧ Refused f before) ∨
        (outcome = .error .cancelled ∧ Cut looped result before) := by
    intro press outcome s' before hs
    obtain answered | ⟨f, failed, refused | interrupted⟩ := made.succeeded reaches hs
    · exact .inl answered
    · exact .inr (.inl ⟨f, failed, refused⟩)
    · obtain ⟨rfl, cut⟩ := cut hs interrupted
      exact .inr (.inr ⟨failed, cut⟩)
  refine ⟨presses, fun press outcome s' before hs busy => ?_, fun expiry outcome s' before hs => ?_⟩
  case refine_1 =>
    obtain ⟨useful, unrefused⟩ := (committed reaches rfl rfl).returned _ _ _ _ hs busy
    obtain ⟨handled, rfl⟩ | ⟨f, rfl, refused⟩ | passed := presses _ _ _ _ hs
    · obtain rfl : handled = true := by simpa using useful _ rfl
      exact .inl rfl
    · exact absurd refused (unrefused f)
    · exact .inr passed
  case refine_2 =>
    obtain returned | ⟨f, failed, interrupted⟩ := made.succeeded reaches hs
    · exact .inl returned
    · obtain ⟨rfl, cut⟩ := cut hs interrupted
      exact .inr ⟨failed, cut⟩

theorem exists_returnsOn {H : Host Job} {M₀ : Working Job} (reaches : Machine.Reaches operate H M₀ M) (new : M₀.frames = [])
    (awaiting : Awaiting M) {reply : (request : Request Job) → Except Failure ((surroundings Job).Answer request)}
    {given : Except Failure Unit} (hr : ∀ command job, reply (.settle command job) = given) (mild : DoneOrCancelled given) :
    ∃ outcome, ReturnsOn reply M outcome ∧ Agree (fun _ _ => True) given outcome := by
  obtain ⟨frame, frames, hf, work⟩ := awaiting
  have settles := (Machine.Reaches.each settling_operate reaches new frame (hf ▸ List.mem_cons_self)).left
  obtain ⟨call, request, resume⟩ := frame
  cases request with
  | settle command job =>
    obtain ⟨outcome, t, he, ha, agree⟩ := settles given M.state mild
    have he : resume given M.state = .finished outcome ⟨M.state.matcher, t⟩ := he
    refine ⟨outcome, ⟨_, frames, t, hf, ha, ?_⟩, agree⟩
    rw [Machine.answer, hf]
    show Machine.enter call frames _ (resume (reply (.settle command job)) M.state) = _
    rw [hr, he]
    rfl
  | _ => cases work

theorem ReturnsOn.interchangeable
    {reply reply' : (request : Request Job) → Except Failure ((surroundings Job).Answer request)}
    {outcome outcome' : Except Failure (Option Bool)} (returns : ReturnsOn reply M outcome)
    (returns' : ReturnsOn reply' M outcome') (active : M.state.telemetry.active.isSome)
    (alike : ∀ frame ∈ M.frames, frame.Alike (likeness Job Telemetry.Concordant 0) frame) :
    Interchangeable (M.answer reply) (M.answer reply') := by
  obtain ⟨frame, frames, t, hf, ha, he⟩ := returns
  obtain ⟨_, _, t', hf', ha', he'⟩ := returns'
  cases hf.symm.trans hf'
  rw [he, he']
  refine interchangeable_of_alike rfl (.of_active (ha.active active) (ha'.active active)) rfl ?_ rfl
  exact fun frame hm => alike frame (hf ▸ List.mem_cons_of_mem _ hm)

theorem Awaiting.opens (awaiting : Awaiting M) : M.Open (taskHost looped result) := by
  obtain ⟨frame, frames, hf, work⟩ := awaiting
  intro top ht
  obtain rfl : frame = top := by simpa [hf] using ht
  refine ⟨.reset, ?_⟩
  obtain ⟨call, request, resume⟩ := frame
  cases request with
  | settle => trivial
  | _ => cases work

-- Presses and callbacks go on whatever work is cancelled, but for those that await it themselves where no loop runs:
-- these fail with the cancellation. The matcher is left as it would be if the work had been done, and whatever it can
-- go through afterwards it could go through then, and the other way round. That a task has been cancelled is no news to
-- it.
theorem cancelled_like_done (made : Made Job config s)
    (reaches : Machine.Reaches operate (taskHost looped result) ⟨s, [], []⟩ M) :
    (Past.Awaited looped result M.history → Undisturbed looped result M.history ∧ (looped = true → Unharmed M.history)) ∧
    (M.Open (taskHost looped result) → ∀ call : Call, ¬call.IsNews → ∃ M' outcome s' before,
      Machine.Reaches operate (taskHost looped result) M M' ∧ M'.frames = M.frames ∧
        M'.history = .returned call outcome s' :: before ∧ .called call M.state :: M.history <:+ before) ∧
    (Awaiting M → (∃ value, ReturnsOn calm M (.ok value)) ∧ ReturnsOn cancelling M (.error .cancelled) ∧
      Interchangeable (M.answer cancelling) (M.answer calm)) ∧
    (∀ command outcome, DoneOrCancelled outcome →
      M.enterCall operate (.settled command outcome) = ⟨M.state, M.frames, .returned (.settled command outcome) (.ok none)
        M.state :: .called (.settled command outcome) M.state :: M.history⟩ ∧
      Interchangeable (M.enterCall operate (.settled command outcome)) M) := by
  have reserved : (taskHost looped result : Host Job).Reserved := isolating_reliable.toReserved
  obtain ⟨keymap, -, hm⟩ := made.compiles
  obtain ⟨coherent, alike⟩ := alike_of_reserved reserved reaches rfl (.inl hm.active)
  refine ⟨fun awaited => ⟨undisturbed_of_reaches made reaches awaited, ?_⟩, fun opens call => returns_of_open opens,
    fun awaiting => ?_, fun command outcome mild => ?_⟩
  case refine_1 =>
    rintro rfl
    exact unharmed_of_reaches made reaches fun f before hs cut => not_cut_looped (cut_of_interrupted awaited hs cut).right
  case refine_2 =>
    have even : Even M.state M.history :=
      ((reaches.sound isolating_kept made.isolated).inv_of_open awaiting.opens).left
    have mild : DoneOrCancelled (.error .cancelled : Except Failure Unit) := by
      rintro _ ⟨⟩
      rfl
    -- The same request is answered in two ways, and the ends differ in the outcome alone.
    obtain ⟨_, done, agree⟩ : ∃ outcome, ReturnsOn calm M outcome ∧ Agree (fun _ _ => True) (.ok ()) outcome :=
      exists_returnsOn reaches rfl awaiting (fun _ _ => rfl) nofun
    obtain ⟨_, cancelled, agree'⟩ : ∃ outcome, ReturnsOn cancelling M outcome ∧
        Agree (fun _ _ => True) (.error .cancelled : Except Failure Unit) outcome :=
      exists_returnsOn reaches rfl awaiting (fun _ _ => rfl) mild
    cases agree
    cases agree'
    exact ⟨⟨_, done⟩, cancelled, cancelled.interchangeable done even.active alike⟩
  case refine_3 =>
    have entered : M.enterCall operate (.settled command outcome) = ⟨M.state, M.frames, .returned (.settled command outcome)
        (.ok none) M.state :: .called (.settled command outcome) M.state :: M.history⟩ := by
      cases outcome with
      | ok => rfl
      | error f =>
        obtain rfl := eq_cancelled (mild f rfl)
        rfl
    refine ⟨entered, ?_⟩
    rw [entered]
    exact interchangeable_of_alike rfl (.refl coherent) rfl alike rfl

end

def shelved : Unit → Except Failure Unit := fun _ => .error .cancelled

def shelving (looped : Bool) : (request : Request Unit) → Except Failure ((surroundings Unit).Answer request)
  | .execute _ => .ok (some ())
  | .settle .. => if looped then .ok () else shelved ()
  | request => calm request

theorem taskHost_shelving (looped : Bool) (request : Request Unit) :
    (taskHost looped shelved).answers request (shelving looped request) := by
  cases request with
  | telemetry | arm => trivial
  | execute => rintro _ ⟨⟩
  | settle =>
    cases looped with
    | true => exact .inl rfl
    | false => exact .inr rfl
  | _ => exact ⟨_, rfl⟩

def firstShelved (looped : Bool) (s : Logged) : Working Unit :=
  .serve operate (shelving looped) ⟨s, [], []⟩ (.press ⟨"a", {}, none⟩)

def bothShelved (looped : Bool) (s : Logged) : Working Unit :=
  .serve operate (shelving looped) (firstShelved looped s) (.press ⟨"b", {}, none⟩)

def workShelved (s : Logged) : Working Unit :=
  (Machine.answer (shelving false))^[4] ((firstShelved false s).enterCall operate (.press ⟨"b", {}, none⟩))

theorem reaches_firstShelved (looped : Bool) (s : Logged) :
    Machine.Reaches operate (taskHost looped shelved) ⟨s, [], []⟩ (firstShelved looped s) :=
  have rest : (⟨s, [], []⟩ : Working Unit).Resting := rfl
  .serve (taskHost_shelving looped) .refl rest nofun

theorem reaches_bothShelved (looped : Bool) (s : Logged) :
    Machine.Reaches operate (taskHost looped shelved) ⟨s, [], []⟩ (bothShelved looped s) :=
  .serve (taskHost_shelving looped) (reaches_firstShelved looped s) (Machine.resting_serve _ _ _) nofun

theorem reaches_workShelved (s : Logged) :
    Machine.Reaches operate (taskHost false shelved) ⟨s, [], []⟩ (workShelved s) := by
  have entered : Machine.Reaches operate (taskHost false shelved) ⟨s, [], []⟩
      ((firstShelved false s).enterCall operate (.press ⟨"b", {}, none⟩)) :=
    (reaches_firstShelved false s).enterCall (Machine.resting_serve _ _ _) nofun
  exact entered.answers (taskHost_shelving false) 4

theorem awaited_bothShelved (looped : Bool) (s : Logged) : Past.Awaited looped shelved (bothShelved looped s).history := by
  have awaits : ∀ (command : String) (job : Unit), shelving looped (.settle command job) =
      if looped then .ok () else shelved job := fun _ _ => rfl
  obtain ⟨idle, awaited⟩ := awaited_serve awaits (M := ⟨s, [], []⟩) (.press ⟨"a", {}, none⟩) rfl .nil
  exact (awaited_serve awaits _ idle awaited).right

theorem workShelved_awaits : started?.map (fun s => (workShelved s).frames.map fun frame => frame.request.work?) =
    some [some ("open", ())] := by decide +kernel

theorem bothShelved_outcomes : started?.map (fun s =>
    (Past.outcomes (bothShelved false s).history, Past.executed (bothShelved false s).history)) =
      some ([.error .cancelled, .ok (some true)], ["open"]) := by decide +kernel

-- A chord is typed, the work of its command is cancelled, and no loop runs: the press fails with the cancellation.
theorem press_passes_cancellation : ∃ s s' before, Made Unit chord s ∧
    Machine.Reaches operate (taskHost false shelved) ⟨s, [], []⟩ (bothShelved false s) ∧
    Past.Awaited false shelved (bothShelved false s).history ∧ (∀ job, shelved job = .error .cancelled) ∧
    (bothShelved false s).history = .returned (.press ⟨"b", {}, none⟩) (.error .cancelled) s' :: before ∧
    Past.executed before = ["open"] := by
  obtain ⟨s, hs, seen⟩ := Option.map_eq_some_iff.mp bothShelved_outcomes
  obtain ⟨outcomes, executed⟩ := Prod.mk.inj seen
  obtain ⟨outcome, s', before, history⟩ := Machine.exists_history_serve operate (shelving false) (firstShelved false s)
    (.press ⟨"b", {}, none⟩)
  have history : (bothShelved false s).history = .returned (.press ⟨"b", {}, none⟩) outcome s' :: before := history
  rw [history] at outcomes executed
  obtain rfl : outcome = .error .cancelled := (List.cons.inj outcomes).left
  exact ⟨s, s', before, made_of_started? hs, reaches_bothShelved false s, awaited_bothShelved false s, fun _ => rfl, history,
    executed⟩

theorem cancelled_like_done_chord : ∃ s, Made Unit chord s ∧
    Machine.Reaches operate (taskHost false shelved) ⟨s, [], []⟩ (workShelved s) ∧
    ReturnsOn cancelling (workShelved s) (.error .cancelled) ∧
    Interchangeable ((workShelved s).answer cancelling) ((workShelved s).answer calm) ∧
    Undisturbed false shelved (bothShelved false s).history ∧ Unharmed (bothShelved true s).history := by
  obtain ⟨s, hs, awaits⟩ := Option.map_eq_some_iff.mp workShelved_awaits
  have made : Made Unit chord s := made_of_started? hs
  have awaiting : Awaiting (workShelved s) := by
    obtain ⟨frame, frames, hf, hw, -⟩ := List.map_eq_cons_iff.mp awaits
    exact ⟨frame, frames, hf, by simp [hw]⟩
  obtain ⟨-, -, settles, -⟩ := cancelled_like_done made (reaches_workShelved s)
  obtain ⟨-, cancelled, same⟩ := settles awaiting
  obtain ⟨unlooped, -⟩ := (cancelled_like_done made (reaches_bothShelved false s)).left (awaited_bothShelved false s)
  obtain ⟨-, looped⟩ := (cancelled_like_done made (reaches_bothShelved true s)).left (awaited_bothShelved true s)
  exact ⟨s, made, reaches_workShelved s, cancelled, same, unlooped, looped rfl⟩

end Keychord.Matcher
