import Keychord.Proofs.Guidance
import Keychord.Proofs.Matcher.Handled
import Keychord.Proofs.Matcher.Twins

namespace Keychord.Matcher

variable {Job : Type}

def Call.IsNews : Call → Prop
  | .settled .. => True
  | _ => False

instance : DecidablePred Call.IsNews
  | .settled .. => isTrue trivial
  | .press _ | .expire _ | .reset | .close | .reload _ => isFalse id

instance : DecidablePred (@Request.IsAftermath Job)
  | .settle .. | .publish (.failed ..) => isTrue trivial
  | .telemetry _ | .consume _ | .arm .. | .disarm _ | .execute _ => isFalse id
  | .publish (.pending ..) | .publish .reset | .publish (.dispatch ..) => isFalse id

-- What depends on when commands come to their end: news of tasks, the work that is awaited and the reports.
def belated (Job : Type) : Aside (surroundings Job) Logged Call (Option Bool) := reporting fun call _ => call.IsNews

instance (call : Call) (h : Past Job) : Decidable ((belated Job).calls call h) := inferInstanceAs (Decidable call.IsNews)

instance : DecidablePred (belated Job).requests := inferInstanceAs (DecidablePred (@Request.IsAftermath Job))

def dispatch? : Deed (surroundings Job) Call → Option (String × Except Failure (Option Job))
  | .answered (.execute command) reply => some (command, reply)
  | _ => none

theorem dispatches_story (h : Past Job) : Past.dispatches h = ((belated Job).story h).filterMap dispatch? := by
  induction h with
  | nil => rfl
  | cons sight h ih =>
    cases sight with
    | called | asked =>
      refine ih.trans ?_
      rw [Aside.story]
      split <;> rfl
    | answered request reply =>
      cases request with
      | execute command => exact congrArg ((command, reply) :: ·) ih
      | _ =>
        refine ih.trans ?_
        rw [Aside.story]
        split <;> rfl
    | returned => exact ih

theorem repeats_operate : Machine.Repeats operate (likeness Job Telemetry.BothActive 0) (belated Job) where
  runs := fun c _ _ states => alike_operate Telemetry.bothActive_concord (.refl c) states
  calls := .refl
  requests := by
    intro request request' like
    cases like with
    | same => rfl
    | arm delay expiries => rw [expiries.eq]
  still := by
    intro c s h news
    cases c with
    | settled command outcome => exact reports_settled command outcome s
    | _ => exact news.elim
  each := fun c s => (trailing_operate c s).mono fun _ _ trails belated => trails (.inr belated)
  symm := fun _ _ ⟨like, active, active'⟩ => ⟨by simpa using like.symm, active', active⟩
  changes := by
    rintro s ⟨m, t⟩ s' ⟨like, active, active'⟩ ⟨rfl, ha⟩
    exact ⟨like, ha.active active, active'⟩

-- How presses and callbacks have ended: presses were answered unless a timer had just been refused, those that carried
-- out a command were of use, and callbacks returned.
structure Unharmed (h : Past Job) : Prop where
  presses     : ∀ press outcome s before, .returned (.press press) outcome s :: before <:+ h →
    (∃ handled, outcome = .ok (some handled)) ∨ ∃ f, outcome = .error f ∧ Refused f before
  dispatching : ∀ press outcome s before, .returned (.press press) outcome s :: before <:+ h →
    (Past.busy before).head? = some true → outcome = .ok (some true)
  callbacks   : ∀ expiry outcome s before, .returned (.expire expiry) outcome s :: before <:+ h → outcome = .ok none

structure Over (H : Host Job) (looped : Bool) (result : Job → Except Failure Unit) (s : Logged) (M : Working Job) :
    Prop where
  reaches  : Machine.Reaches operate H ⟨s, [], []⟩ M
  rest     : M.Resting
  awaited  : Past.Awaited looped result M.history
  finished : Finished looped result M.history

theorem Over.of_alone {H : Host Job} {looped : Bool} {result : Job → Except Failure Unit} {s : Logged} {M : Working Job}
    (closed : Over H.alone looped result s M) : Over H looped result s M :=
  ⟨Machine.Reaches.of_alone closed.reaches, closed.rest, closed.awaited, closed.finished⟩

structure Accounted (result : Job → Except Failure Unit) (h : Past Job) : Prop where
  carriedOut : (Past.executed h).Perm ((Past.dispatches h).map Prod.fst)
  reported   : (Past.reports h).Perm ((Past.dispatches h).filterMap (failure? result))

structure SameReports (M M' : Working Job) : Prop where
  dispatches : Past.dispatches M.history = Past.dispatches M'.history
  reports    : (Past.reports M.history).Perm (Past.reports M'.history)

section

variable {config : Config} {s : Logged} {result : Job → Except Failure Unit} {looped looped' : Bool} {M M' : Working Job}

theorem taskHost_calm (request : Request Job) : (taskHost looped result).answers request (calm request) := by
  cases request with
  | telemetry | arm => trivial
  | execute => rintro _ ⟨⟩
  | settle => exact .inl rfl
  | _ => exact ⟨_, rfl⟩

theorem Made.isolated (made : Made Job config s) :
    Machine.Sound (taskHost looped result) (isolating Job) ⟨s, [], []⟩ := by
  obtain ⟨keymap, -, hm⟩ := made.compiles
  exact .start ⟨⟨hm.active, rfl, rfl⟩, by rintro _ _ _ _ ⟨⟩⟩

theorem Made.succeeded (made : Made Job config s)
    (reaches : Machine.Reaches operate (taskHost looped result) ⟨s, [], []⟩ M) {call : Call}
    {outcome : Except Failure (Option Bool)} {s' : Logged} {before : Past Job}
    (hs : .returned call outcome s' :: before <:+ M.history) : call.Succeeds Refused Interrupted outcome before :=
  (reaches.inv_of_returned isolating_kept made.isolated rfl hs).right _ _ _ _ rfl

theorem unharmed_of_reaches (made : Made Job config s)
    (reaches : Machine.Reaches operate (taskHost looped result) ⟨s, [], []⟩ M)
    (uncut : ∀ f before, before <:+ M.history → ¬Interrupted f before) : Unharmed M.history := by
  have uncut : ∀ {call : Call} {outcome s' before} (f : Failure), .returned call outcome s' :: before <:+ M.history →
      ¬Interrupted f before :=
    fun f hs => uncut f _ ((List.suffix_cons _ _).trans hs)
  have presses : ∀ press outcome s' before, .returned (.press press) outcome s' :: before <:+ M.history →
      (∃ handled, outcome = .ok (some handled)) ∨ ∃ f, outcome = .error f ∧ Refused f before := by
    intro press outcome s' before hs
    obtain answered | ⟨f, failed, passed⟩ := made.succeeded reaches hs
    · exact .inl answered
    · exact .inr ⟨f, failed, passed.resolve_right (uncut f hs)⟩
  refine ⟨presses, fun press outcome s' before hs busy => ?_, fun expiry outcome s' before hs => ?_⟩
  case refine_1 =>
    obtain ⟨useful, unrefused⟩ := (committed reaches rfl rfl).returned _ _ _ _ hs busy
    obtain ⟨handled, rfl⟩ | ⟨f, rfl, refused⟩ := presses _ _ _ _ hs
    · obtain rfl : handled = true := by simpa using useful _ rfl
      rfl
    · exact absurd refused (unrefused f)
  case refine_2 =>
    obtain returned | ⟨f, -, cut⟩ := made.succeeded reaches hs
    · exact returned
    · exact absurd cut (uncut f hs)

theorem returns_of_open (opens : M.Open (taskHost looped result)) {call : Call} (other : ¬call.IsNews) :
    ∃ M' outcome s' before, Machine.Reaches operate (taskHost looped result) M M' ∧ M'.frames = M.frames ∧
      M'.history = .returned call outcome s' :: before ∧ .called call M.state :: M.history <:+ before := by
  have free : ∀ frame ∈ M.frames.head?, (taskHost looped result).during frame.call frame.request call := by
    intro frame hf
    obtain ⟨_, shown⟩ := opens frame hf
    exact shown
  have made : (taskHost looped result).calls call M.state M.history := by
    rintro command outcome rfl
    exact absurd trivial other
  exact Machine.exists_returned taskHost_calm free made

theorem Over.asked_perm (closed : Over (taskHost looped result) looped result s M) {β : Type}
    (pick : Request Job → Option β) :
    (History.asked pick M.history).Perm (History.answered pick M.history) := by
  have all : (History.asked pick M.history).Perm _ := Machine.Reaches.asked_perm closed.reaches rfl rfl
  rwa [closed.rest] at all

theorem Over.even (made : Made Job config s) (closed : Over (taskHost looped result) looped result s M) :
    Even M.state M.history :=
  (Machine.Sound.resting (closed.reaches.sound isolating_kept made.isolated) closed.rest).left

theorem Over.taken_perm (made : Made Job config s) (closed : Over (taskHost looped result) looped result s M) :
    (Past.taken M.history).Perm ((Past.dispatches M.history).filterMap leftWork) :=
  (closed.asked_perm Request.work?).symm.trans (.of_eq (closed.even made).handed)

theorem Over.executed_perm (closed : Over (taskHost looped result) looped result s M) :
    (Past.executed M.history).Perm ((Past.dispatches M.history).map Prod.fst) := by
  rw [Past.executed_eq, Past.map_dispatches]
  exact closed.asked_perm _

theorem Over.accounted (made : Made Job config s) (lasting : Lasting result)
    (closed : Over (taskHost looped result) looped result s M) : Accounted result M.history where
  carriedOut := closed.executed_perm
  reported := by
    rw [(closed.even made).told, due_eq_failures lasting (closed.reaches.allowed rfl)]
    exact failures_perm closed.awaited closed.finished (closed.taken_perm made)

theorem taskHost_belated {s t : Logged} (drifts : (taskHost looped result).drifts s t) : (belated Job).changes s t :=
  ⟨drifts.left, drifts.right.advances⟩

theorem sameReports_of_guided (made : Made Job config s) (lasting : Lasting result)
    (closed : Over (taskHost looped result) looped result s M) (closed' : Over (taskHost looped' result) looped' result s M')
    {G : Guidance (surroundings Job) Call} (guided : (belated Job).Guided G M.history)
    (guided' : (belated Job).Guided G M'.history)
    (often : ((belated Job).made M.history).length = ((belated Job).made M'.history).length) : SameReports M M' := by
  obtain ⟨keymap, -, hm⟩ := made.compiles
  have states : (likeness Job Telemetry.BothActive 0).state s s := ⟨.refl _, hm.active, hm.active⟩
  have together := Machine.Reaches.together_of_resting repeats_operate (fun _ _ => taskHost_belated)
    (fun _ _ => taskHost_belated) states closed.reaches closed.rest closed'.reaches closed'.rest guided guided' often
  have dispatches : Past.dispatches M.history = Past.dispatches M'.history := by
    rw [dispatches_story, dispatches_story, together.story]
  have reported := (closed.accounted made lasting).reported
  rw [dispatches] at reported
  exact ⟨dispatches, reported.trans (closed'.accounted made lasting).reported.symm⟩

-- Presses and callbacks go on whatever becomes of commands, and once all tasks have ended, what has failed has been
-- reported once. With and without a loop, the same reports are made if others go by what they see apart from reports
-- and tasks, and so if nobody calls a matcher back and the same calls are made and answered by the same rule.
theorem failures_reported (made : Made Job config s) (lasting : Lasting result) :
    (∀ looped M, Machine.Reaches operate (taskHost looped result) ⟨s, [], []⟩ M →
      Unharmed M.history ∧
      (M.Open (taskHost looped result) → ∀ call : Call, ¬call.IsNews → ∃ M' outcome s' before,
        Machine.Reaches operate (taskHost looped result) M M' ∧ M'.frames = M.frames ∧
          M'.history = .returned call outcome s' :: before ∧ .called call M.state :: M.history <:+ before)) ∧
    (∀ looped M, Over (taskHost looped result) looped result s M → Accounted result M.history) ∧
    (∀ looped looped' M M', Over (taskHost looped result) looped result s M →
      Over (taskHost looped' result) looped' result s M' →
      ∀ G, (belated Job).Guided G M.history → (belated Job).Guided G M'.history →
        ((belated Job).made M.history).length = ((belated Job).made M'.history).length → SameReports M M') ∧
    (∀ looped looped' M M', Over (taskHost looped result).alone looped result s M →
      Over (taskHost looped' result).alone looped' result s M' →
      ∀ rule, History.Always ((belated Job).AnswersBy rule) M.history →
        History.Always ((belated Job).AnswersBy rule) M'.history →
        (belated Job).made M.history = (belated Job).made M'.history → SameReports M M') := by
  have uncut : ∀ looped M, Machine.Reaches operate (taskHost looped result) ⟨s, [], []⟩ M →
      ∀ f before, before <:+ M.history → ¬Interrupted f before :=
    fun looped M reaches f before hs => not_interrupted lasting (reaches.allowed rfl) hs f
  refine ⟨fun looped M reaches => ⟨unharmed_of_reaches made reaches (uncut looped M reaches),
      fun opens _ => returns_of_open opens⟩,
    fun looped M closed => closed.accounted made lasting, ?_, ?_⟩
  case refine_1 =>
    exact fun _ _ _ _ closed closed' _ guided guided' => sameReports_of_guided made lasting closed closed' guided guided'
  case refine_2 =>
    intro looped looped' M M' closed closed' rule answers answers' same
    have attends := Machine.Reaches.attends closed.reaches answers (List.suffix_refl ((belated Job).made M.history))
    have attends' := Machine.Reaches.attends closed'.reaches answers' ⟨[], same.symm⟩
    exact sameReports_of_guided made lasting closed.of_alone closed'.of_alone attends.guided attends'.guided
      (congrArg List.length same)

end

def boom : Failure := .raised "RuntimeError" "boom"

def broken : Unit → Except Failure Unit := fun _ => .error boom

def leaving (looped : Bool) : (request : Request Unit) → Except Failure ((surroundings Unit).Answer request)
  | .execute _ => .ok (some ())
  | .settle .. => if looped then .ok () else broken ()
  | request => calm request

theorem taskHost_leaving (looped : Bool) (request : Request Unit) :
    (taskHost looped broken).alone.answers request (leaving looped request) := by
  cases request with
  | telemetry | arm => trivial
  | execute => rintro _ ⟨⟩
  | settle =>
    cases looped with
    | true => exact .inl rfl
    | false => exact .inr rfl
  | _ => exact ⟨_, rfl⟩

def firstKey (looped : Bool) (s : Logged) : Working Unit :=
  .serve operate (leaving looped) ⟨s, [], []⟩ (.press ⟨"a", {}, none⟩)

def bothKeys (looped : Bool) (s : Logged) : Working Unit :=
  .serve operate (leaving looped) (firstKey looped s) (.press ⟨"b", {}, none⟩)

def taskEnded (s : Logged) : Working Unit := .serve operate (leaving true) (bothKeys true s) (.settled "open" (broken ()))

theorem leaving_awaits (looped : Bool) (command : String) (job : Unit) :
    leaving looped (.settle command job) = if looped then .ok () else broken job :=
  rfl

theorem awaited_bothKeys (looped : Bool) (s : Logged) : Past.awaiting (bothKeys looped s).history = 0 ∧
    Past.Awaited looped broken (bothKeys looped s).history := by
  obtain ⟨idle, awaited⟩ := awaited_serve (leaving_awaits looped) (M := ⟨s, [], []⟩) (.press ⟨"a", {}, none⟩) rfl .nil
  exact awaited_serve (leaving_awaits looped) _ idle awaited

theorem leaving_eq (looped : Bool) (story : List (Deed (surroundings Unit) Call)) (request : Request Unit)
    (counts : ¬(belated Unit).requests request) : leaving looped request = (fun _ => leaving true) story request := by
  cases request with
  | settle => exact absurd trivial counts
  | _ => rfl

theorem answers_bothKeys (looped : Bool) (s : Logged) :
    History.Always ((belated Unit).AnswersBy fun _ => leaving true) (bothKeys looped s).history :=
  Machine.answers_serve (leaving_eq looped) (Machine.answers_serve (leaving_eq looped) (M := ⟨s, [], []⟩) .nil)

theorem made_bothKeys (looped : Bool) (s : Logged) :
    (belated Unit).made (bothKeys looped s).history = [.press ⟨"b", {}, none⟩, .press ⟨"a", {}, none⟩] := by
  have first : (belated Unit).made (firstKey looped s).history = [.press ⟨"a", {}, none⟩] :=
    Machine.made_serve (M := ⟨s, [], []⟩) id
  have second : (belated Unit).made (bothKeys looped s).history = _ := Machine.made_serve id
  rw [second, first]

theorem made_taskEnded (s : Logged) :
    (belated Unit).made (taskEnded s).history = (belated Unit).made (bothKeys true s).history :=
  Machine.made_serve_aside trivial

theorem reaches_bothKeys (looped : Bool) (s : Logged) :
    Machine.Reaches operate (taskHost looped broken).alone ⟨s, [], []⟩ (bothKeys looped s) := by
  have rest : (⟨s, [], []⟩ : Working Unit).Resting := rfl
  have first : Machine.Reaches operate (taskHost looped broken).alone ⟨s, [], []⟩ (firstKey looped s) :=
    .serve (taskHost_leaving looped) .refl rest nofun
  exact .serve (taskHost_leaving looped) first (Machine.resting_serve _ _ _) nofun

theorem bothKeys_finished :
    started?.map (fun s => decide (Finished false broken (bothKeys false s).history)) = some true := by
  decide +kernel

theorem over_bothKeys {s : Logged} (hs : started? = some s) :
    Over (taskHost false broken).alone false broken s (bothKeys false s) := by
  have finished := bothKeys_finished
  rw [hs, Option.map_some, Option.some.injEq, decide_eq_true_eq] at finished
  exact ⟨reaches_bothKeys false s, Machine.resting_serve _ _ _, (awaited_bothKeys false s).right, finished⟩

theorem bothKeys_told : started?.map (fun s => decide (
    (("open", broken ()) :: Past.settlements (bothKeys true s).history).Subperm
      ((Past.tasks true (bothKeys true s).history).map (ending broken)))) = some true := by decide +kernel

theorem taskEnded_finished : started?.map (fun s => decide (Finished true broken (taskEnded s).history)) = some true := by
  decide +kernel

theorem over_taskEnded {s : Logged} (hs : started? = some s) :
    Over (taskHost true broken).alone true broken s (taskEnded s) := by
  have told := bothKeys_told
  have finished := taskEnded_finished
  rw [hs, Option.map_some, Option.some.injEq, decide_eq_true_eq] at told finished
  have made : (taskHost true broken).alone.calls (.settled "open" (broken ())) (bothKeys true s).state
      (bothKeys true s).history := by
    rintro _ _ ⟨⟩
    exact told
  obtain ⟨idle, awaited⟩ := awaited_bothKeys true s
  exact ⟨.serve (taskHost_leaving true) (reaches_bothKeys true s) (Machine.resting_serve _ _ _) made,
    Machine.resting_serve _ _ _, (awaited_serve (leaving_awaits true) _ idle awaited).right, finished⟩

theorem taskEnded_failed : started?.map (fun s => (Past.dispatches (taskEnded s).history).filterMap (failure? broken)) =
    some [("open", boom)] := by decide +kernel

theorem failures_reported_chord : ∃ s, Made Unit chord s ∧
    Over (taskHost false broken).alone false broken s (bothKeys false s) ∧
    Over (taskHost true broken).alone true broken s (taskEnded s) ∧
    (Past.reports (taskEnded s).history).Perm [("open", boom)] ∧ SameReports (bothKeys false s) (taskEnded s) := by
  obtain ⟨s, hs, failed⟩ := Option.map_eq_some_iff.mp taskEnded_failed
  have made : Made Unit chord s := made_of_started? hs
  have lasting : Lasting broken := by
    rintro _ _ ⟨⟩
    decide
  have closed := over_bothKeys hs
  have closed' := over_taskEnded hs
  obtain ⟨-, accounted, -, alike⟩ := failures_reported made lasting
  have reported := (accounted _ _ closed'.of_alone).reported
  rw [failed] at reported
  have calls := (made_bothKeys false s).trans ((made_taskEnded s).trans (made_bothKeys true s)).symm
  exact ⟨s, made, closed, closed', reported, alike _ _ _ _ closed closed' _ (answers_bothKeys false s)
    (Machine.answers_serve (leaving_eq true) (answers_bothKeys true s)) calls⟩

end Keychord.Matcher
