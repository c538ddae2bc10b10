import Keychord.Proofs.Matcher.Cancellation
import Keychord.Scenario.Session.Play

namespace Keychord.Matcher

variable {Job α β : Type}

def Request.announced? : Request Job → Option String
  | .publish (.dispatch command _) => some command
  | _ => none

def Past.announced (h : Past Job) : List String := History.asked Request.announced? h

def Announces : (request : Request Job) → Resume Job α request → Prop
  | .publish (.dispatch command _), resume =>
    ∀ s, ∃ s' resume', resume (.ok ()) s = .waiting (.execute command) s' resume'
  | _, _ => True

theorem announces_common : Mark.Common fun _ => @Announces Job _ where
  andThen := by
    intro _ _ request resume next announces
    cases request with
    | publish event =>
      cases event with
      | dispatch command keys =>
        intro s
        obtain ⟨s', resume', he⟩ := announces s
        exact ⟨s', _, congrArg (Run.andThen _) he⟩
      | _ => trivial
    | _ => trivial
  ask := by
    intro request usual
    cases request with
    | publish event =>
      cases event with
      | dispatch => exact usual.elim
      | _ => trivial
    | _ => trivial

theorem announces_reportFailure (command : String) (f : Failure) :
    Throughout (fun _ => Announces) (reportFailure command f : Step Job Unit) :=
  announces_common.closed.bind (announces_common.closed.telemetry _) fun _ => throughout_ask trivial

theorem announces_dispatch (command : String) : Throughout (fun _ => Announces) (dispatch command : Step Job Unit) := by
  have closed : Closed fun _ => Throughout fun _ => @Announces Job _ := announces_common.closed
  refine closed.bind throughout_get fun m => closed.bind announces_common.clear fun _ =>
    closed.bind (closed.telemetry _) fun _ s => ⟨fun s => ⟨s, _, rfl⟩, fun reply s => ?_⟩
  cases reply with
  | error f => trivial
  | ok _ =>
    have executes : Throughout (fun _ => Announces) (reportIfFailed command (ask (.execute command : Request Job))) :=
      closed.reportIfFailed announces_reportFailure command (throughout_ask trivial)
    refine closed.bind executes ?_ s
    rintro (_ | _ | job)
    · exact closed.returns _
    · exact closed.returns _
    · exact closed.bind (closed.reportIfFailed announces_reportFailure command (throughout_ask trivial))
        fun _ => closed.returns _

theorem announces_settled (command : String) (outcome : Except Failure Unit) :
    Throughout (fun _ => @Announces Job _) (Call.settled command outcome).step :=
  announces_common.closed.bind (announces_common.closed.settled announces_reportFailure command outcome) fun _ =>
    announces_common.closed.returns _

theorem announced_sublist_enter (call : Call) (frames : List (Frame (surroundings Job) Logged Call (Option Bool)))
    {h : Past Job} (run : Run (surroundings Job) Logged (Option Bool))
    (before : (History.answered Request.announced? h).Sublist (Past.executed h)) :
    (History.answered Request.announced? (Machine.enter call frames h run).history).Sublist
      (Past.executed (Machine.enter call frames h run).history) := by
  cases run with
  | finished => exact before
  | waiting request s resume =>
    cases request with
    | execute command => exact before.cons command
    | _ => exact before

theorem announced_sublist {H : Host Job} (told : ∀ event reply, H.answers (.publish event) reply → reply = .ok ())
    {M M' : Working Job} (reaches : Machine.Reaches operate H M M') (new : M.frames = []) (unseen : M.history = []) :
    (History.answered Request.announced? M'.history).Sublist (Past.executed M'.history) := by
  induction reaches with
  | refl => rw [unseen]; exact .refl _
  | tail before step ih =>
    cases step with
    | call => exact announced_sublist_enter _ _ _ ih
    | @answer s frame frames h reply given =>
      have announces := (Machine.Reaches.each (announces_common.lawful.operate announces_dispatch announces_settled) before new
        frame List.mem_cons_self).left
      obtain ⟨call, request, resume⟩ := frame
      cases request with
      | publish event =>
        cases event with
        | dispatch command keys =>
          obtain rfl := told _ reply given
          obtain ⟨s', resume', he⟩ : ∃ s' resume', resume (.ok ()) s = .waiting (.execute command) s' resume' := announces s
          show (History.answered Request.announced? (Machine.enter call frames _ (resume (.ok ()) s)).history).Sublist
            (Past.executed (Machine.enter call frames _ (resume (.ok ()) s)).history)
          rw [he]
          exact ih.cons_cons command
        | _ => exact announced_sublist_enter _ _ _ ih
      | execute command => exact announced_sublist_enter _ _ _ ih
      | _ => exact announced_sublist_enter _ _ _ ih
    | drift => exact ih

def done? : String × Except Failure Unit → Option String
  | (command, .ok _) => some command
  | _ => none

def cancelled? : String × Except Failure Unit → Option String
  | (command, .error f) => if f.isCancellation then some command else none
  | _ => none

namespace Past

def completed (looped : Bool) (h : Past Job) : List String := (direct looped h ++ settlements h).filterMap done?

def interrupted (looped : Bool) (h : Past Job) : List String := (direct looped h).filterMap cancelled?

def dropped (h : Past Job) : List String := (settlements h).filterMap cancelled?

def cut : Past Job → Nat
  | [] => 0
  | .returned _ (.error .cancelled) _ :: h => cut h + 1
  | _ :: h => cut h

end Past

theorem ends_split_perm (ends : List (String × Except Failure Unit)) : (ends.map Prod.fst).Perm (ends.filterMap done? ++
    (((ends.filterMap erred).filter fun failed => !failed.2.isCancellation).map Prod.fst ++ ends.filterMap cancelled?)) := by
  induction ends with
  | nil => exact .refl _
  | cons last ends ih =>
    obtain ⟨command, f | _⟩ := last
    case ok => exact ih.cons command
    case error =>
      have failed : erred (command, (.error f : Except Failure Unit)) = some (command, f) := rfl
      rw [List.map_cons, filterMap_cons_eq done?, List.filterMap_cons_some failed, filterMap_cons_eq cancelled?,
        List.filter_cons, cancelled?]
      cases f.isCancellation with
      | true =>
        refine (ih.cons command).trans (List.perm_middle.symm.trans (.append_left _ ?_))
        exact List.perm_middle.symm
      | false => exact (ih.cons command).trans List.perm_middle.symm

theorem cancelled?_sublist (ends : List (String × Except Failure Unit)) :
    (ends.filterMap cancelled?).Sublist (ends.map Prod.fst) := by
  induction ends with
  | nil => exact .refl _
  | cons last ends ih =>
    obtain ⟨command, f | _⟩ := last
    case ok => exact ih.cons command
    case error =>
      rw [filterMap_cons_eq, cancelled?]
      cases f.isCancellation with
      | true => exact ih.cons_cons command
      | false => exact ih.cons command

section

variable {config : Config} {s : Logged} {result : Job → Except Failure Unit} {looped : Bool} {M : Working Job}

theorem interrupted_execute {h : Past Job} (command : String) {reply : Except Failure (Option Job)}
    (given : ∀ f, reply = .error f → ¬f.isCancellation) :
    Past.interrupted looped (.answered (.execute command) reply :: h) = Past.interrupted looped h := by
  rcases reply with f | _ | job
  · exact List.filterMap_cons_none (if_neg (given f rfl))
  · rfl
  · rfl

theorem interrupted_settle {h : Past Job} (command : String) (job : Job) (reply : Except Failure Unit) :
    Past.interrupted looped (.answered (.settle command job) reply :: h) =
      if Past.looping looped h = false ∧ reply = .error .cancelled then command :: Past.interrupted looped h
      else Past.interrupted looped h := by
  show ((if Past.looping looped h then Past.direct looped h else (command, reply) :: Past.direct looped h).filterMap
    cancelled?) = _
  cases Past.looping looped h with
  | true => rfl
  | false =>
    rcases reply with f | _
    · cases f <;> rfl
    · rfl

theorem interrupted_le_cut_enter (call : Call) (frames : List (Frame (surroundings Job) Logged Call (Option Bool)))
    {h : Past Job} (run : Run (surroundings Job) Logged (Option Bool))
    (le : (Past.interrupted looped h).length ≤ Past.cut h) :
    (Past.interrupted looped (Machine.enter call frames h run).history).length ≤
      Past.cut (Machine.enter call frames h run).history := by
  cases run with
  | waiting => exact le
  | finished outcome =>
    refine le.trans ?_
    rcases outcome with f | _
    · cases f <;> first | exact Nat.le_refl _ | exact Nat.le_succ _
    · exact Nat.le_refl _

theorem interrupted_le_cut (reaches : Machine.Reaches operate (taskHost looped result) ⟨s, [], []⟩ M) :
    (Past.interrupted looped M.history).length ≤ Past.cut M.history := by
  induction reaches with
  | refl => exact Nat.le_refl _
  | tail before step ih =>
    cases step with
    | call => exact interrupted_le_cut_enter _ _ _ ih
    | @answer s frame frames h reply given =>
      have settles := (Machine.Reaches.each settling_operate before rfl frame List.mem_cons_self).left
      obtain ⟨call, request, resume⟩ := frame
      cases request with
      | execute command =>
        refine interrupted_le_cut_enter _ _ _ ?_
        rw [interrupted_execute command given]
        exact ih
      | settle command job =>
        have interrupted : Past.interrupted looped (.answered (.settle command job) reply :: h) = _ :=
          interrupted_settle command job reply
        by_cases cut : Past.looping looped h = false ∧ reply = .error .cancelled
        case pos =>
          -- The call ends at once, and with the cancellation.
          obtain ⟨alone, rfl⟩ := cut
          obtain ⟨_, t, he, -, agree⟩ : EndsLike _ s (resume (.error .cancelled) s) := settles _ s (by rintro _ ⟨⟩; rfl)
          cases agree
          have he : resume (.error .cancelled) s = .finished (.error .cancelled) ⟨s.matcher, t⟩ := he
          rw [if_pos ⟨alone, rfl⟩] at interrupted
          show (Past.interrupted looped (Machine.enter call frames _ (resume (.error .cancelled) s)).history).length ≤
            Past.cut (Machine.enter call frames _ (resume (.error .cancelled) s)).history
          rw [he]
          show (Past.interrupted looped (.answered (.settle command job) (.error .cancelled) :: h)).length ≤ Past.cut h + 1
          rw [interrupted]
          exact Nat.succ_le_succ ih
        case neg =>
          refine interrupted_le_cut_enter _ _ _ ?_
          rw [interrupted, if_neg cut]
          exact ih
      | _ => exact interrupted_le_cut_enter _ _ _ ih
    | drift => exact ih

-- What has become of the commands when all is over. Each of those that have been announced has been carried out, and
-- each of these has run to completion or has been reported, or its work has been cancelled: while it was awaited, so
-- that a call has failed, or as a task.
structure Tallied (looped : Bool) (h : Past Job) : Prop where
  announced   : (Past.announced h).Subperm (Past.executed h)
  ended       : (Past.executed h).Perm (Past.completed looped h ++ ((Past.reports h).map Prod.fst ++
    (Past.interrupted looped h ++ Past.dropped h)))
  interrupted : (Past.interrupted looped h).length ≤ Past.cut h
  dropped     : (Past.dropped h).Subperm ((Past.tasks looped h).map Prod.fst)

theorem lost_as_tasks (made : Made Job config s) (closed : Over (taskHost looped result) looped result s M) :
    Tallied looped M.history where
  announced := by
    have told : ∀ event reply, (taskHost looped result).answers (.publish event) reply → reply = .ok () :=
      fun _ _ ⟨_, he⟩ => he
    exact (closed.asked_perm Request.announced?).subperm.trans (announced_sublist told closed.reaches rfl rfl).subperm
  ended := by
    have commands : (Past.dispatches M.history).map Prod.fst =
        ((Past.dispatches M.history).map (ended result)).map Prod.fst := by
      rw [List.map_map]
      exact congrArg (List.map · _) (funext fun dispatch => (ended_fst dispatch).symm)
    have ends := ends_perm closed.awaited closed.finished (closed.taken_perm made)
    have failed := (failures_perm_ends closed.awaited).filter fun failed => !failed.2.isCancellation
    have reported : (Past.reports M.history).Perm _ := .trans (.of_eq (closed.even made).told) failed
    refine closed.executed_perm.trans (.trans (.of_eq commands) ((ends.map _).symm.trans ((ends_split_perm _).trans ?_)))
    rw [List.filterMap_append (f := cancelled?)]
    exact .append_left _ ((reported.map _).symm.append_right _)
  interrupted := interrupted_le_cut closed.reaches
  dropped := by
    have commands : (Past.tasks looped M.history).map Prod.fst =
        ((Past.tasks looped M.history).map (ending result)).map Prod.fst := by
      rw [List.map_map]
      rfl
    rw [commands]
    exact (cancelled?_sublist _).subperm.trans (closed.finished.map _).subperm

end

def pair : Config := ⟨" ", 500, ⟨[("x", "outer"), ("y", "inner")]⟩⟩

def fate (done : Bool) : Except Failure Unit := if done then .ok () else .error .cancelled

def nesting : (request : Request Bool) → Except Failure ((surroundings Bool).Answer request)
  | .execute command => .ok (some (command == "outer"))
  | request => calm request

theorem taskHost_nesting (request : Request Bool) : (taskHost false fate).answers request (nesting request) := by
  cases request with
  | telemetry | arm => trivial
  | execute => rintro _ ⟨⟩
  | settle => exact .inl rfl
  | _ => exact ⟨_, rfl⟩

def outerAwaited (s : Logged) : Working Bool :=
  (Machine.answer nesting)^[3] (.enterCall operate ⟨s, [], []⟩ (.press ⟨"x", {}, none⟩))

def innerLeft (s : Logged) : Working Bool :=
  (Machine.answer nesting)^[4] (.enterCall operate (outerAwaited s) (.press ⟨"y", {}, none⟩))

def innerCancelled (s : Logged) : Working Bool :=
  .enterCall operate (innerLeft s) (.settled "inner" (.error .cancelled))

def outerDone (s : Logged) : Working Bool := (innerCancelled s).answer nesting

theorem nested_waits : (configured? Bool pair).map (fun s => ((outerAwaited s).frames.map (·.request.work?),
    (innerLeft s).frames.map (·.request.work?), (outerDone s).frames.length)) =
      some ([some ("outer", true)], [some ("outer", true)], 0) := by
  decide +kernel

theorem nested_over : (configured? Bool pair).map (fun s => (
    decide ((("inner", fate false) :: Past.settlements (innerLeft s).history).Subperm
      ((Past.tasks false (innerLeft s).history).map (ending fate))),
    decide (Past.Awaited false fate (outerDone s).history), decide (Finished false fate (outerDone s).history),
    Past.completed false (outerDone s).history, Past.dropped (outerDone s).history)) =
      some (true, true, true, ["outer"], ["inner"]) := by
  decide +kernel

theorem over_outerDone {s : Logged} (hs : configured? Bool pair = some s) :
    Over (taskHost false fate) false fate s (outerDone s) := by
  have waits := nested_waits
  have ends := nested_over
  simp only [hs, Option.map_some, Option.some.injEq, Prod.mk.injEq, decide_eq_true_eq] at waits ends
  obtain ⟨outerWaits, stillWaits, rest⟩ := waits
  obtain ⟨left, awaited, finished, -, -⟩ := ends
  -- Whoever awaits work may call the matcher.
  have free : ∀ {M : Working Bool} (call : Call), M.frames.map (·.request.work?) = [some ("outer", true)] →
      ∀ frame ∈ M.frames.head?, (taskHost false fate).during frame.call frame.request call := by
    intro M call waits frame hf
    obtain ⟨frames, hM⟩ : ∃ frames, M.frames = frame :: frames := List.head?_eq_some_iff.mp hf
    rw [hM] at waits
    obtain ⟨_, request, _⟩ := frame
    cases request with
    | settle => trivial
    | _ => cases waits
  have pressed : ∀ {M : Working Bool} press, (taskHost false fate).calls (.press press) M.state M.history := by
    rintro _ _ _ _ ⟨⟩
  have resting : (⟨s, [], []⟩ : Working Bool).Resting := rfl
  have outer : Machine.Reaches operate (taskHost false fate) ⟨s, [], []⟩ (outerAwaited s) :=
    .answers taskHost_nesting (.enterCall .refl resting (pressed _)) 3
  have inner : Machine.Reaches operate (taskHost false fate) ⟨s, [], []⟩ (innerLeft s) :=
    .answers taskHost_nesting (.enterNested outer (free _ outerWaits) (pressed _)) 4
  have cancelled : Machine.Reaches operate (taskHost false fate) ⟨s, [], []⟩ (innerCancelled s) := by
    refine .enterNested inner (free _ stillWaits) ?_
    rintro _ _ ⟨⟩
    exact left
  exact ⟨.answer taskHost_nesting cancelled, List.eq_nil_of_length_eq_zero rest, awaited, finished⟩

-- A command that is dispatched while another is awaited may be lost, and then it was a task.
theorem lost_as_tasks_nested : ∃ s, Made Bool pair s ∧ Over (taskHost false fate) false fate s (outerDone s) ∧
    Past.completed false (outerDone s).history = ["outer"] ∧ Past.dropped (outerDone s).history = ["inner"] ∧
      Tallied false (outerDone s).history := by
  obtain ⟨s, hs, ends⟩ := Option.map_eq_some_iff.mp nested_over
  obtain ⟨-, -, -, completed, dropped⟩ : _ ∧ _ ∧ _ ∧ _ ∧ _ := by simpa only [Prod.mk.injEq] using ends
  have made := made_of_configured? hs
  have closed := over_outerDone hs
  exact ⟨s, made, closed, completed, dropped, lost_as_tasks made closed⟩

end Keychord.Matcher

namespace Keychord.Scenario.Session

def toldOf (event : String) (log : List Value) : List String :=
  log.filterMap fun
    | .list [.scalar (.text "bus"), .scalar (.text name), payload] =>
      if name = event then (payload.field? "command_id").bind Value.asText? else none
    | _ => none

def nesting : Setup where
  config := some (.ok Matcher.pair)
  executor := .registry []
    [⟨"outer", "", "general", some (some { steps := [.key ⟨"y", {}, none⟩] })⟩,
      ⟨"inner", "", "general", some (some { awaited := true, pauses := 1 })⟩]

def nestedLog : Option (List Value) :=
  match play {} nesting [.key ⟨"x", {}, none⟩] with
  | .ok (_, [⟨.ok _, log, _⟩]) => some log
  | _ => none

-- Both commands are announced. When the press returns, only the outer one has been executed, and no failure is reported.
theorem nested_command_lost : nestedLog.map (fun log => (toldOf "keys.dispatch" log, toldOf "command:afterExecute" log,
    toldOf "keys.dispatch_failed" log)) = some (["outer", "inner"], ["outer"], []) := by
  decide +kernel

end Keychord.Scenario.Session
