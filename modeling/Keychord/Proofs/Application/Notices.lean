import Keychord.Proofs.Telemetry.Calls
import Keychord.Scenario.Journal

namespace Keychord

inductive Scenario.Notice
  | dispatched (command : String)
  | missing
  | shown (text : String)
  deriving DecidableEq, Repr

namespace Scenario.Notice

def field? (name : String) : List Value → Option String
  | [] => none
  | .list [key, value] :: rest => if key.asText? = some name then value.asText? else field? name rest
  | _ :: rest => field? name rest

def ofLine (message : String) (fields : List Value) : Option Notice :=
  if message = "event::keys.dispatch" then some (.dispatched ((field? "command_id" fields).getD ""))
  else if message = "event::command.not_found" then some .missing
  else none

def of? : Value → Option Notice
  | .list [kind, _, _, message, .list fields] =>
    if kind.asText? = some "log" then message.asText?.bind fun message => ofLine message fields else none
  | .list [kind, place, content] =>
    if kind.asText? = some "update" ∧ place.asText? = some "#command-log" then content.asText?.map .shown else none
  | _ => none

def dispatched? : Notice → Option String
  | dispatched command => some command
  | _ => none

def shown? : Notice → Option String
  | shown text => some text
  | _ => none

end Scenario.Notice

namespace Telemetry

open Scenario (Notice)

namespace Call

def Silent (c : Call) : Prop := Notice.of? c.toValue = none

theorem silent_of_prepares {c : Call} (prepares : c.prepares) : c.Silent := by
  cases c with
  | set setting => simp [Silent, toValue, Setting.toValue, Notice.of?, Value.text, Value.asText?]
  | activate settings => rfl
  | logger made => rfl
  | _ => cases prepares

theorem IsLine.silent {logger : Logger} {message : String} {c : Call} (line : c.IsLine logger message)
    (other : message ≠ "event::keys.dispatch" ∧ message ≠ "event::command.not_found") : c.Silent := by
  cases line with
  | fields level fields =>
    simp [Silent, toValue, Notice.of?, Notice.ofLine, Value.text, Value.asText?, other]
  | plain level shown => rfl

theorem silent_addContext (logger : Logger) (key : Scalar) (value : String) : (addContext logger key value).Silent := by
  simp [Silent, toValue, Notice.of?, Value.text, Value.asText?]

theorem silent_removeContext (logger : Logger) (key : Scalar) : (removeContext logger key).Silent := rfl

theorem silent_enter (logger : Logger) (block : Block) (name : String) : (enter logger block name).Silent := by
  simp [Silent, toValue, Notice.of?, Value.text, Value.asText?]

theorem silent_leave (logger : Logger) (block : Block) (name : String) (failure : Option String) :
    (leave logger block name failure).Silent := rfl

end Call

namespace Span

theorem silent_of_mem_entering {span : Span} {c : Call} (hc : c ∈ span.entering) : c.Silent := by
  simp only [entering, List.mem_append, List.mem_map, Option.mem_toList, Option.map_eq_some_iff, List.mem_singleton] at hc
  obtain ⟨entry, -, rfl⟩ | ⟨component, -, rfl⟩ | rfl := hc
  · exact Call.silent_addContext ..
  · exact Call.silent_enter ..
  · exact Call.silent_enter ..

theorem silent_of_mem_leaving {span : Span} {sort : Option String} {c : Call} (hc : c ∈ span.leaving sort) : c.Silent := by
  simp only [leaving, List.mem_append, List.mem_map, List.mem_cons, Option.mem_toList, Option.map_eq_some_iff] at hc
  obtain ⟨key, -, rfl⟩ | rfl | ⟨component, -, rfl⟩ := hc
  · exact Call.silent_removeContext ..
  · exact Call.silent_leave ..
  · exact Call.silent_leave ..

end Span

def Op.IsAside : Op → Prop
  | record name .. => name ≠ "keys.dispatch" ∧ name ≠ "command.not_found"
  | _ => True

theorem logs_aside {op : Op} (aside : op.IsAside) : Logs (fun _ calls => ∀ c ∈ calls, c.Silent) (perform op) := by
  cases op with
  | record name level data =>
    refine (logs_record name _ _ none).mono fun outcome calls ⟨making, logger, lines, he, prepares, lined⟩ c hc => ?_
    rw [he, List.mem_append] at hc
    obtain hc | hc := hc
    · exact Call.silent_of_prepares (prepares c hc)
    · refine (lined.isLine c hc).silent ⟨fun same => aside.left ?_, fun same => aside.right ?_⟩
      · exact (String.append_right_inj _).mp same
      · exact (String.append_right_inj _).mp same
  | openSpan wanted =>
    refine (logs_openSpan wanted).mono fun outcome calls opens c hc => ?_
    cases opens with
    | refused prepares => exact Call.silent_of_prepares (prepares c hc)
    | unshown prepares shows =>
      obtain hc | hc := List.mem_append.mp hc
      · exact Call.silent_of_prepares (prepares c hc)
      · obtain ⟨entry, -, rfl⟩ := List.mem_map.mp hc
        exact Call.silent_addContext ..
    | opened prepares =>
      obtain hc | hc := List.mem_append.mp hc
      · exact Call.silent_of_prepares (prepares c hc)
      · exact Span.silent_of_mem_entering hc
  | closeSpan span failure =>
    refine (logs_closeSpan span failure).mono fun outcome calls closes c hc => ?_
    obtain ⟨noted, sort, rfl, lines⟩ := closes.exists_leaving
    obtain hc | hc := List.mem_append.mp hc
    · exact (lines c hc).silent ⟨by decide, by decide⟩
    · exact Span.silent_of_mem_leaving hc

def dispatchOp (command keys : String) : Op :=
  .record "keys.dispatch" "info" [("command_id", .text command), ("keys", .text keys)]

theorem perform_dispatchOp (command keys : String) {t : Telemetry} (active : t.active.isSome) :
    ∃ t' calls, perform (dispatchOp command keys) t = (.ok (), t') ∧ t'.calls = t.calls ++ calls ∧
      calls.filterMap (fun c => Notice.of? c.toValue) = [.dispatched command] := by
  obtain ⟨logger, t₁, hg⟩ := getLogger_ok none (.inl active)
  have ⟨making, made, prepares⟩ := preparing_getLogger none t
  rw [hg] at made
  let line : Call :=
    .line logger "info" "event::keys.dispatch" [("event", "keys.dispatch"), ("command_id", command), ("keys", keys)]
  refine ⟨{ t₁ with calls := t₁.calls ++ [line] }, making ++ [line], ?_, ?_, ?_⟩
  · have level : Text.lower "info" = "info" := by decide
    refine (Action.bind_ok hg).trans ?_
    have given : (Action.ofExcept (textOf (.text "info")) : Action Telemetry String) t₁ = (.ok "info", t₁) := rfl
    rw [emit, Action.bind_ok given, level, if_pos (by decide)]
    rfl
  · rw [← List.append_assoc, ← made]
  · have silent : making.filterMap (fun c => Notice.of? c.toValue) = [] :=
      List.filterMap_eq_nil_iff.mpr fun c hc => Call.silent_of_prepares (prepares c hc)
    rw [List.filterMap_append, silent]
    rfl

end Telemetry

namespace Scenario.Journal

open Telemetry (Op dispatchOp)

structure Recording (journal : Journal) : Prop where
  traced : journal.traced = true
  read   : journal.telemetry.calls = []
  active : journal.telemetry.active.isSome

structure Notes (notices : List Notice) (journal journal' : Journal) : Prop where
  recording : journal'.Recording
  entered   : ∃ added, journal'.entries = journal.entries ++ added ∧ added.filterMap Notice.of? = notices

section Notes

variable {journal journal' journal'' : Journal} {notices notices' : List Notice}

theorem Notes.trans (first : Notes notices journal journal') (second : Notes notices' journal' journal'') :
    Notes (notices ++ notices') journal journal'' := by
  obtain ⟨-, added, he, hn⟩ := first
  obtain ⟨recording, added', he', hn'⟩ := second
  exact ⟨recording, added ++ added', by rw [he', he, List.append_assoc], by rw [List.filterMap_append, hn, hn']⟩

theorem Recording.write (recording : journal.Recording) (entry : Value) :
    Notes (Notice.of? entry).toList journal (journal.write entry) := by
  refine ⟨⟨recording.traced, recording.read, recording.active⟩, [entry], rfl, ?_⟩
  cases h : Notice.of? entry <;> simp [h]

theorem Recording.noted (recording : journal.Recording) {α : Type} {action : Action Telemetry α}
    {outcome : Except Failure α} {t : Telemetry} {calls : List Telemetry.Call}
    (done : action journal.telemetry = (outcome, t))
    (made : t.calls = journal.telemetry.calls ++ calls) (active : t.active.isSome) :
    ∃ journal', onTelemetry action journal = (outcome, journal') ∧
      Notes (calls.filterMap fun c => Notice.of? c.toValue) journal journal' := by
  rw [recording.read, List.nil_append] at made
  refine ⟨{ journal with telemetry := t }.absorb, ?_, ⟨recording.traced, rfl, active⟩,
    calls.map Telemetry.Call.toValue, ?_, ?_⟩
  · rw [Journal.onTelemetry, done]
  · simp [absorb, recording.traced, made]
  · rw [List.filterMap_map]
    rfl

-- Whatever else telemetry is asked for, nothing is said about commands.
theorem Recording.aside (recording : journal.Recording) {op : Op} (aside : op.IsAside) {outcome : Except Failure op.Answer}
    {t : Telemetry} (done : Telemetry.perform op journal.telemetry = (outcome, t)) :
    ∃ journal', onTelemetry (Telemetry.perform op) journal = (outcome, journal') ∧ Notes [] journal journal' := by
  have ⟨calls, made, silent⟩ := Telemetry.logs_aside aside journal.telemetry
  rw [done] at made
  have active := ((Telemetry.perform_moves op).of_eq done).active recording.active
  have ⟨journal', entered, notes⟩ := recording.noted done made active
  rw [List.filterMap_eq_nil_iff.mpr silent] at notes
  exact ⟨journal', entered, notes⟩

theorem Recording.dispatch (recording : journal.Recording) (command keys : String) :
    ∃ journal', onTelemetry (Telemetry.perform (dispatchOp command keys)) journal = (.ok (), journal') ∧
      Notes [.dispatched command] journal journal' := by
  have ⟨t, calls, done, made, said⟩ := Telemetry.perform_dispatchOp command keys recording.active
  have advances := (Telemetry.perform_moves (dispatchOp command keys)).of_eq done
  have ⟨journal', done, notes⟩ := recording.noted done made (advances.active recording.active)
  rw [said] at notes
  exact ⟨journal', done, notes⟩

end Notes

end Scenario.Journal

end Keychord
