import Keychord.Proofs.Telemetry.Concord

namespace Keychord

def Failure.of? {α : Type} : Except Failure α → Option Failure
  | .ok _ => none
  | .error f => some f

namespace Action

variable {σ τ ε α β : Type}

def Appends (log : σ → List ε) (P : Except Failure α → List ε → Prop) (action : Action σ α) : Prop :=
  ∀ s, ∃ added, log (action s).2 = log s ++ added ∧ P (action s).1 added

variable {log : σ → List ε} {P Q : Except Failure α → List ε → Prop} {R : Except Failure β → List ε → Prop}

theorem Appends.mono {action : Action σ α} (appends : action.Appends log P)
    (weaker : ∀ outcome added, P outcome added → Q outcome added) : action.Appends log Q := by
  intro s
  have ⟨added, same, suits⟩ := appends s
  exact ⟨added, same, weaker _ _ suits⟩

theorem appends_ofExcept {outcome : Except Failure α} (suits : P outcome []) :
    (ofExcept outcome : Action σ α).Appends log P :=
  fun s => ⟨[], (List.append_nil (log s)).symm, suits⟩

theorem appends_pure {a : α} (suits : P (.ok a) []) : (pure a : Action σ α).Appends log P :=
  appends_ofExcept suits

theorem appends_throw {f : Failure} (suits : P (.error f) []) : (throw f : Action σ α).Appends log P :=
  appends_ofExcept suits

theorem appends_modify {P : Except Failure Unit → List ε → Prop} {change : σ → σ} (same : ∀ s, log (change s) = log s)
    (suits : P (.ok ()) []) : (modify change : Action σ Unit).Appends log P :=
  fun s => ⟨[], (same s).trans (List.append_nil (log s)).symm, suits⟩

theorem Appends.bind {first : Action σ α} {next : α → Action σ β} (appends : first.Appends log P)
    (fails : ∀ f added, P (.error f) added → R (.error f) added)
    (goesOn : ∀ a added, P (.ok a) added → (next a).Appends log fun outcome more => R outcome (added ++ more)) :
    (first >>= next).Appends log R := by
  intro s
  have ⟨added, same, suits⟩ := appends s
  cases he : first s with
  | mk outcome s₁ =>
    rw [he] at same suits
    cases outcome with
    | error f =>
      rw [bind_error he]
      exact ⟨added, same, fails f added suits⟩
    | ok a =>
      have ⟨more, same', suits'⟩ := goesOn a added suits s₁
      rw [bind_ok he]
      exact ⟨added ++ more, by rw [same', same, List.append_assoc], suits'⟩

theorem appends_get_bind {next : σ → Action σ β} (goesOn : ∀ s, (next s).Appends log R) :
    ((get : Action σ σ) >>= next).Appends log R :=
  fun s => goesOn s s

theorem appends_ofExcept_bind {outcome : Except Failure α} {next : α → Action σ β}
    (fails : ∀ f, outcome = .error f → R (.error f) []) (goesOn : ∀ a, outcome = .ok a → (next a).Appends log R) :
    ((ofExcept outcome : Action σ α) >>= next).Appends log R := by
  cases outcome with
  | error f => exact fun s => appends_ofExcept (fails f rfl) s
  | ok a => exact goesOn a rfl

theorem Appends.attempt {R : Except Failure (Except Failure α) → List ε → Prop} {action : Action σ α}
    (appends : action.Appends log P) (suits : ∀ outcome added, P outcome added → R (.ok outcome) added) :
    (Action.attempt action).Appends log R := by
  intro s
  have ⟨added, same, h⟩ := appends s
  exact ⟨added, same, suits _ _ h⟩

theorem Appends.onPart {log : τ → List ε} {load : σ → τ} {store : τ → σ → σ} {action : Action τ α}
    (appends : action.Appends log P) (loads : ∀ t s, load (store t s) = t) :
    (action.onPart load store).Appends (fun s => log (load s)) P := by
  intro s
  have ⟨added, same, suits⟩ := appends (load s)
  exact ⟨added, (congrArg log (loads _ _)).trans same, suits⟩

end Action

namespace Telemetry

open Keychord.Action

variable {α β : Type}

abbrev Logs (P : Except Failure α → List Call → Prop) (action : Action Telemetry α) : Prop :=
  action.Appends Telemetry.calls P

theorem logs_call {P : Except Failure Unit → List Call → Prop} {c : Call} (suits : P (.ok ()) [c]) : Logs P (call c) :=
  fun _ => ⟨[c], rfl, suits⟩

theorem logs_call_bind {R : Except Failure β → List Call → Prop} {c : Call} {next : Unit → Action Telemetry β}
    (goesOn : Logs (fun outcome more => R outcome (c :: more)) (next ())) : Logs R (call c >>= next) := by
  intro t
  have ⟨more, made, suits⟩ := goesOn { t with calls := t.calls ++ [c] }
  exact ⟨c :: more, made.trans (List.append_assoc _ _ _), suits⟩

def Call.prepares : Call → Bool
  | .set _ | .activate _ | .logger _ => true
  | _ => false

def Preparing (_ : Except Failure α) (calls : List Call) : Prop := ∀ c ∈ calls, c.prepares

theorem preparing_nil {o : Except Failure α} : Preparing o [] := nofun

theorem preparing_bind {first : Action Telemetry α} {next : α → Action Telemetry β} (logs : Logs Preparing first)
    (goesOn : ∀ a, Logs Preparing (next a)) : Logs Preparing (first >>= next) := by
  refine logs.bind (fun f calls before => before) fun a calls before => ?_
  refine (goesOn a).mono fun outcome more after c hc => ?_
  exact (List.mem_append.mp hc).elim (before c) (after c)

theorem preparing_call {c : Call} (prepares : c.prepares) : Logs Preparing (call c) :=
  logs_call (by simpa [Preparing] using prepares)

theorem preparing_makeSettings (settings : List Setting) : Logs Preparing (makeSettings settings) := by
  induction settings with
  | nil => exact appends_pure preparing_nil
  | cons setting rest ih => exact preparing_bind (preparing_call rfl) fun _ => ih

theorem preparing_activate (settings : List Setting) : Logs Preparing (activate settings) :=
  preparing_bind (preparing_call rfl) fun _ => appends_modify (fun _ => rfl) preparing_nil

theorem preparing_configureFromEnvironment : Logs Preparing configureFromEnvironment :=
  appends_get_bind fun _ => preparing_bind (preparing_makeSettings _) fun _ =>
    appends_ofExcept_bind (fun _ _ => preparing_nil) fun _ _ => preparing_bind (preparing_makeSettings _) fun _ =>
      preparing_activate _

theorem preparing_configurePreset (name : String) : Logs Preparing (configurePreset name) := by
  refine appends_get_bind fun t => ?_
  cases preset? t.environment name with
  | none => exact appends_throw preparing_nil
  | some settings => exact preparing_bind (preparing_makeSettings _) fun _ => preparing_activate _

theorem preparing_configure (given : Option (List Setting)) (preset : Option String) :
    Logs Preparing (configure given preset) := by
  unfold configure
  cases given <;> cases preset.filter (· ≠ "")
  case none.none => exact preparing_configureFromEnvironment
  case none.some => exact preparing_configurePreset _
  case some.none => exact preparing_activate _
  case some.some => exact appends_throw preparing_nil

theorem preparing_activeSettings : Logs Preparing activeSettings := by
  refine appends_get_bind fun t => ?_
  cases t.active with
  | none =>
    exact preparing_bind preparing_configureFromEnvironment fun _ => appends_get_bind fun _ =>
      appends_pure preparing_nil
  | some settings => exact appends_pure preparing_nil

theorem preparing_getLogger (name : Option String) : Logs Preparing (getLogger name) := by
  refine appends_get_bind fun t => ?_
  dsimp only
  split
  · exact appends_pure preparing_nil
  · refine preparing_bind preparing_activeSettings fun settings => appends_get_bind fun _ => ?_
    exact preparing_bind (preparing_call rfl) fun _ => preparing_bind (appends_modify (fun _ => rfl) preparing_nil) fun _ =>
      appends_pure preparing_nil

inductive Call.IsLine (logger : Logger) (message : String) : Call → Prop
  | fields (level : String) (fields : List (String × String)) : IsLine logger message (.line logger level message fields)
  | plain (level shown : String) : IsLine logger message (.plainLine logger level (message ++ " " ++ shown))

inductive Lined (logger : Logger) (message : String) : Except Failure Unit → List Call → Prop
  | written {c : Call} (line : c.IsLine logger message) : Lined logger message (.ok ()) [c]
  | failed (f : Failure) : Lined logger message (.error f) []

theorem Lined.isLine {logger : Logger} {message : String} {outcome : Except Failure Unit} {lines : List Call}
    (lined : Lined logger message outcome lines) : ∀ c ∈ lines, c.IsLine logger message := by
  cases lined with
  | written line => simpa using line
  | failed => nofun

theorem logs_emit (logger : Logger) (level : Value) (message : String) (fields : OrderedMap Scalar Value) :
    Logs (Lined logger message) (emit logger level message fields) := by
  refine appends_ofExcept_bind (fun f _ => .failed f) fun given _ => ?_
  dsimp only
  split
  case isTrue => exact appends_ofExcept_bind (fun f _ => .failed f) fun texts _ => logs_call (.written (.fields _ _))
  case isFalse =>
    split
    case isTrue => exact appends_ofExcept_bind (fun f _ => .failed f) fun shown _ => logs_call (.written (.plain _ _))
    case isFalse => exact appends_throw (.failed _)

theorem logs_record (name : String) (level : Value) (data : OrderedMap Scalar Value) (owner : Option String) :
    Logs (fun outcome calls => ∃ making logger lines, calls = making ++ lines ∧ (∀ c ∈ making, c.prepares) ∧
      Lined logger ("event::" ++ name) outcome lines) (record name level data owner) := by
  refine (preparing_getLogger owner).bind (fun f making prepares => ?_) fun logger making prepares => ?_
  case refine_1 => exact ⟨making, ⟨"", [], 0⟩, [], (List.append_nil making).symm, prepares, .failed f⟩
  case refine_2 => exact (logs_emit _ _ _ _).mono fun outcome lines lined => ⟨making, logger, lines, rfl, prepares, lined⟩

theorem textOf_error {value : Value} {f : Failure} (h : textOf value = .error f) : f = .numberTooLong := by
  unfold textOf at h
  cases hv : value.text? with
  | some s => simp [hv] at h
  | none =>
    rw [hv] at h
    exact (Except.error.inj h).symm

theorem fieldTexts_error {entries : List (Scalar × Value)} {f : Failure} (h : fieldTexts entries = .error f) :
    f = .numberTooLong := by
  induction entries with
  | nil => cases h
  | cons entry rest ih =>
    obtain ⟨key, value⟩ := entry
    cases hk : textOf (.scalar key) with
    | error f' =>
      obtain rfl : f' = f := by simpa [fieldTexts, hk, bind, Except.bind] using h
      exact textOf_error hk
    | ok name =>
      cases hv : textOf value with
      | error f' =>
        obtain rfl : f' = f := by simpa [fieldTexts, hk, hv, bind, Except.bind] using h
        exact textOf_error hv
      | ok shown =>
        cases hr : fieldTexts rest with
        | error f' =>
          obtain rfl : f' = f := by simpa [fieldTexts, hk, hv, hr, bind, Except.bind] using h
          exact ih hr
        | ok others => simp [fieldTexts, hk, hv, hr, bind, Except.bind, pure, Except.pure] at h

namespace Span

def reasonFields (span : Span) (reason : Value) : Except Failure (List (String × String)) := do
  let shown ← textOf reason
  fieldTexts (span.fields (.ofList [(.text "reason", .text shown)])).entries

inductive Notes (span : Span) (reason : Value) : Except Failure Unit → List Call → Prop
  | told {fields : List (String × String)} (shown : span.reasonFields reason = .ok fields) :
      Notes span reason (.ok ()) [.line span.logger "error" "span::fail" fields]
  | untold {f : Failure} (unshown : span.reasonFields reason = .error f) : Notes span reason (.error f) []

theorem Notes.isLine {span : Span} {reason : Value} {outcome : Except Failure Unit} {lines : List Call}
    (notes : span.Notes reason outcome lines) : ∀ c ∈ lines, c.IsLine span.logger "span::fail" := by
  cases notes with
  | told => simpa using .fields _ _
  | untold => nofun

theorem logs_fail (span : Span) (reason : Value) : Logs (span.Notes reason) (span.fail reason) := by
  have level : fieldLevels.contains (Text.lower "error") := by decide
  have same : Text.lower "error" = "error" := by decide
  have fields : span.reasonFields reason =
    textOf reason >>= fun shown => fieldTexts (span.fields (.ofList [(.text "reason", .text shown)])).entries := rfl
  refine appends_ofExcept_bind (fun f unshown => .untold (by rw [fields, unshown]; rfl)) fun shown shows => ?_
  have fields : span.reasonFields reason = fieldTexts (span.fields (.ofList [(.text "reason", .text shown)])).entries := by
    rw [fields, shows]
    rfl
  refine appends_ofExcept_bind (fun f he => nomatch he) fun given he => ?_
  obtain rfl : "error" = given := Except.ok.inj he
  rw [if_pos level, same]
  exact appends_ofExcept_bind (fun f unshown => .untold (fields.trans unshown)) fun texts shown =>
    logs_call (.told (fields.trans shown))

def entering (span : Span) : List Call :=
  span.metadata.entries.map (fun entry => .addContext span.logger entry.1 entry.2) ++
    ((span.tracked?.map (.enter span.logger .component)).toList ++ [.enter span.logger .profile span.name])

def leaving (span : Span) (sort : Option String) : List Call :=
  span.contextKeys.map (.removeContext span.logger) ++ .leave span.logger .profile span.name sort ::
    (span.tracked?.map (.leave span.logger .component · sort)).toList

-- The calls that close a span that is left with a failure or without one: a failure is reported once, a cancellation is
-- not.
inductive Ends (span : Span) : Option Failure → List Call → Prop
  | normally : Ends span none (span.leaving none)
  | cancelled {f : Failure} (cancelled : f.isCancellation) : Ends span (some f) (span.leaving (some f.kind))
  | reported {f : Failure} {fields : List (String × String)} (failed : f.isCancellation = false)
      (shown : span.reasonFields (.text f.message) = .ok fields) :
      Ends span (some f) (.line span.logger "error" "span::fail" fields :: span.leaving (some f.kind))

-- What leaves a span when it is closed, with the calls that are made. It is what came out of its body, unless that is a
-- failure that cannot be reported.
inductive Closes (span : Span) : Option Failure → Option Failure → List Call → Prop
  | duly {ended : Option Failure} {calls : List Call} (ends : span.Ends ended calls) : Closes span ended ended calls
  | unreported {f : Failure} (failed : f.isCancellation = false) (illegible : ∃ key ∈ span.metadata.keys, key.text? = none) :
      Closes span (some f) (some .numberTooLong) (span.leaving (some Failure.numberTooLong.kind))

theorem illegible_of_unshown {span : Span} {reason : String} {f : Failure}
    (unshown : span.reasonFields (.text reason) = .error f) :
    ∃ key ∈ span.metadata.keys, key.text? = none := by
  refine Classical.byContradiction fun none => ?_
  have legible : ∀ key ∈ span.metadata.entries.map Prod.fst, key.text?.isSome := by
    intro key hm
    refine Option.isSome_iff_ne_none.mpr fun hk => none ⟨key, hm, hk⟩
  have fields : span.reasonFields (.text reason) =
    fieldTexts (span.fields (.ofList [(.text "reason", .text reason)])).entries := rfl
  obtain ⟨texts, shown⟩ := fieldTexts_ok (shown_fields legible reason)
  rw [fields, shown] at unshown
  cases unshown

theorem Closes.exists_leaving {span : Span} {ended failure : Option Failure} {calls : List Call}
    (closes : span.Closes ended failure calls) : ∃ noted sort, calls = noted ++ span.leaving sort ∧
      ∀ c ∈ noted, c.IsLine span.logger "span::fail" := by
  cases closes with
  | unreported => exact ⟨[], _, rfl, nofun⟩
  | duly ends =>
    cases ends with
    | normally => exact ⟨[], _, rfl, nofun⟩
    | cancelled => exact ⟨[], _, rfl, nofun⟩
    | reported => exact ⟨[_], _, rfl, by simpa using .fields _ _⟩

end Span

section Spans

variable {span : Span} {P : Except Failure Unit → List Call → Prop}

theorem logs_popContext {logger : Logger} {keys : List Scalar} (suits : P (.ok ()) (keys.map (.removeContext logger))) :
    Logs P (popContext logger keys) := by
  induction keys generalizing P with
  | nil => exact appends_pure suits
  | cons key rest ih => exact logs_call_bind (ih suits)

theorem logs_leave {sort : Option String} (suits : P (.ok ()) (span.leaving sort)) : Logs P (leave span sort) := by
  refine (logs_popContext (P := fun outcome calls => outcome = .ok () ∧
    calls = span.contextKeys.map (.removeContext span.logger))
    ⟨rfl, rfl⟩).bind (fun f calls ⟨he, _⟩ => nomatch he) fun _ calls ⟨_, removed⟩ => logs_call_bind ?_
  subst removed
  rw [Span.leaving] at suits
  cases tracked : span.tracked? with
  | none =>
    simp only [tracked, Option.map_none, Option.toList_none] at suits
    exact appends_pure suits
  | some component =>
    simp only [tracked, Option.map_some, Option.toList_some] at suits
    exact logs_call suits

theorem logs_report (f : Failure) : Logs (fun outcome calls => if f.isCancellation then outcome = .ok () ∧ calls = [] else
    span.Notes (.text f.message) outcome calls) (span.report f) := by
  unfold Span.report
  split
  case isTrue => exact appends_pure ⟨rfl, rfl⟩
  case isFalse => exact span.logs_fail (.text f.message)

theorem logs_closeSpan (span : Span) (failure : Option Failure) :
    Logs (fun outcome => span.Closes failure ((Failure.of? outcome).or failure)) (closeSpan span failure) := by
  cases failure with
  | none => exact logs_leave (.duly .normally)
  | some f =>
    refine ((logs_report f).attempt (R := fun outcome calls => ∃ reported, outcome = .ok reported ∧
      if f.isCancellation then reported = .ok () ∧ calls = [] else span.Notes (.text f.message) reported calls)
      fun outcome calls suits => ⟨outcome, rfl, suits⟩).bind (fun f calls ⟨_, he, _⟩ => nomatch he) ?_
    intro reported calls ⟨reported', he, suits⟩
    obtain rfl : reported = reported' := Except.ok.inj he
    refine (logs_leave (P := fun outcome more => outcome = .ok () ∧ more = _) ⟨rfl, rfl⟩).bind
      (fun f more ⟨he, _⟩ => nomatch he) ?_
    intro _ more ⟨_, left⟩
    refine appends_ofExcept ?_
    subst left
    rw [List.append_nil]
    split at suits
    case isTrue cancelled =>
      obtain ⟨rfl, rfl⟩ := suits
      exact .duly (.cancelled cancelled)
    case isFalse failed =>
      have failed : f.isCancellation = false := Bool.eq_false_iff.mpr failed
      cases suits with
      | told shown => exact .duly (.reported failed shown)
      | untold unshown =>
        obtain rfl := fieldTexts_error unshown
        exact .unreported failed (Span.illegible_of_unshown unshown)

end Spans

inductive Shows : List (Scalar × Value) → List (Scalar × String) → Option Failure → Prop
  | nil : Shows [] [] none
  | cons {key : Scalar} {value : Value} {shown : String} {rest : List (Scalar × Value)} {context : List (Scalar × String)}
      {failure : Option Failure} (shows : textOf value = .ok shown) (others : Shows rest context failure) :
      Shows ((key, value) :: rest) ((key, shown) :: context) failure
  | unshown {key : Scalar} {value : Value} {f : Failure} {rest : List (Scalar × Value)} (unshown : textOf value = .error f) :
      Shows ((key, value) :: rest) [] (some f)

theorem Shows.keys {entries : List (Scalar × Value)} {shown : List (Scalar × String)} (shows : Shows entries shown none) :
    shown.map Prod.fst = entries.map Prod.fst := by
  generalize hf : none = failure at shows
  induction shows with
  | nil => rfl
  | cons _ _ ih => exact congrArg _ (ih hf)
  | unshown => cases hf

theorem Shows.unshown_mem {entries : List (Scalar × Value)} {shown : List (Scalar × String)} {f : Failure}
    (shows : Shows entries shown (some f)) : ∃ entry ∈ entries, entry.2.text? = none := by
  generalize hf : some f = failure at shows
  induction shows with
  | nil => cases hf
  | cons _ _ ih =>
    obtain ⟨entry, hm, hn⟩ := ih hf
    exact ⟨entry, List.mem_cons_of_mem _ hm, hn⟩
  | @unshown key value _ _ unshown =>
    refine ⟨_, List.mem_cons_self, ?_⟩
    unfold textOf at unshown
    cases hv : value.text? with
    | none => rfl
    | some s => simp [hv] at unshown

theorem logs_pushContext (logger : Logger) (entries : List (Scalar × Value)) :
    Logs (fun outcome calls => ∃ context failure, Shows entries context failure ∧
      outcome = failure.elim (.ok context) .error ∧ calls = context.map fun entry => .addContext logger entry.1 entry.2)
      (pushContext logger entries) := by
  induction entries with
  | nil => exact appends_pure ⟨[], none, .nil, rfl, rfl⟩
  | cons entry rest ih =>
    refine appends_ofExcept_bind (fun f unshown => ⟨[], some f, .unshown unshown, rfl, rfl⟩) fun shown shows => ?_
    refine logs_call_bind (ih.bind ?fails fun others calls known => appends_pure ?goesOn)
    case fails =>
      intro f calls ⟨context, failure, others, he, hc⟩
      cases failure with
      | none => cases he
      | some f' =>
        cases he
        exact ⟨_, _, .cons shows others, rfl, by rw [hc]; rfl⟩
    case goesOn =>
      obtain ⟨context, failure, others, he, hc⟩ := known
      cases failure with
      | some f => cases he
      | none =>
        cases he
        exact ⟨_, _, .cons shows others, rfl, by rw [hc, List.append_nil]; rfl⟩

-- How a span comes to be opened, or not. Nothing is opened where there is no logger or where the metadata cannot all be
-- shown; the context that has been set by then stays.
inductive Opens (wanted : SpanRequest) : Except Failure Span → List Call → Prop
  | refused {f : Failure} {making : List Call} (prepares : ∀ c ∈ making, c.prepares) : Opens wanted (.error f) making
  | unshown {f : Failure} {making : List Call} {logger : Logger} {context : List (Scalar × String)}
      (prepares : ∀ c ∈ making, c.prepares) (shows : Shows wanted.metadata.entries context (some f)) :
      Opens wanted (.error f) (making ++ context.map fun entry => .addContext logger entry.1 entry.2)
  | opened {making : List Call} {span : Span} (prepares : ∀ c ∈ making, c.prepares) (name : span.name = wanted.name)
      (component : span.component = wanted.component) (keys : span.contextKeys = wanted.metadata.keys)
      (shows : Shows wanted.metadata.entries span.metadata.entries none) :
      Opens wanted (.ok span) (making ++ span.entering)

theorem logs_enter (span : Span) : Logs (fun outcome calls => outcome = .ok span ∧
    calls = (span.tracked?.map (.enter span.logger .component)).toList ++ [.enter span.logger .profile span.name])
    (enter span) := by
  unfold enter
  cases span.tracked? with
  | none => exact logs_call_bind (appends_pure ⟨rfl, rfl⟩)
  | some component => exact logs_call_bind (logs_call_bind (appends_pure ⟨rfl, rfl⟩))

theorem logs_openSpan (wanted : SpanRequest) : Logs (Opens wanted) (openSpan wanted) := by
  rw [openSpan_eq]
  refine (preparing_getLogger _).bind (fun f making prepares => .refused prepares) fun logger making prepares => ?_
  refine (logs_pushContext logger _).bind ?fails ?goesOn
  case fails =>
    intro f calls ⟨context, failure, shows, he, hc⟩
    cases failure with
    | none => cases he
    | some f' =>
      cases he
      exact hc ▸ .unshown prepares shows
  case goesOn =>
    intro metadata calls ⟨context, failure, shows, he, hc⟩
    cases failure with
    | some f => cases he
    | none =>
      cases he
      refine (logs_enter _).mono fun outcome more ⟨he, hm⟩ => ?_
      subst he hc hm
      exact .opened prepares rfl rfl rfl shows

end Telemetry

end Keychord
