import Keychord.Proofs.Telemetry.Nesting
import Mathlib.Data.List.Nodup

namespace Keychord.Telemetry

open Keychord.Action

def latest (calls : List Call) : Option (List Setting) :=
  calls.foldl (fun settings c => match c with
    | .activate active => some active
    | _ => settings) none

def addMade (loggers : List Logger) : Call → List Logger
  | .activate _ => []
  | .logger made => loggers ++ [made]
  | _ => loggers

def current (calls : List Call) : List Logger := calls.foldl addMade []

def everMade (calls : List Call) : List Logger := calls.filterMap fun c => match c with
  | .logger made => some made
  | _ => none

structure Settled (calls : List Call) : Prop where
  names    : ((current calls).map Logger.name).Nodup
  settings : ∀ logger ∈ current calls, latest calls = some logger.settings

-- Telemetry keeps the settings and loggers that its calls tell, and they have been settled at any time. Loggers have
-- numbers of their own among all that have ever been made.
structure Orderly (t : Telemetry) : Prop where
  active  : t.active = latest t.calls
  loggers : t.loggers.entries = (current t.calls).map fun logger => (logger.name, logger)
  settled : ∀ calls, calls <+: t.calls → Settled calls
  numbers : (everMade t.calls).map Logger.number = List.range t.made

section Calls

variable {calls more : List Call} {c : Call}

theorem latest_plain (plain : c.makes = false) : latest (calls ++ [c]) = latest calls := by
  cases c with
  | activate => cases plain
  | _ => simp [latest]

theorem current_append : current (calls ++ more) = more.foldl addMade (current calls) := List.foldl_append

theorem current_plain (plain : ∀ c ∈ more, c.makes = false) : current (calls ++ more) = current calls := by
  rw [current_append]
  induction more with
  | nil => rfl
  | cons c rest ih =>
    obtain ⟨first, others⟩ := List.forall_mem_cons.mp plain
    have same : addMade (current calls) c = current calls := by
      cases c with
      | activate | logger => cases first
      | _ => rfl
    rw [List.foldl_cons, same]
    exact ih others

theorem everMade_plain (plain : c.makes = false) : everMade (calls ++ [c]) = everMade calls := by
  cases c with
  | logger => cases plain
  | _ => simp [everMade]

theorem everMade_append : everMade (calls ++ more) = everMade calls ++ everMade more := List.filterMap_append

theorem mem_foldl_addMade {logger : Logger} {before : List Logger} (hm : logger ∈ more.foldl addMade before) :
    logger ∈ everMade more ∨ logger ∈ before ∧ ∀ settings, .activate settings ∉ more := by
  induction more generalizing before with
  | nil => exact .inr ⟨hm, nofun⟩
  | cons c rest ih =>
    have ever : everMade (c :: rest) = everMade [c] ++ everMade rest := @everMade_append [c] rest
    rw [ever, List.mem_append]
    obtain later | ⟨early, free⟩ := ih hm
    · exact .inl (.inr later)
    cases c with
    | activate settings => cases early
    | logger made =>
      obtain early | early := List.mem_append.mp early
      · exact .inr ⟨early, by simpa using free⟩
      · exact .inl (.inl (by simpa [everMade] using early))
    | _ => exact .inr ⟨early, by simpa using free⟩

end Calls

theorem Orderly.start (env : Environment) (standard : String) : Orderly { environment := env, defaultName := standard } where
  active  := rfl
  loggers := rfl
  settled := fun _ earlier => List.prefix_nil.mp earlier ▸ ⟨.nil, nofun⟩
  numbers := rfl

section Orderly

variable {t t' : Telemetry}

theorem Orderly.mem_of_get? (orderly : Orderly t) {name : String} {logger : Logger}
    (h : t.loggers.get? name = some logger) : logger ∈ current t.calls ∧ logger.name = name := by
  obtain ⟨entry, found, rfl⟩ := Option.map_eq_some_iff.mp h
  have hm := List.mem_of_find?_eq_some found
  have same : entry.1 = name := by simpa using List.find?_some found
  rw [orderly.loggers] at hm
  obtain ⟨logger, known, rfl⟩ := List.mem_map.mp hm
  exact ⟨known, same⟩

theorem Orderly.name_ne_of_get? (orderly : Orderly t) {name : String} (absent : t.loggers.get? name = none) :
    ∀ logger ∈ current t.calls, logger.name ≠ name := by
  intro logger hm same
  have none := Option.map_eq_none_iff.mp absent
  rw [orderly.loggers] at none
  simpa [same] using List.find?_eq_none.mp none _ (List.mem_map_of_mem hm)

theorem Orderly.names (orderly : Orderly t) : ((current t.calls).map Logger.name).Nodup :=
  (orderly.settled _ List.prefix_rfl).names

theorem Orderly.settled_concat {c : Call} (orderly : Orderly t) (now : Settled (t.calls ++ [c])) :
    ∀ calls, calls <+: t.calls ++ [c] → Settled calls := by
  intro calls earlier
  obtain rfl | earlier := List.prefix_concat_iff.mp earlier
  · exact now
  · exact orderly.settled calls earlier

theorem Orderly.call {c : Call} (orderly : Orderly t) (plain : c.makes = false) :
    Orderly { t with calls := t.calls ++ [c] } := by
  have same : current (t.calls ++ [c]) = current t.calls := current_plain (by simpa using plain)
  have ⟨names, settings⟩ := orderly.settled _ List.prefix_rfl
  exact {
    active := orderly.active.trans (latest_plain plain).symm
    loggers := by rw [same]; exact orderly.loggers
    settled := orderly.settled_concat ⟨by rwa [same], by rwa [same, latest_plain plain]⟩
    numbers := by rw [everMade_plain plain]; exact orderly.numbers }

theorem Orderly.activate (orderly : Orderly t) (settings : List Setting) :
    Orderly { t with calls := t.calls ++ [.activate settings], active := some settings, loggers := .empty } := by
  have forgotten : current (t.calls ++ [.activate settings]) = [] := current_append
  exact {
    active := by simp [latest]
    loggers := by rw [forgotten]; rfl
    settled := orderly.settled_concat ⟨by rw [forgotten]; exact .nil, by rw [forgotten]; exact nofun⟩
    numbers := by simpa [everMade] using orderly.numbers }

theorem Orderly.make (orderly : Orderly t) {name : String} {settings : List Setting}
    (absent : t.loggers.get? name = none) (active : t.active = some settings) :
    Orderly { t with
      calls := t.calls ++ [.logger ⟨name, settings, t.made⟩],
      loggers := t.loggers.insert name ⟨name, settings, t.made⟩,
      made := t.made + 1 } := by
  have added : current (t.calls ++ [.logger ⟨name, settings, t.made⟩]) = current t.calls ++ [⟨name, settings, t.made⟩] :=
    current_append
  have same : latest (t.calls ++ [.logger ⟨name, settings, t.made⟩]) = latest t.calls := by simp [latest]
  have other := orderly.name_ne_of_get? absent
  have new : name ∉ t.loggers.entries.map (·.1) := by
    rw [orderly.loggers]
    simpa using other
  have ⟨names, settled⟩ := orderly.settled _ List.prefix_rfl
  refine ⟨orderly.active.trans same.symm, ?loggers, orderly.settled_concat ⟨?names, ?settings⟩, ?numbers⟩
  case loggers =>
    show OrderedMap.setEntry name _ t.loggers.entries = _
    rw [OrderedMap.setEntry_of_new _ new, added, orderly.loggers]
    simp
  case names =>
    rw [added, List.map_append, List.nodup_append]
    refine ⟨names, by simp, ?_⟩
    simpa using other
  case settings =>
    rw [added, same]
    intro logger hm
    obtain hm | hm := List.mem_append.mp hm
    · exact settled logger hm
    · obtain rfl := List.mem_singleton.mp hm
      exact orderly.active.symm.trans active
  case numbers => simpa [everMade, List.range_succ] using orderly.numbers

theorem Turn.orderly (turn : Turn t t') (orderly : Orderly t) : Orderly t' := by
  cases turn with
  | environment env => exact ⟨orderly.active, orderly.loggers, orderly.settled, orderly.numbers⟩
  | call plain => exact orderly.call plain
  | activate settings => exact orderly.activate settings
  | make absent active => exact orderly.make absent active

theorem Turns.orderly (turns : Turns t t') (orderly : Orderly t) : Orderly t' := by
  induction turns with
  | refl => exact orderly
  | tail _ turn ih => exact turn.orderly ih

theorem Turns.prefix_calls (turns : Turns t t') : t.calls <+: t'.calls := by
  induction turns with
  | refl => exact List.prefix_rfl
  | tail _ turn ih =>
    refine ih.trans ?_
    cases turn with
    | environment env => exact List.prefix_rfl
    | call | activate | make => exact List.prefix_append _ _

theorem Turns.defaultName (turns : Turns t t') : t'.defaultName = t.defaultName := by
  induction turns with
  | refl => rfl
  | tail _ turn ih => cases turn <;> exact ih

-- A logger that is asked for is the one of its name that has been made since settings became active last. It is made if
-- there is none.
theorem Orderly.getLogger (orderly : Orderly t) {name : Option String} {logger : Logger}
    (h : getLogger name t = (.ok logger, t')) : logger ∈ current t'.calls ∧ logger.name = t.loggerName name ∧
      ∀ known ∈ current t.calls, known.name = t.loggerName name → logger = known ∧ t' = t := by
  cases hl : t.loggers.get? (t.loggerName name) with
  | some kept =>
    rw [getLogger_of_some hl] at h
    cases h
    obtain ⟨hm, named⟩ := orderly.mem_of_get? hl
    refine ⟨hm, named, fun known hk same => ⟨?_, rfl⟩⟩
    exact List.inj_on_of_nodup_map orderly.names hm hk (named.trans same.symm)
  | none =>
    rw [getLogger_of_none hl] at h
    rcases ha : activeSettings t with ⟨f | settings, t₁⟩
    case error => rw [Action.bind_error ha] at h; cases h
    case ok =>
      rw [Action.bind_ok ha] at h
      cases h
      refine ⟨?_, rfl, fun known hk same => absurd same (orderly.name_ne_of_get? hl known hk)⟩
      have added : current (t₁.calls ++ [.logger ⟨t.loggerName name, settings, t₁.made⟩]) =
        current t₁.calls ++ [⟨t.loggerName name, settings, t₁.made⟩] := current_append
      rw [show current _ = _ from added]
      exact List.mem_append_right _ List.mem_cons_self

end Orderly

section Configure

variable {t : Telemetry}

def asked (env : Environment) (given : Option (List Setting)) (preset : Option String) : Except Failure (List Setting) :=
  match given, preset.filter (· ≠ "") with
  | some _, some _ => .error .presetAndSettings
  | none, some name =>
    match preset? env name with
    | none => .error (.unknownPreset name)
    | some settings => .ok settings
  | some settings, none => .ok settings
  | none, none =>
    match environmentBuffer env with
    | .error f => .error f
    | .ok buffer => .ok (environmentSettings env ++ buffer)

-- A configuration that cannot be made leaves settings and loggers as they are. One that can be made replaces the
-- settings, and the loggers are forgotten.
inductive Settles (t : Telemetry) : Except Failure (List Setting) → Except Failure Unit × Telemetry → Prop
  | refused {f : Failure} {t' : Telemetry} (active : t'.active = t.active) (loggers : t'.loggers = t.loggers) :
      Settles t (.error f) (.error f, t')
  | taken {settings : List Setting} {t' : Telemetry} (active : t'.active = some (settings ++ [lastSetting]))
      (loggers : t'.loggers = .empty) : Settles t (.ok settings) (.ok (), t')

theorem Settles.kept {wanted : Except Failure (List Setting)} {result : Except Failure Unit × Telemetry}
    (settles : Settles t wanted result) {f : Failure} (refused : result.1 = .error f) :
    result.2.active = t.active ∧ result.2.loggers = t.loggers := by
  cases settles with
  | refused active loggers => exact ⟨active, loggers⟩
  | taken => cases refused

end Configure

section Use

variable {t t' : Telemetry}

-- A span that was opened is still with its logger, in whatever state telemetry is now: what is noted in it and what is
-- undone when it is closed goes there, even if settings have become active since and the logger is no longer current. A
-- reason is noted, and a failure reported, as they are where nothing has become active.
structure Stays (span : Span) (opened now : Telemetry) : Prop where
  apart  : ∃ since, now.calls = opened.calls ++ since ∧
    ((∃ settings, .activate settings ∈ since) → span.logger ∉ current now.calls)
  notes  : ∀ later reason, span.Annotated later → ∃ noted, (later.fail reason now).2.calls = now.calls ++ noted ∧
    later.Notes reason (later.fail reason now).1 noted ∧ ∀ c ∈ noted, c.IsLine span.logger "span::fail"
  closes : ∀ closing failure, span.Annotated closing → ∃ noted sort,
    (closeSpan closing failure now).2.calls = now.calls ++ (noted ++ span.leaving sort) ∧
      closing.Closes failure ((Failure.of? (closeSpan closing failure now).1).or failure) (noted ++ span.leaving sort) ∧
      ∀ c ∈ noted, c.IsLine span.logger "span::fail"

theorem Orderly.not_current {since : List Call} {settings : List Setting} {logger : Logger} (orderly : Orderly t')
    (after : t'.calls = t.calls ++ since) (activated : .activate settings ∈ since) (before : logger ∈ everMade t.calls) :
    logger ∉ current t'.calls := by
  intro hm
  rw [after, current_append] at hm
  obtain again | ⟨-, free⟩ := mem_foldl_addMade hm
  case inr => exact free settings activated
  case inl =>
    have distinct : ((everMade t'.calls).map Logger.number).Nodup := by
      rw [orderly.numbers]
      exact List.nodup_range
    rw [after, everMade_append, List.map_append] at distinct
    have ⟨_, _, apart⟩ := List.nodup_append.mp distinct
    exact apart _ (List.mem_map_of_mem before) _ (List.mem_map_of_mem again) rfl

theorem Orderly.stays {span : Span} (orderly : Orderly t) (logger : span.logger ∈ current t.calls) (turns : Turns t t') :
    Stays span t t' where
  apart := by
    obtain ⟨since, after⟩ := turns.prefix_calls
    refine ⟨since, after.symm, fun ⟨settings, activated⟩ => ?_⟩
    have before : span.logger ∈ everMade t.calls := (mem_foldl_addMade logger).resolve_right fun ⟨hm, _⟩ => nomatch hm
    exact (turns.orderly orderly).not_current after.symm activated before
  notes := by
    intro later reason same
    obtain ⟨noted, after, notes⟩ := later.logs_fail reason t'
    exact ⟨noted, after, notes, same.logger ▸ notes.isLine⟩
  closes := by
    intro closing failure same
    obtain ⟨made, after, closes⟩ := logs_closeSpan closing failure t'
    obtain ⟨noted, sort, rfl, lines⟩ := closes.exists_leaving
    rw [same.leaving] at after closes
    exact ⟨noted, sort, after, closes, same.logger ▸ lines⟩

end Use

end Keychord.Telemetry
