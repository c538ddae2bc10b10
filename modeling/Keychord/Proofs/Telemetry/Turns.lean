import Keychord.Telemetry.Span
import Mathlib.Logic.Relation

namespace Keychord

namespace Action

variable {σ α β : Type} {R : σ → σ → Prop}

def Moves (R : σ → σ → Prop) (action : Action σ α) : Prop := ∀ s, R s (action s).2

theorem bind_apply (first : Action σ α) (next : α → Action σ β) (s : σ) :
    (first >>= next) s = ExceptT.bindCont next (first s).1 (first s).2 :=
  rfl

theorem bind_ok {first : Action σ α} {next : α → Action σ β} {s s' : σ} {a : α} (h : first s = (.ok a, s')) :
    (first >>= next) s = next a s' := by
  rw [bind_apply, h]
  rfl

theorem bind_error {first : Action σ α} {next : α → Action σ β} {s s' : σ} {f : Failure}
    (h : first s = (.error f, s')) : (first >>= next) s = (.error f, s') := by
  rw [bind_apply, h]
  rfl

theorem get_bind (next : σ → Action σ β) (s : σ) : ((get : Action σ σ) >>= next) s = next s s :=
  rfl

theorem Moves.bind (trans : ∀ s₁ s₂ s₃, R s₁ s₂ → R s₂ s₃ → R s₁ s₃) {first : Action σ α} {next : α → Action σ β}
    (h₁ : first.Moves R) (h₂ : ∀ a, (next a).Moves R) : (first >>= next).Moves R := by
  intro s
  have h := h₁ s
  rcases hf : first s with ⟨a | a, s'⟩ <;> rw [hf] at h
  case error => rwa [bind_error hf]
  case ok => exact bind_ok hf ▸ trans _ _ _ h (h₂ a s')

theorem Moves.of_eq {action : Action σ α} (h : action.Moves R) {s s' : σ} {outcome : Except Failure α}
    (he : action s = (outcome, s')) : R s s' := by
  have hr := h s
  rwa [he] at hr

def Gives (P : σ → Prop) (action : Action σ α) : Prop := ∀ s a s', action s = (.ok a, s') → P s'

theorem Gives.bind {P : σ → Prop} {first : Action σ α} {next : α → Action σ β} (h : ∀ a, (next a).Gives P) :
    (first >>= next).Gives P := by
  intro s b s' hs
  rcases hf : first s with ⟨f | a, s₁⟩
  case error => rw [bind_error hf] at hs; cases hs
  case ok => exact h a _ _ _ (bind_ok hf ▸ hs)

end Action

namespace Telemetry

def Call.makes : Call → Bool
  | .activate _ | .logger _ => true
  | _ => false

-- What is done to telemetry at once. When settings become active, the loggers made before are forgotten.
inductive Turn : Telemetry → Telemetry → Prop
  | environment {t : Telemetry} (env : Environment) : Turn t { t with environment := env }
  | call {t : Telemetry} {c : Call} (plain : c.makes = false) : Turn t { t with calls := t.calls ++ [c] }
  | activate {t : Telemetry} (settings : List Setting) :
      Turn t { t with calls := t.calls ++ [.activate settings], active := some settings, loggers := .empty }
  | make {t : Telemetry} {name : String} {settings : List Setting} (absent : t.loggers.get? name = none)
      (active : t.active = some settings) :
      Turn t { t with
        calls := t.calls ++ [.logger ⟨name, settings, t.made⟩],
        loggers := t.loggers.insert name ⟨name, settings, t.made⟩,
        made := t.made + 1 }

abbrev Turns : Telemetry → Telemetry → Prop := Relation.ReflTransGen Turn

section Turns

variable {α β : Type}

theorem turns_bind {first : Action Telemetry α} {next : α → Action Telemetry β} (h₁ : first.Moves Turns)
    (h₂ : ∀ a, (next a).Moves Turns) : (first >>= next).Moves Turns :=
  Action.Moves.bind (fun _ _ _ => .trans) h₁ h₂

theorem ofExcept_turns (outcome : Except Failure α) : (Action.ofExcept outcome : Action Telemetry α).Moves Turns :=
  fun _ => .refl

theorem get_turns : (get : Action Telemetry Telemetry).Moves Turns := fun _ => .refl

theorem call_turns {c : Call} (plain : c.makes = false) : (call c).Moves Turns := fun _ => .single (.call plain)

theorem makeSettings_turns (settings : List Setting) : (makeSettings settings).Moves Turns := by
  induction settings with
  | nil => exact fun _ => .refl
  | cons setting rest ih => exact turns_bind (call_turns rfl) fun _ => ih

theorem activate_turns (settings : List Setting) : (activate settings).Moves Turns :=
  fun _ => .single (.activate (settings ++ [lastSetting]))

theorem configureFromEnvironment_turns : configureFromEnvironment.Moves Turns :=
  turns_bind get_turns fun _ => turns_bind (makeSettings_turns _) fun _ => turns_bind (ofExcept_turns _) fun _ =>
    turns_bind (makeSettings_turns _) fun _ => activate_turns _

theorem configurePreset_turns (name : String) : (configurePreset name).Moves Turns := by
  refine turns_bind get_turns fun t => ?_
  cases preset? t.environment name with
  | none => exact fun _ => .refl
  | some settings => exact turns_bind (makeSettings_turns _) fun _ => activate_turns _

theorem configure_turns (given : Option (List Setting)) (preset : Option String) : (configure given preset).Moves Turns := by
  unfold configure
  cases given <;> cases preset.filter (· ≠ "")
  case none.none => exact configureFromEnvironment_turns
  case none.some => exact configurePreset_turns _
  case some.none => exact activate_turns _
  case some.some => exact fun _ => .refl

theorem activeSettings_turns : activeSettings.Moves Turns := by
  refine turns_bind get_turns fun t => ?_
  cases t.active with
  | none => exact turns_bind configureFromEnvironment_turns fun _ => turns_bind get_turns fun _ _ => .refl
  | some settings => exact fun _ => .refl

def Renewed (t : Telemetry) : Prop := t.active.isSome ∧ t.loggers = .empty

theorem activate_gives (settings : List Setting) : (activate settings).Gives Renewed := by
  intro t a t' h
  obtain rfl : (activate settings t).2 = t' := by rw [h]
  exact ⟨rfl, rfl⟩

theorem configureFromEnvironment_gives : configureFromEnvironment.Gives Renewed :=
  .bind fun _ => .bind fun _ => .bind fun _ => .bind fun _ => activate_gives _

theorem activeSettings_of_ok {t t' : Telemetry} {settings : List Setting} (h : activeSettings t = (.ok settings, t')) :
    t'.active = some settings ∧ (t'.loggers = t.loggers ∨ t'.loggers = .empty) := by
  cases ha : t.active with
  | none =>
    simp only [activeSettings, Action.get_bind, ha] at h
    rcases hc : configureFromEnvironment t with ⟨f | a, t₁⟩
    case error => rw [Action.bind_error hc] at h; cases h
    case ok =>
      rw [Action.bind_ok hc] at h
      cases h
      obtain ⟨active, empty⟩ := configureFromEnvironment_gives _ _ _ hc
      obtain ⟨settings, active⟩ := Option.isSome_iff_exists.mp active
      exact ⟨by rw [active]; rfl, .inr empty⟩
  | some settings =>
    rw [activeSettings, Action.get_bind, ha] at h
    cases h
    exact ⟨ha, .inl rfl⟩

def loggerName (t : Telemetry) (name : Option String) : String := (name.filter (· ≠ "")).getD t.defaultName

theorem getLogger_of_some {t : Telemetry} {name : Option String} {logger : Logger}
    (h : t.loggers.get? (t.loggerName name) = some logger) : getLogger name t = (.ok logger, t) := by
  simp only [loggerName] at h
  simp only [getLogger, Action.get_bind, h]
  rfl

theorem getLogger_of_none {t : Telemetry} {name : Option String} (h : t.loggers.get? (t.loggerName name) = none) :
    getLogger name t = (activeSettings >>= fun settings => do
      let logger : Logger := ⟨t.loggerName name, settings, (← get).made⟩
      call (.logger logger)
      modify fun later => { later with loggers := later.loggers.insert (t.loggerName name) logger, made := later.made + 1 }
      return logger) t := by
  simp only [loggerName] at h
  simp only [getLogger, Action.get_bind, h]
  rfl

theorem getLogger_turns (name : Option String) : (getLogger name).Moves Turns := by
  intro t
  cases hl : t.loggers.get? (t.loggerName name) with
  | some logger => exact getLogger_of_some hl ▸ .refl
  | none =>
    rw [getLogger_of_none hl]
    rcases ha : activeSettings t with ⟨f | settings, t'⟩
    case error =>
      rw [Action.bind_error ha]
      exact activeSettings_turns.of_eq ha
    case ok =>
      obtain ⟨active, loggers⟩ := activeSettings_of_ok ha
      have absent : t'.loggers.get? (t.loggerName name) = none := by
        obtain same | empty := loggers
        · rwa [same]
        · rw [empty]; rfl
      rw [Action.bind_ok ha]
      exact (activeSettings_turns.of_eq ha).tail (.make absent active)

theorem emit_turns (logger : Logger) (level : Value) (message : String) (fields : OrderedMap Scalar Value) :
    (emit logger level message fields).Moves Turns := by
  refine turns_bind (ofExcept_turns _) fun given => ?_
  dsimp only
  split
  case isTrue => exact turns_bind (ofExcept_turns _) fun _ => call_turns rfl
  case isFalse =>
    split
    case isTrue => exact turns_bind (ofExcept_turns _) fun _ => call_turns rfl
    case isFalse => exact fun _ => .refl

theorem record_turns (name : String) (level : Value) (data : OrderedMap Scalar Value) (logger : Option String) :
    (record name level data logger).Moves Turns :=
  turns_bind (getLogger_turns _) fun _ => emit_turns _ _ _ _

theorem pushContext_turns (logger : Logger) (entries : List (Scalar × Value)) :
    (pushContext logger entries).Moves Turns := by
  induction entries with
  | nil => exact fun _ => .refl
  | cons entry rest ih =>
    exact turns_bind (ofExcept_turns _) fun _ => turns_bind (call_turns rfl) fun _ => turns_bind ih fun _ _ => .refl

theorem openSpan_eq (wanted : SpanRequest) : openSpan wanted = getLogger wanted.logger >>= fun logger =>
    pushContext logger wanted.metadata.entries >>= fun metadata =>
      enter ⟨logger, wanted.name, wanted.component, wanted.metadata.keys, ⟨metadata⟩⟩ :=
  rfl

theorem enter_turns (span : Span) : (enter span).Moves Turns := by
  unfold enter
  cases span.tracked? with
  | none => exact turns_bind (call_turns rfl) fun _ _ => .refl
  | some component => exact turns_bind (call_turns rfl) fun _ => turns_bind (call_turns rfl) fun _ _ => .refl

theorem openSpan_turns (wanted : SpanRequest) : (openSpan wanted).Moves Turns :=
  turns_bind (getLogger_turns _) fun _ => turns_bind (pushContext_turns _ _) fun _ => enter_turns _

theorem fail_turns (span : Span) (reason : Value) : (span.fail reason).Moves Turns :=
  turns_bind (ofExcept_turns _) fun _ => emit_turns _ _ _ _

theorem popContext_turns (logger : Logger) (keys : List Scalar) : (popContext logger keys).Moves Turns := by
  induction keys with
  | nil => exact fun _ => .refl
  | cons key rest ih => exact turns_bind (call_turns rfl) fun _ => ih

theorem leave_turns (span : Span) (sort : Option String) : (leave span sort).Moves Turns := by
  refine turns_bind (popContext_turns _ _) fun _ => turns_bind (call_turns rfl) fun _ => ?_
  cases span.tracked? with
  | none => exact fun _ => .refl
  | some component => exact call_turns rfl

theorem report_turns (span : Span) (f : Failure) : (span.report f).Moves Turns := by
  unfold Span.report
  split
  case isTrue => exact fun _ => .refl
  case isFalse => exact fail_turns _ _

theorem closeSpan_turns (span : Span) (failure : Option Failure) : (closeSpan span failure).Moves Turns := by
  cases failure with
  | none => exact leave_turns span none
  | some f =>
    have attempts : (Action.attempt (span.report f)).Moves Turns := report_turns span f
    exact turns_bind attempts fun _ => turns_bind (leave_turns _ _) fun _ => ofExcept_turns _

theorem perform_turns (op : Op) : (perform op).Moves Turns := by
  cases op with
  | record name level data => exact record_turns _ _ _ _
  | openSpan wanted => exact openSpan_turns wanted
  | closeSpan span failure => exact closeSpan_turns span failure

inductive Use : Telemetry → Telemetry → Prop
  | environment {t : Telemetry} (env : Environment) : Use t { t with environment := env }
  | configure {t : Telemetry} (given : Option (List Setting)) (preset : Option String) :
      Use t (configure given preset t).2
  | getLogger {t : Telemetry} (name : Option String) : Use t (getLogger name t).2
  | record {t : Telemetry} (name : String) (level : Value) (data : OrderedMap Scalar Value) (logger : Option String) :
      Use t (record name level data logger t).2
  | openSpan {t : Telemetry} (wanted : SpanRequest) : Use t (openSpan wanted t).2
  | closeSpan {t : Telemetry} (span : Span) (failure : Option Failure) : Use t (closeSpan span failure t).2
  | fail {t : Telemetry} (span : Span) (reason : Value) : Use t (span.fail reason t).2

theorem Use.turns {t t' : Telemetry} (use : Use t t') : Turns t t' := by
  cases use with
  | environment env => exact .single (.environment env)
  | configure given preset => exact configure_turns _ _ _
  | getLogger name => exact getLogger_turns _ _
  | record name level data logger => exact record_turns _ _ _ _ _
  | openSpan wanted => exact openSpan_turns _ _
  | closeSpan span failure => exact closeSpan_turns _ _ _
  | fail span reason => exact fail_turns _ _ _

end Turns

end Telemetry

end Keychord
