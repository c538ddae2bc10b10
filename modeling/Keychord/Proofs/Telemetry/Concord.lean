import Keychord.Proofs.Lockstep
import Keychord.Proofs.Telemetry.Active

namespace Keychord

namespace Action

variable {σ α : Type}

def caught (handler : Failure → Action σ α) : Except Failure α → Action σ α
  | .ok a => pure a
  | .error f => handler f

theorem tryCatch_apply (action : Action σ α) (handler : Failure → Action σ α) (s : σ) :
    (tryCatchThe Failure action handler) s = caught handler (action s).1 (action s).2 := by
  simp only [tryCatchThe, MonadExceptOf.tryCatch, ExceptT.tryCatch, ExceptT.mk, bind, StateT.bind, caught]
  rcases action s with ⟨_ | _, s'⟩ <;> rfl

end Action

namespace Telemetry

def fault? (t : Telemetry) : Option Failure :=
  match t.active, environmentBuffer t.environment with
  | none, .error f => some f
  | _, _ => none

theorem able_iff_fault? {t : Telemetry} : t.Able ↔ t.fault? = none := by
  rw [Able, fault?]
  cases t.active <;> cases environmentBuffer t.environment <;> simp

structure Concordant (t t' : Telemetry) : Prop where
  coherent  : t.Coherent
  coherent' : t'.Coherent
  fault     : t.fault? = t'.fault?

namespace Concordant

variable {t t' t'' : Telemetry}

theorem refl (coherent : t.Coherent) : Concordant t t := ⟨coherent, coherent, rfl⟩

theorem symm (c : Concordant t t') : Concordant t' t := ⟨c.coherent', c.coherent, c.fault.symm⟩

theorem trans (c : Concordant t t') (c' : Concordant t' t'') : Concordant t t'' :=
  ⟨c.coherent, c'.coherent', c.fault.trans c'.fault⟩

theorem of_active (ha : t.active.isSome) (ha' : t'.active.isSome) : Concordant t t' where
  coherent := .inl ha
  coherent' := .inl ha'
  fault := (able_iff_fault?.mp (.inl ha)).trans (able_iff_fault?.mp (.inl ha')).symm

end Concordant

variable {α β γ δ : Type}

def Uniform (P : α → β → Prop) (action : Action Telemetry α) (action' : Action Telemetry β) : Prop :=
  ∀ t t', Concordant t t' → Agree P (action t).1 (action' t').1 ∧ Concordant t (action t).2 ∧
    Concordant t' (action' t').2

theorem uniform_pure {P : α → β → Prop} {a : α} {b : β} (hp : P a b) :
    Uniform P (pure a : Action Telemetry α) (pure b : Action Telemetry β) :=
  fun _ _ c => ⟨.ok hp, .refl c.coherent, .refl c.coherent'⟩

theorem uniform_ofExcept (outcome : Except Failure α) :
    Uniform Eq (Action.ofExcept outcome : Action Telemetry α) (Action.ofExcept outcome) :=
  fun _ _ c => ⟨agree_eq outcome, .refl c.coherent, .refl c.coherent'⟩

theorem uniform_call (call call' : Call) : Uniform Eq (Telemetry.call call) (Telemetry.call call') :=
  fun _ _ c => ⟨.ok rfl, ⟨c.coherent, c.coherent, rfl⟩, ⟨c.coherent', c.coherent', rfl⟩⟩

theorem Uniform.bind {P : α → β → Prop} {Q : γ → δ → Prop} {first : Action Telemetry α} {first' : Action Telemetry β}
    {next : α → Action Telemetry γ} {next' : β → Action Telemetry δ} (hf : Uniform P first first')
    (hn : ∀ a b, P a b → Uniform Q (next a) (next' b)) : Uniform Q (first >>= next) (first' >>= next') := by
  intro t t' c
  obtain ⟨agree, before, before'⟩ := hf t t' c
  rw [Action.bind_apply, Action.bind_apply]
  revert agree before before'
  rcases first t with ⟨outcome, t₁⟩
  rcases first' t' with ⟨outcome', t₁'⟩
  intro agree before before'
  cases agree with
  | error f => exact ⟨.error f, before, before'⟩
  | ok related =>
    obtain ⟨agree, after, after'⟩ := hn _ _ related t₁ t₁' ((before.symm.trans c).trans before')
    exact ⟨agree, before.trans after, before'.trans after'⟩

theorem Uniform.attempt {action action' : Action Telemetry α} (ha : Uniform Eq action action') :
    Uniform Eq (Action.attempt action) (Action.attempt action') := by
  intro t t' c
  obtain ⟨agree, before, before'⟩ := ha t t' c
  exact ⟨.ok agree.eq, before, before'⟩

theorem uniform_throw (f : Failure) : Uniform Eq (throw f : Action Telemetry α) (throw f) :=
  fun _ _ c => ⟨.error f, .refl c.coherent, .refl c.coherent'⟩

theorem uniform_tryCatch {P : α → β → Prop} {action : Action Telemetry α} {action' : Action Telemetry β}
    {handler : Failure → Action Telemetry α} {handler' : Failure → Action Telemetry β} (ha : Uniform P action action')
    (hh : ∀ f, Uniform P (handler f) (handler' f)) :
    Uniform P (tryCatchThe Failure action handler) (tryCatchThe Failure action' handler') := by
  intro t t' c
  obtain ⟨agree, before, before'⟩ := ha t t' c
  rw [Action.tryCatch_apply, Action.tryCatch_apply]
  revert agree before before'
  rcases action t with ⟨outcome, t₁⟩
  rcases action' t' with ⟨outcome', t₁'⟩
  intro agree before before'
  cases agree with
  | ok related => exact ⟨.ok related, before, before'⟩
  | error f =>
    obtain ⟨agree, after, after'⟩ := hh f t₁ t₁' ((before.symm.trans c).trans before')
    exact ⟨agree, before.trans after, before'.trans after'⟩

section Lines

variable {logger logger' : Logger}

theorem uniform_emit (level : Value) (message : String) (fields : OrderedMap Scalar Value) :
    Uniform Eq (emit logger level message fields) (emit logger' level message fields) := by
  refine (uniform_ofExcept _).bind ?_
  rintro given _ rfl
  dsimp only
  split
  case isTrue => exact (uniform_ofExcept _).bind fun _ _ _ => uniform_call _ _
  case isFalse =>
    split
    case isTrue => exact (uniform_ofExcept _).bind fun _ _ _ => uniform_call _ _
    case isFalse => exact uniform_ofExcept (.error _)

theorem uniform_pushContext (entries : List (Scalar × Value)) :
    Uniform Eq (pushContext logger entries) (pushContext logger' entries) := by
  induction entries with
  | nil => exact uniform_pure rfl
  | cons entry rest ih =>
    refine (uniform_ofExcept _).bind ?_
    rintro shown _ rfl
    refine (uniform_call _ _).bind fun _ _ _ => ih.bind ?_
    rintro others _ rfl
    exact uniform_pure rfl

theorem uniform_popContext (keys : List Scalar) : Uniform Eq (popContext logger keys) (popContext logger' keys) := by
  induction keys with
  | nil => exact uniform_pure rfl
  | cons key rest ih => exact (uniform_call _ _).bind fun _ _ _ => ih

end Lines

inductive Span.Twin : Span → Span → Prop
  | intro (logger logger' : Logger) (name : String) (component : Option String) (contextKeys : List Scalar)
      (metadata : OrderedMap Scalar String) :
      Twin ⟨logger, name, component, contextKeys, metadata⟩ ⟨logger', name, component, contextKeys, metadata⟩

section Spans

variable {span span' : Span}

theorem uniform_enter (twin : span.Twin span') : Uniform Span.Twin (enter span) (enter span') := by
  obtain ⟨logger, logger', name, component, keys, metadata⟩ := twin
  have entered : ∀ l l' : Logger, Uniform Span.Twin
      (do call (.enter l .profile name); return (⟨l, name, component, keys, metadata⟩ : Span))
      (do call (.enter l' .profile name); return (⟨l', name, component, keys, metadata⟩ : Span)) :=
    fun l l' => (uniform_call _ _).bind fun _ _ _ => uniform_pure (.intro l l' name component keys metadata)
  rw [enter, enter]
  dsimp only [Span.tracked?]
  cases component.filter (· ≠ "") with
  | none => exact entered _ _
  | some tracked => exact (uniform_call _ _).bind fun _ _ _ => entered _ _

theorem uniform_leave (twin : span.Twin span') (sort : Option String) : Uniform Eq (leave span sort) (leave span' sort) := by
  obtain ⟨logger, logger', name, component, keys, metadata⟩ := twin
  refine (uniform_popContext _).bind fun _ _ _ => (uniform_call _ _).bind fun _ _ _ => ?_
  dsimp only [Span.tracked?]
  cases component.filter (· ≠ "") with
  | none => exact uniform_pure rfl
  | some tracked => exact uniform_call _ _

theorem uniform_fail (twin : span.Twin span') (reason : Value) : Uniform Eq (span.fail reason) (span'.fail reason) := by
  obtain ⟨logger, logger', name, component, keys, metadata⟩ := twin
  refine (uniform_ofExcept _).bind ?_
  rintro shown _ rfl
  exact uniform_emit _ _ _

theorem uniform_report (twin : span.Twin span') (f : Failure) : Uniform Eq (span.report f) (span'.report f) := by
  unfold Span.report
  split
  case isTrue => exact uniform_pure rfl
  case isFalse => exact uniform_fail twin _

theorem uniform_closeSpan (twin : span.Twin span') (failure : Option Failure) :
    Uniform Eq (closeSpan span failure) (closeSpan span' failure) := by
  cases failure with
  | none => exact uniform_leave twin none
  | some f =>
    refine (uniform_report twin f).attempt.bind ?_
    rintro reported _ rfl
    exact (uniform_leave twin _).bind fun _ _ _ => uniform_ofExcept reported

end Spans

theorem makeSettings_environment (settings : List Setting) (t : Telemetry) :
    ∃ calls, makeSettings settings t = (.ok (), { t with calls := calls }) := by
  induction settings generalizing t with
  | nil => exact ⟨t.calls, rfl⟩
  | cons setting rest ih => exact ih { t with calls := t.calls ++ [.set setting] }

theorem activeSettings_eq {t : Telemetry} : ∃ t', activeSettings t = (t.fault?.elim (.ok (t'.active.getD [])) .error, t') ∧
    t'.environment = t.environment ∧
      (t.fault? = none → t'.active.isSome) ∧ (∀ f, t.fault? = some f → t'.active = none ∧ t'.loggers = t.loggers) := by
  rw [activeSettings, Action.get_bind, fault?]
  cases ha : t.active with
  | some settings => exact ⟨t, by simp [ha]; rfl, rfl, by simp [ha], by simp⟩
  | none =>
    obtain ⟨calls, hm⟩ := makeSettings_environment (environmentSettings t.environment) t
    cases hb : environmentBuffer t.environment with
    | error f =>
      have he : (Action.ofExcept (environmentBuffer t.environment) : Action Telemetry (List Setting))
          { t with calls := calls } = (.error f, { t with calls := calls }) := congrArg (·, _) hb
      have hc : configureFromEnvironment t = (.error f, { t with calls := calls }) := by
        rw [configureFromEnvironment, Action.get_bind, Action.bind_ok hm, Action.bind_error he]
      exact ⟨_, Action.bind_error hc, rfl, by simp, by simp [ha]⟩
    | ok buffer =>
      have he : (Action.ofExcept (environmentBuffer t.environment) : Action Telemetry (List Setting))
          { t with calls := calls } = (.ok buffer, { t with calls := calls }) := congrArg (·, _) hb
      obtain ⟨calls', hm'⟩ := makeSettings_environment buffer { t with calls := calls }
      have hc : configureFromEnvironment t = activate (environmentSettings t.environment ++ buffer)
          { t with calls := calls' } := by
        rw [configureFromEnvironment, Action.get_bind, Action.bind_ok hm, Action.bind_ok he, Action.bind_ok hm']
      exact ⟨_, Action.bind_ok hc, rfl, by simp, by simp⟩

theorem getLogger_found {t : Telemetry} (coherent : t.Coherent) (name : Option String) :
    (∀ f, t.fault? = some f → (getLogger name t).1 = .error f) ∧
      (t.fault? = none → ∃ logger, (getLogger name t).1 = .ok logger) ∧ Concordant t (getLogger name t).2 := by
  cases hl : t.loggers.get? (t.loggerName name) with
  | some logger =>
    -- There are loggers only with active settings.
    have able : t.fault? = none := by
      refine able_iff_fault?.mp (.inl (coherent.resolve_right fun he => ?_))
      simp [he, OrderedMap.get?, OrderedMap.empty] at hl
    rw [getLogger_of_some hl]
    exact ⟨by simp [able], fun _ => ⟨logger, rfl⟩, .refl coherent⟩
  | none =>
    obtain ⟨t', hs, he, ha, hf⟩ := activeSettings_eq (t := t)
    rw [getLogger_of_none hl]
    cases hx : t.fault? with
    | none =>
      rw [hx] at hs
      rw [Action.bind_ok hs]
      refine ⟨by simp, fun _ => ⟨_, rfl⟩, coherent, .inl (ha hx), ?_⟩
      exact hx.trans (able_iff_fault?.mp (.inl (ha hx))).symm
    | some f =>
      rw [hx] at hs
      rw [Action.bind_error hs]
      obtain ⟨inactive, loggers⟩ := hf f hx
      have same : t'.active = t.active := by
        rw [inactive]
        cases hn : t.active with
        | none => rfl
        | some settings => simp [fault?, hn] at hx
      refine ⟨by rintro _ ⟨⟩; rfl, by simp, coherent, ?_, ?_⟩
      case refine_1 => exact Advances.coherent (.inl ⟨same, loggers⟩) coherent
      case refine_2 => rw [fault?, fault?, same, he]

theorem uniform_getLogger (name : Option String) : Uniform (fun _ _ => True) (getLogger name) (getLogger name) := by
  intro t t' c
  obtain ⟨fails, finds, after⟩ := getLogger_found c.coherent name
  obtain ⟨fails', finds', after'⟩ := getLogger_found c.coherent' name
  refine ⟨?_, after, after'⟩
  cases hx : t.fault? with
  | none =>
    obtain ⟨logger, hl⟩ := finds hx
    obtain ⟨logger', hl'⟩ := finds' (c.fault ▸ hx)
    rw [hl, hl']
    exact .ok trivial
  | some f =>
    rw [fails f hx, fails' f (c.fault ▸ hx)]
    exact .error f

theorem getLogger_bind_fault {t : Telemetry} {f : Failure} (coherent : t.Coherent) (fault : t.fault? = some f)
    (name : Option String) (next : Logger → Action Telemetry α) :
    ∃ t', (getLogger name >>= next) t = (.error f, t') ∧ Concordant t t' := by
  have ⟨fails, _, after⟩ := getLogger_found coherent name
  have failed : getLogger name t = (.error f, (getLogger name t).2) := Prod.ext (fails f fault) rfl
  exact ⟨_, Action.bind_error failed, after⟩

theorem openSpan_of_fault {t : Telemetry} {f : Failure} (coherent : t.Coherent) (fault : t.fault? = some f)
    (wanted : SpanRequest) : ∃ t', perform (.openSpan wanted) t = (.error f, t') ∧ Concordant t t' :=
  getLogger_bind_fault coherent fault wanted.logger _

theorem uniform_record (name level : String) (data : List (String × Value)) :
    Uniform Eq (perform (.record name level data)) (perform (.record name level data)) :=
  (uniform_getLogger none).bind fun _ _ _ => uniform_emit _ _ _

theorem record_outcome {t : Telemetry} (coherent : t.Coherent) {level : String}
    (hl : fieldLevels.contains (Text.lower level)) {data : List (String × Value)} (hd : ∀ e ∈ data, e.2.text?.isSome)
    (name : String) :
    ∃ t', perform (.record name level data) t = (t.fault?.elim (.ok ()) .error, t') ∧ Concordant t t' := by
  cases fault : t.fault? with
  | some f => exact getLogger_bind_fault coherent fault none _
  | none =>
    have ⟨t', records, _⟩ := record_of_able (able_iff_fault?.mpr fault) hl hd name
    have ⟨_, after, _⟩ := uniform_record name level data t t (.refl coherent)
    exact ⟨t', records, by rwa [records] at after⟩

theorem uniform_openSpan (wanted : SpanRequest) :
    Uniform Span.Twin (perform (.openSpan wanted)) (perform (.openSpan wanted)) := by
  show Uniform Span.Twin (openSpan wanted) (openSpan wanted)
  rw [openSpan_eq]
  refine (uniform_getLogger _).bind fun logger logger' _ => (uniform_pushContext _).bind ?_
  rintro metadata _ rfl
  exact uniform_enter (.intro logger logger' _ _ _ _)

theorem uniform_around (wanted : SpanRequest) {block : Action Telemetry α} (hb : Uniform Eq block block) :
    Uniform Eq (around perform wanted block) (around perform wanted block) := by
  refine (uniform_openSpan wanted).bind fun span span' twin => (uniform_tryCatch hb fun f => ?_).bind ?_
  case refine_1 => exact (uniform_closeSpan twin (some f)).bind fun _ _ _ => uniform_throw f
  case refine_2 =>
    rintro a _ rfl
    exact (uniform_closeSpan twin none).bind fun _ _ _ => uniform_pure rfl

theorem around_error {wanted : SpanRequest} {block : Action Telemetry α} {span : Span} {f : Failure}
    {t t₁ t₂ t₃ : Telemetry} (opens : perform (.openSpan wanted) t = (.ok span, t₁)) (fails : block t₁ = (.error f, t₂))
    (closes : perform (.closeSpan span (some f)) t₂ = (.ok (), t₃)) : around perform wanted block t = (.error f, t₃) := by
  have recovers : (tryCatchThe Failure block fun f => do
      let _ ← perform (.closeSpan span (some f))
      throwThe Failure f) t₁ = (.error f, t₃) := by
    rw [Action.tryCatch_apply, fails]
    exact Action.bind_ok closes
  exact (Action.bind_ok opens).trans (Action.bind_error recovers)

theorem around_ofExcept {t : Telemetry} (able : t.Able) {wanted : SpanRequest}
    (shown : ∀ e ∈ wanted.metadata.entries, Shown e) (outcome : Except Failure α) :
    ∃ t', around perform wanted (Action.ofExcept outcome) t = (outcome, t') := by
  obtain ⟨span, t₁, opens, -⟩ : ∃ span t₁, perform (.openSpan wanted) t = (.ok span, t₁) ∧ t.Advances t₁ :=
    openSpan_ok able fun e he => (shown e he).right
  have legible : ∀ key ∈ span.metadata.entries.map Prod.fst, key.text?.isSome := by
    rw [openSpan_keys opens]
    intro key hk
    obtain ⟨e, he, rfl⟩ := List.mem_map.mp hk
    exact (shown e he).left
  cases outcome with
  | error f =>
    obtain ⟨t₂, closes, -⟩ := closeSpan_legible legible (some f) t₁
    exact ⟨t₂, around_error opens rfl closes⟩
  | ok a =>
    obtain ⟨t₂, closes, -⟩ := closeSpan_legible legible none t₁
    exact ⟨t₂, (Action.bind_ok opens).trans (Action.bind_ok closes)⟩

structure Concord (T : Telemetry → Telemetry → Prop) : Prop where
  record    : ∀ name level data t t', T t t' → Agree Eq (perform (.record name level data) t).1
    (perform (.record name level data) t').1 ∧ T (perform (.record name level data) t).2
      (perform (.record name level data) t').2
  openSpan  : ∀ wanted t t', T t t' → Agree Span.Twin (perform (.openSpan wanted) t).1 (perform (.openSpan wanted) t').1 ∧
    T (perform (.openSpan wanted) t).2 (perform (.openSpan wanted) t').2
  closeSpan : ∀ span span' failure t t', span.Twin span' → T t t' →
    Agree Eq (perform (.closeSpan span failure) t).1 (perform (.closeSpan span' failure) t').1 ∧
      T (perform (.closeSpan span failure) t).2 (perform (.closeSpan span' failure) t').2

theorem Uniform.concordant {P : α → β → Prop} {action : Action Telemetry α} {action' : Action Telemetry β}
    (u : Uniform P action action') {t t' : Telemetry} (c : Concordant t t') :
    Agree P (action t).1 (action' t').1 ∧ Concordant (action t).2 (action' t').2 :=
  have ⟨agree, after, after'⟩ := u t t' c
  ⟨agree, (after.symm.trans c).trans after'⟩

theorem concordant_concord : Concord Concordant where
  record := fun name level data _ _ c => (uniform_record name level data).concordant c
  openSpan := fun wanted _ _ c => (uniform_openSpan wanted).concordant c
  closeSpan := fun _ _ failure _ _ twin c => (uniform_closeSpan twin failure).concordant c

def BothActive (t t' : Telemetry) : Prop := t.active.isSome ∧ t'.active.isSome

theorem bothActive_concord : Concord BothActive where
  record := fun name level data t t' ⟨ha, ha'⟩ =>
    ⟨((uniform_record name level data).concordant (.of_active ha ha')).left, (perform_moves _ t).active ha,
      (perform_moves _ t').active ha'⟩
  openSpan := fun wanted t t' ⟨ha, ha'⟩ =>
    ⟨((uniform_openSpan wanted).concordant (.of_active ha ha')).left, (perform_moves _ t).active ha,
      (perform_moves _ t').active ha'⟩
  closeSpan := fun _ _ failure t t' twin ⟨ha, ha'⟩ =>
    ⟨((uniform_closeSpan twin failure).concordant (.of_active ha ha')).left,
      (perform_moves (.closeSpan _ failure) t).active ha, (perform_moves (.closeSpan _ failure) t').active ha'⟩

def InUse (t : Telemetry) : Prop := t.active.isSome ∨ t.loggers ≠ .empty

theorem Advances.inUse {t t' : Telemetry} (ha : t.Advances t') (used : t.InUse) : t'.InUse := by
  obtain ⟨active, loggers⟩ | active := ha
  · rwa [InUse, active, loggers]
  · exact .inl active

theorem Coherent.active {t : Telemetry} (coherent : t.Coherent) (used : t.InUse) : t.active.isSome :=
  coherent.elim id fun empty => used.resolve_right fun made => made empty

theorem inUse_of_record {t t' : Telemetry} {name level : String} {data : List (String × Value)}
    (h : perform (.record name level data) t = (.ok (), t')) : t'.InUse := by
  have h : record name (.text level) _ none t = (.ok (), t') := h
  rw [record] at h
  rcases hg : getLogger none t with ⟨f | logger, t₁⟩
  case error => rw [Action.bind_error hg] at h; cases h
  case ok =>
    rw [Action.bind_ok hg] at h
    have used : t₁.InUse := by
      by_cases hc : t.Coherent
      case pos => exact .inl (active_of_getLogger hc hg)
      case neg =>
        have made : t.InUse := .inr fun empty => hc (.inr empty)
        exact ((getLogger_moves none).of_eq hg).inUse made
    exact ((emit_moves _ _ _ _).of_eq h).inUse used

end Telemetry

end Keychord
