import Keychord.Proofs.Telemetry.Turns

namespace Keychord

namespace Telemetry

def Advances (t t' : Telemetry) : Prop := t'.active = t.active ∧ t'.loggers = t.loggers ∨ t'.active.isSome

def Coherent (t : Telemetry) : Prop := t.active.isSome ∨ t.loggers = .empty

theorem Advances.refl (t : Telemetry) : Advances t t := .inl ⟨rfl, rfl⟩

theorem Advances.trans (t₁ t₂ t₃ : Telemetry) : Advances t₁ t₂ → Advances t₂ t₃ → Advances t₁ t₃
  | .inl ⟨ha, hl⟩, .inl ⟨ha', hl'⟩ => .inl ⟨ha'.trans ha, hl'.trans hl⟩
  | .inr ha, .inl ⟨ha', _⟩ => .inr (ha' ▸ ha)
  | _, .inr ha => .inr ha

theorem Advances.active {t t' : Telemetry} (h : Advances t t') (ha : t.active.isSome) : t'.active.isSome := by
  obtain ⟨h, -⟩ | h := h
  · exact h ▸ ha
  · exact h

theorem Advances.coherent {t t' : Telemetry} (h : Advances t t') (hc : t.Coherent) : t'.Coherent := by
  obtain ⟨ha, hl⟩ | h := h
  · exact hc.imp (ha ▸ ·) (hl ▸ ·)
  · exact .inl h

theorem Turn.advances {t t' : Telemetry} (turn : Turn t t') : Advances t t' := by
  cases turn with
  | environment env => exact .inl ⟨rfl, rfl⟩
  | call plain => exact .inl ⟨rfl, rfl⟩
  | activate settings => exact .inr rfl
  | make absent active => exact .inr (Option.isSome_of_eq_some active)

theorem Turns.advances {t t' : Telemetry} (turns : Turns t t') : Advances t t' := by
  induction turns with
  | refl => exact .refl _
  | tail _ turn ih => exact ih.trans _ _ _ turn.advances

theorem getLogger_moves (name : Option String) : (getLogger name).Moves Advances :=
  fun t => (getLogger_turns name t).advances

theorem emit_moves (logger : Logger) (level : Value) (message : String) (fields : OrderedMap Scalar Value) :
    (emit logger level message fields).Moves Advances :=
  fun t => (emit_turns logger level message fields t).advances

theorem perform_moves (op : Op) : (perform op).Moves Advances := fun t => (perform_turns op t).advances

theorem Use.advances {t t' : Telemetry} (use : Use t t') : Advances t t' := use.turns.advances

theorem active_of_getLogger {t t' : Telemetry} {name : Option String} {logger : Logger} (hc : t.Coherent)
    (h : getLogger name t = (.ok logger, t')) : t'.active.isSome := by
  cases hl : t.loggers.get? (t.loggerName name) with
  | some logger =>
    rw [getLogger_of_some hl] at h
    cases h
    refine hc.resolve_right fun he => ?_
    simp [he, OrderedMap.get?, OrderedMap.empty] at hl
  | none =>
    rw [getLogger_of_none hl] at h
    rcases ha : activeSettings t with ⟨f | settings, t₁⟩
    case error => rw [Action.bind_error ha] at h; cases h
    case ok =>
      obtain ⟨active, -⟩ := activeSettings_of_ok ha
      rw [Action.bind_ok ha] at h
      cases h
      exact Option.isSome_of_eq_some active

def Able (t : Telemetry) : Prop := t.active.isSome ∨ ∃ buffer, environmentBuffer t.environment = .ok buffer

theorem makeSettings_ok (settings : List Setting) (t : Telemetry) : ∃ t', makeSettings settings t = (.ok (), t') := by
  induction settings generalizing t with
  | nil => exact ⟨t, rfl⟩
  | cons setting rest ih => exact ih _

theorem configureFromEnvironment_ok {t : Telemetry} {buffer : List Setting}
    (h : environmentBuffer t.environment = .ok buffer) : ∃ t', configureFromEnvironment t = (.ok (), t') := by
  obtain ⟨t₁, h₁⟩ := makeSettings_ok (environmentSettings t.environment) t
  obtain ⟨t₂, h₂⟩ := makeSettings_ok buffer t₁
  have hb : (Action.ofExcept (environmentBuffer t.environment) : Action Telemetry (List Setting)) t₁ = (.ok buffer, t₁) :=
    congrArg (·, t₁) h
  rw [configureFromEnvironment, Action.get_bind, Action.bind_ok h₁, Action.bind_ok hb, Action.bind_ok h₂]
  exact ⟨_, rfl⟩

theorem activeSettings_ok {t : Telemetry} (able : t.Able) : ∃ settings t', activeSettings t = (.ok settings, t') := by
  rw [activeSettings, Action.get_bind]
  cases ha : t.active with
  | some settings => exact ⟨settings, t, rfl⟩
  | none =>
    obtain ⟨buffer, hb⟩ := able.resolve_left (by simp [ha])
    obtain ⟨t', ht⟩ := configureFromEnvironment_ok hb
    exact ⟨_, t', Action.bind_ok ht⟩

theorem getLogger_ok {t : Telemetry} (name : Option String) (able : t.Able) :
    ∃ logger t', getLogger name t = (.ok logger, t') := by
  obtain ⟨settings, t', hs⟩ := activeSettings_ok able
  cases hl : t.loggers.get? (t.loggerName name) with
  | some logger => exact ⟨logger, t, getLogger_of_some hl⟩
  | none =>
    rw [getLogger_of_none hl, Action.bind_ok hs]
    exact ⟨_, _, rfl⟩

theorem enter_ok (span : Span) (t : Telemetry) : ∃ t', enter span t = (.ok span, t') ∧ Advances t t' := by
  rw [enter]
  cases span.tracked? with
  | none => exact ⟨_, rfl, .inl ⟨rfl, rfl⟩⟩
  | some component => exact ⟨_, rfl, .inl ⟨rfl, rfl⟩⟩

@[simp]
theorem text?_text (s : String) : (Value.text s).text? = some s := rfl

@[simp]
theorem text?_scalar_text (s : String) : (Scalar.text s).text? = some s := rfl

def Shown (field : Scalar × Value) : Prop := field.1.text?.isSome ∧ field.2.text?.isSome

theorem shown_setEntry {entries : List (Scalar × Value)} {key : Scalar} {value : Value}
    (h : ∀ e ∈ entries, Shown e) (hk : Shown (key, value)) : ∀ e ∈ OrderedMap.setEntry key value entries, Shown e := by
  induction entries with
  | nil => simpa [OrderedMap.setEntry] using hk
  | cons entry rest ih =>
    obtain ⟨k, v⟩ := entry
    obtain ⟨he, hr⟩ := List.forall_mem_cons.mp h
    rw [OrderedMap.setEntry]
    split
    case isTrue => exact List.forall_mem_cons.mpr ⟨⟨he.left, hk.right⟩, hr⟩
    case isFalse => exact List.forall_mem_cons.mpr ⟨he, ih hr⟩

theorem shown_insertAll {fields : OrderedMap Scalar Value} {entries : List (Scalar × Value)}
    (hf : ∀ e ∈ fields.entries, Shown e) (he : ∀ e ∈ entries, Shown e) :
    ∀ e ∈ (fields.insertAll entries).entries, Shown e := by
  induction entries generalizing fields with
  | nil => exact hf
  | cons entry rest ih =>
    obtain ⟨hs, hr⟩ := List.forall_mem_cons.mp he
    exact ih (shown_setEntry hf hs) hr

theorem textOf_ok {value : Value} (h : value.text?.isSome) : ∃ s, textOf value = .ok s := by
  obtain ⟨s, h⟩ := Option.isSome_iff_exists.mp h
  exact ⟨s, by rw [textOf, h]⟩

theorem fieldTexts_ok {entries : List (Scalar × Value)} (h : ∀ e ∈ entries, Shown e) :
    ∃ texts, fieldTexts entries = .ok texts := by
  induction entries with
  | nil => exact ⟨[], rfl⟩
  | cons entry rest ih =>
    obtain ⟨⟨hk, hv⟩, hr⟩ := List.forall_mem_cons.mp h
    obtain ⟨name, hn⟩ : ∃ s, textOf (.scalar entry.1) = .ok s := textOf_ok hk
    obtain ⟨shown, hs⟩ := textOf_ok hv
    obtain ⟨others, ho⟩ := ih hr
    exact ⟨(name, shown) :: others, by simp only [fieldTexts, hn, hs, ho]; rfl⟩

theorem emit_ok {level : String} (hl : fieldLevels.contains (Text.lower level)) {fields : OrderedMap Scalar Value}
    (h : ∀ e ∈ fields.entries, Shown e) (logger : Logger) (message : String) (t : Telemetry) :
    ∃ t', emit logger (.text level) message fields t = (.ok (), t') := by
  obtain ⟨texts, ht⟩ := fieldTexts_ok h
  have hg : (Action.ofExcept (textOf (.text level)) : Action Telemetry String) t = (.ok level, t) := rfl
  have hf : (Action.ofExcept (fieldTexts fields.entries) : Action Telemetry (List (String × String))) t =
      (.ok texts, t) := congrArg (·, t) ht
  rw [emit, Action.bind_ok hg, if_pos hl, Action.bind_ok hf]
  exact ⟨_, rfl⟩

theorem record_of_able {t : Telemetry} (able : t.Able) {level : String} (hl : fieldLevels.contains (Text.lower level))
    {data : List (String × Value)} (hd : ∀ e ∈ data, e.2.text?.isSome) (name : String) :
    ∃ t', perform (.record name level data) t = (.ok (), t') ∧ t.Advances t' := by
  obtain ⟨logger, t₁, hg⟩ := getLogger_ok none able
  have written : ∃ t', perform (.record name level data) t = (.ok (), t') := by
    have he : perform (.record name level data) t = _ := Action.bind_ok hg
    rw [he]
    refine emit_ok hl (shown_insertAll ?_ ?_) logger _ t₁
    case refine_1 => exact shown_insertAll nofun (by simp [Shown])
    case refine_2 =>
      intro e he
      obtain ⟨field, hm, rfl⟩ := List.mem_map.mp he
      exact ⟨rfl, hd field hm⟩
  obtain ⟨t', h⟩ := written
  exact ⟨t', h, (perform_moves _).of_eq h⟩

theorem record_ok {t : Telemetry} (ha : t.active.isSome) {level : String}
    (hl : fieldLevels.contains (Text.lower level)) {data : List (String × Value)}
    (hd : ∀ e ∈ data, e.2.text?.isSome) (name : String) :
    ∃ t', perform (.record name level data) t = (.ok (), t') ∧ t.Advances t' :=
  record_of_able (.inl ha) hl hd name

section Context

variable {entry : Scalar × Value} {entries rest : List (Scalar × Value)} {logger : Logger}

theorem pushContext_cons_ok {shown : String} (h : textOf entry.2 = .ok shown) (t : Telemetry) :
    pushContext logger (entry :: rest) t = (pushContext logger rest >>= fun others => pure ((entry.1, shown) :: others))
      { t with calls := t.calls ++ [.addContext logger entry.1 shown] } := by
  have ht : (Action.ofExcept (textOf entry.2) : Action Telemetry String) t = (.ok shown, t) := congrArg (·, t) h
  rw [pushContext, Action.bind_ok ht]
  rfl

theorem pushContext_cons_error {f : Failure} (h : textOf entry.2 = .error f) (t : Telemetry) :
    pushContext logger (entry :: rest) t = (.error f, t) := by
  have ht : (Action.ofExcept (textOf entry.2) : Action Telemetry String) t = (.error f, t) := congrArg (·, t) h
  rw [pushContext, Action.bind_error ht]

theorem pushContext_ok (h : ∀ e ∈ entries, e.2.text?.isSome) (logger : Logger) (t : Telemetry) :
    ∃ metadata t', pushContext logger entries t = (.ok metadata, t') := by
  induction entries generalizing t with
  | nil => exact ⟨[], t, rfl⟩
  | cons entry rest ih =>
    obtain ⟨hv, hr⟩ := List.forall_mem_cons.mp h
    obtain ⟨shown, hs⟩ := textOf_ok hv
    obtain ⟨others, t', ho⟩ := ih hr { t with calls := t.calls ++ [.addContext logger entry.1 shown] }
    exact ⟨(entry.1, shown) :: others, t', (pushContext_cons_ok hs t).trans (Action.bind_ok ho)⟩

theorem pushContext_unshown (h : ∃ e ∈ entries, e.2.text? = none) (logger : Logger) (t : Telemetry) :
    ∃ t', pushContext logger entries t = (.error .numberTooLong, t') := by
  induction entries generalizing t with
  | nil => simp at h
  | cons entry rest ih =>
    cases ht : entry.2.text? with
    | none =>
      have unshown : textOf entry.2 = .error .numberTooLong := by rw [textOf, ht]
      exact ⟨t, pushContext_cons_error unshown t⟩
    | some shown =>
      have others : ∃ e ∈ rest, e.2.text? = none := by simpa [ht] using h
      obtain ⟨t', ho⟩ := ih others { t with calls := t.calls ++ [.addContext logger entry.1 shown] }
      have hs : textOf entry.2 = .ok shown := by rw [textOf, ht]
      exact ⟨t', (pushContext_cons_ok hs t).trans (Action.bind_error ho)⟩

theorem pushContext_keys {metadata : List (Scalar × String)} {t t' : Telemetry}
    (h : pushContext logger entries t = (.ok metadata, t')) : metadata.map Prod.fst = entries.map Prod.fst := by
  induction entries generalizing t metadata with
  | nil => cases h; rfl
  | cons entry rest ih =>
    cases hs : textOf entry.2 with
    | error f => rw [pushContext_cons_error hs] at h; cases h
    | ok shown =>
      rw [pushContext_cons_ok hs] at h
      rcases ho : pushContext logger rest { t with calls := t.calls ++ [.addContext logger entry.1 shown] } with
        ⟨f | others, t₁⟩
      case error => rw [Action.bind_error ho] at h; cases h
      case ok =>
        rw [Action.bind_ok ho] at h
        cases h
        exact congrArg (entry.1 :: ·) (ih ho)

end Context

theorem openSpan_ok {t : Telemetry} (able : t.Able) {wanted : SpanRequest}
    (hm : ∀ e ∈ wanted.metadata.entries, e.2.text?.isSome) :
    ∃ span t', perform (.openSpan wanted) t = (.ok span, t') ∧ t.Advances t' := by
  obtain ⟨logger, t₁, hg⟩ := getLogger_ok wanted.logger able
  obtain ⟨metadata, t₂, hp⟩ := pushContext_ok hm logger t₁
  let span : Span := ⟨logger, wanted.name, wanted.component, wanted.metadata.keys, ⟨metadata⟩⟩
  obtain ⟨t', he, -⟩ := enter_ok span t₂
  have h : openSpan wanted t = (.ok span, t') := by rw [openSpan_eq, Action.bind_ok hg, Action.bind_ok hp, he]
  exact ⟨span, t', h, (perform_moves (.openSpan wanted)).of_eq h⟩

theorem openSpan_unshown {t : Telemetry} (able : t.Able) {wanted : SpanRequest}
    (hm : ∃ e ∈ wanted.metadata.entries, e.2.text? = none) :
    ∃ t', perform (.openSpan wanted) t = (.error .numberTooLong, t') := by
  obtain ⟨logger, t₁, hg⟩ := getLogger_ok wanted.logger able
  obtain ⟨t₂, hp⟩ := pushContext_unshown hm logger t₁
  have h : openSpan wanted t = (.error .numberTooLong, t₂) := by
    rw [openSpan_eq, Action.bind_ok hg]
    exact Action.bind_error hp
  exact ⟨t₂, h⟩

theorem active_of_openSpan {t t' : Telemetry} {wanted : SpanRequest} {span : Span} (hc : t.Coherent)
    (h : openSpan wanted t = (.ok span, t')) : t'.active.isSome := by
  rw [openSpan_eq] at h
  rcases hg : getLogger wanted.logger t with ⟨f | logger, t₁⟩
  case error => rw [Action.bind_error hg] at h; cases h
  case ok =>
    rw [Action.bind_ok hg] at h
    have turns : Action.Moves Turns (pushContext logger wanted.metadata.entries >>= fun metadata =>
        enter ⟨logger, wanted.name, wanted.component, wanted.metadata.keys, ⟨metadata⟩⟩) :=
      turns_bind (pushContext_turns _ _) fun _ => enter_turns _
    exact (turns.of_eq h).advances.active (active_of_getLogger hc hg)

theorem popContext_ok (logger : Logger) (keys : List Scalar) (t : Telemetry) :
    ∃ t', popContext logger keys t = (.ok (), t') := by
  induction keys generalizing t with
  | nil => exact ⟨t, rfl⟩
  | cons key rest ih => exact ih _

theorem leave_ok (span : Span) (sort : Option String) (t : Telemetry) : ∃ t', leave span sort t = (.ok (), t') := by
  obtain ⟨t₁, hp⟩ := popContext_ok span.logger span.contextKeys t
  have hl : leave span sort t = _ := Action.bind_ok hp
  rw [hl]
  cases span.tracked? with
  | none => exact ⟨_, rfl⟩
  | some component => exact ⟨_, rfl⟩

theorem closeSpan_of_reported {span : Span} {f : Failure} {t t₁ : Telemetry} (h : span.report f t = (.ok (), t₁)) :
    ∃ t', closeSpan span (some f) t = (.ok (), t') := by
  have attempted : Action.attempt (span.report f) t = (.ok (.ok ()), t₁) := by rw [Action.attempt, h]
  obtain ⟨t', hl⟩ := leave_ok span (some f.kind) t₁
  exact ⟨t', (Action.bind_ok attempted).trans (Action.bind_ok hl)⟩

theorem closeSpan_ok (span : Span) {failure : Option Failure} (hf : ∀ f ∈ failure, f.isCancellation) (t : Telemetry) :
    ∃ t', perform (.closeSpan span failure) t = (.ok (), t') ∧ t.Advances t' := by
  have left : ∃ t', closeSpan span failure t = (.ok (), t') := by
    cases failure with
    | none => exact leave_ok span none t
    | some f =>
      have hr : span.report f t = (.ok (), t) := by rw [Span.report, if_pos (hf f rfl)]; rfl
      exact closeSpan_of_reported hr
  obtain ⟨t', h⟩ := left
  exact ⟨t', h, (perform_moves (.closeSpan span failure)).of_eq h⟩

theorem openSpan_keys {wanted : SpanRequest} {span : Span} {t t' : Telemetry}
    (h : perform (.openSpan wanted) t = (.ok span, t')) :
    span.metadata.entries.map Prod.fst = wanted.metadata.entries.map Prod.fst := by
  have h : openSpan wanted t = (.ok span, t') := h
  rw [openSpan_eq] at h
  rcases hg : getLogger wanted.logger t with ⟨f | logger, t₁⟩
  case error => rw [Action.bind_error hg] at h; cases h
  case ok =>
    rw [Action.bind_ok hg] at h
    rcases hp : pushContext logger wanted.metadata.entries t₁ with ⟨f | metadata, t₂⟩
    case error => rw [Action.bind_error hp] at h; cases h
    case ok =>
      obtain ⟨t₃, he, -⟩ := enter_ok ⟨logger, wanted.name, wanted.component, wanted.metadata.keys, ⟨metadata⟩⟩ t₂
      rw [Action.bind_ok hp, he] at h
      cases h
      exact pushContext_keys hp

theorem shown_fields {span : Span} (legible : ∀ key ∈ span.metadata.entries.map Prod.fst, key.text?.isSome)
    (reason : String) :
    ∀ e ∈ (span.fields (.ofList [(.text "reason", .text reason)])).entries, Shown e := by
  have described : ∀ e ∈ ((OrderedMap.ofList [(Scalar.text "span", Value.text span.name)]).update
      (span.metadata.mapValues Value.text)).entries, Shown e := by
    refine shown_insertAll (shown_insertAll nofun (by simp [Shown])) fun e he => ?_
    obtain ⟨entry, hm, rfl⟩ := List.mem_map.mp he
    exact ⟨legible _ (List.mem_map_of_mem hm), rfl⟩
  have extra : ∀ e ∈ (OrderedMap.ofList [(Scalar.text "reason", Value.text reason)]).entries, Shown e :=
    shown_insertAll nofun (by simp [Shown])
  rw [Span.fields]
  refine shown_insertAll ?_ extra
  split
  · exact shown_setEntry described ⟨rfl, rfl⟩
  · exact described

theorem report_ok {span : Span} (legible : ∀ key ∈ span.metadata.entries.map Prod.fst, key.text?.isSome) (f : Failure)
    (t : Telemetry) : ∃ t', span.report f t = (.ok (), t') := by
  unfold Span.report
  split
  case isTrue => exact ⟨t, rfl⟩
  case isFalse =>
    have level : fieldLevels.contains (Text.lower "error") := by decide
    exact emit_ok level (shown_fields legible f.message) span.logger "span::fail" t

theorem closeSpan_legible {span : Span} (legible : ∀ key ∈ span.metadata.entries.map Prod.fst, key.text?.isSome)
    (failure : Option Failure) (t : Telemetry) :
    ∃ t', perform (.closeSpan span failure) t = (.ok (), t') ∧ t.Advances t' := by
  have left : ∃ t', closeSpan span failure t = (.ok (), t') := by
    cases failure with
    | none => exact leave_ok span none t
    | some f =>
      obtain ⟨t₁, hr⟩ := report_ok legible f t
      exact closeSpan_of_reported hr
  obtain ⟨t', h⟩ := left
  exact ⟨t', h, (perform_moves (.closeSpan span failure)).of_eq h⟩

end Telemetry

end Keychord
