import Keychord.Proofs.Matcher.StaleTimers
import Keychord.Proofs.Telemetry.Concord

namespace Keychord.Matcher

variable {Job α β γ δ : Type} {T : Telemetry → Telemetry → Prop} {d : Int}

structure Expiry.Like (d : Int) (e e' : Expiry) : Prop where
  action     : e.action = e'.action
  generation : (e.generation : Int) = e'.generation + d

structure Like (d : Int) (m m' : Matcher) : Prop where
  keymap     : m.keymap = m'.keymap
  path       : m.path = m'.path
  typed      : m.typed = m'.typed
  timer      : m.timer = m'.timer
  generation : (m.generation : Int) = m'.generation + d

inductive Call.Like (d : Int) : Call → Call → Prop
  | expire {e e' : Expiry} (expiries : e.Like d e') : Like d (.expire e) (.expire e')
  | same (c : Call) (other : ∀ e, c ≠ .expire e) : Like d c c

inductive Request.Like (d : Int) : Request Job → Request Job → Prop
  | arm (delay : Int) {e e' : Expiry} (expiries : e.Like d e') : Like d (.arm delay e) (.arm delay e')
  | same (request : Request Job) (other : ∀ delay e, request ≠ .arm delay e) : Like d request request

def likeness (Job : Type) (T : Telemetry → Telemetry → Prop) (d : Int) : Likeness (surroundings Job) Logged Call where
  state s s' := Like d s.matcher s'.matcher ∧ T s.telemetry s'.telemetry
  call := Call.Like d
  request := Request.Like d

theorem Like.refl (m : Matcher) : Like 0 m m := ⟨rfl, rfl, rfl, rfl, (Int.add_zero _).symm⟩

theorem Like.symm {m m' : Matcher} (l : Like d m m') : Like (-d) m' m :=
  ⟨l.keymap.symm, l.path.symm, l.typed.symm, l.timer.symm, by have := l.generation; omega⟩

theorem Call.Like.refl (c : Call) : c.Like 0 c := by
  cases c with
  | expire e => exact .expire ⟨rfl, (Int.add_zero _).symm⟩
  | _ => exact .same _ (by simp)

theorem Expiry.Like.eq {e e' : Expiry} (l : e.Like 0 e') : e = e' := by
  obtain ⟨action, generation⟩ := l
  have same : e.generation = e'.generation := by omega
  cases e
  cases e'
  simp_all

theorem Like.hasTimer {m m' : Matcher} (l : Like d m m') : m.hasTimer = m'.hasTimer := congrArg Option.isSome l.timer

theorem Like.stateName {m m' : Matcher} (l : Like d m m') : m.stateName = m'.stateName := by
  rw [Matcher.stateName, Matcher.stateName, isIdle, isIdle, l.path]

def Alike (T : Telemetry → Telemetry → Prop) (d : Int) (P : α → β → Prop) (step : Step Job α) (step' : Step Job β) :
    Prop :=
  ∀ s s', (likeness Job T d).state s s' → (Logged.step step s).Alike (likeness Job T d) P (Logged.step step' s')

section Combinators

variable {P : α → β → Prop} {Q : γ → δ → Prop}

theorem alike_pure {a : α} {b : β} (hp : P a b) : Alike T d P (pure a : Step Job α) (pure b : Step Job β) :=
  fun _ _ states => .finished (.ok hp) states

theorem alike_throw (f : Failure) : Alike T d P (throw f : Step Job α) (throw f : Step Job β) :=
  fun _ _ states => .finished (.error f) states

theorem Alike.andThen {first : Step Job α} {first' : Step Job β} {next : Except Failure α → Step Job γ}
    {next' : Except Failure β → Step Job δ} (hf : Alike T d P first first')
    (hn : ∀ outcome outcome', Agree P outcome outcome' → Alike T d Q (next outcome) (next' outcome')) :
    Alike T d Q (fun m => (first m).andThen next) (fun m => (first' m).andThen next') := by
  intro s s' states
  show (Logged.run ((first s.matcher).andThen next) s.telemetry).Alike (likeness Job T d) Q
    (Logged.run ((first' s'.matcher).andThen next') s'.telemetry)
  rw [Logged.run_andThen, Logged.run_andThen]
  exact (hf s s' states).andThen fun _ _ t t' agree states => hn _ _ agree t t' states

theorem Alike.bind {first : Step Job α} {first' : Step Job β} {next : α → Step Job γ} {next' : β → Step Job δ}
    (hf : Alike T d P first first') (hn : ∀ a b, P a b → Alike T d Q (next a) (next' b)) :
    Alike T d Q (first >>= next) (first' >>= next') := by
  refine hf.andThen fun outcome outcome' agree => ?_
  cases agree with
  | ok related => exact hn _ _ related
  | error f => exact alike_throw f

theorem alike_tryCatch {step : Step Job α} {step' : Step Job β} {handler : Failure → Step Job α}
    {handler' : Failure → Step Job β} (hs : Alike T d P step step') (hh : ∀ f, Alike T d P (handler f) (handler' f)) :
    Alike T d P (tryCatchThe Failure step handler) (tryCatchThe Failure step' handler') := by
  refine hs.andThen fun outcome outcome' agree => ?_
  cases agree with
  | ok related => exact alike_pure related
  | error f => exact hh f

theorem alike_attempt {step : Step Job α} {step' : Step Job β} (hs : Alike T d P step step') :
    Alike T d (Agree P) step.attempt step'.attempt :=
  hs.andThen fun _ _ agree => alike_pure agree

theorem alike_get : Alike T d (Like d) (get : Step Job Matcher) get := fun _ _ states => .finished (.ok states.left) states

theorem alike_modify {f f' : Matcher → Matcher} (hf : ∀ m m', Like d m m' → Like d (f m) (f' m')) :
    Alike T d Eq (modify f : Step Job PUnit) (modify f') :=
  fun _ _ states => .finished (.ok rfl) ⟨hf _ _ states.left, states.right⟩

theorem alike_ite {p p' : Prop} [Decidable p] [Decidable p'] (hp : p ↔ p') {first second : Step Job α}
    {first' second' : Step Job β} (hf : Alike T d P first first') (hs : Alike T d P second second') :
    Alike T d P (if p then first else second) (if p' then first' else second') := by
  by_cases h : p
  · rw [if_pos h, if_pos (hp.mp h)]; exact hf
  · rw [if_neg h, if_neg (mt hp.mpr h)]; exact hs

theorem alike_ask (request : Request Job) (hr : ∀ op, request ≠ .telemetry op)
    (other : ∀ delay e, request ≠ .arm delay e) : Alike T d Eq (ask request) (ask request) := by
  have waits : ∀ s s', (likeness Job T d).state s s' →
      (Run.waiting request s (fun reply s => .finished reply s) : Run (surroundings Job) Logged _).Alike
        (likeness Job T d) Eq (.waiting request s' fun reply s => .finished reply s) := by
    refine fun s s' states => .waiting (.same request other) states ?_
    rintro reply _ t t' ⟨⟩ states
    exact .finished (agree_eq reply) states
  cases request with
  | telemetry op => exact absurd rfl (hr op)
  | _ => exact waits

theorem alike_arm (delay : Int) {e e' : Expiry} (expiries : e.Like d e') :
    Alike T d Eq (ask (.arm delay e) : Step Job Nat) (ask (.arm delay e')) := by
  refine fun s s' states => .waiting (.arm delay expiries) states fun reply reply' t t' replies states => ?_
  obtain rfl : reply = reply' := eq_of_heq (α := Except Failure Nat) replies
  exact .finished (agree_eq reply) states

variable (concord : Telemetry.Concord T)
include concord

theorem alike_record (name level : String) (data : List (String × Value)) :
    Alike T d Eq (askTelemetry (.record name level data) : Step Job _) (askTelemetry (.record name level data)) := by
  intro s s' ⟨matchers, telemetries⟩
  obtain ⟨agree, after⟩ := concord.record name level data _ _ telemetries
  exact .finished agree ⟨matchers, after⟩

theorem alike_openSpan (wanted : Telemetry.SpanRequest) : Alike T d Telemetry.Span.Twin
    (askTelemetry (.openSpan wanted) : Step Job Telemetry.Span) (askTelemetry (.openSpan wanted)) := by
  intro s s' ⟨matchers, telemetries⟩
  obtain ⟨agree, after⟩ := concord.openSpan wanted _ _ telemetries
  exact .finished agree ⟨matchers, after⟩

theorem alike_closeSpan {span span' : Telemetry.Span} (twin : span.Twin span') (failure : Option Failure) :
    Alike T d Eq (askTelemetry (.closeSpan span failure) : Step Job Unit) (askTelemetry (.closeSpan span' failure)) := by
  intro s s' ⟨matchers, telemetries⟩
  obtain ⟨agree, after⟩ := concord.closeSpan _ _ failure _ _ twin telemetries
  exact .finished agree ⟨matchers, after⟩

theorem alike_around (wanted : Telemetry.SpanRequest) {block : Step Job α} {block' : Step Job β}
    (hb : Alike T d P block block') :
    Alike T d P (Telemetry.around askTelemetry wanted block) (Telemetry.around askTelemetry wanted block') := by
  refine (alike_openSpan concord wanted).bind fun span span' twin => ?_
  refine (alike_tryCatch hb fun f => ?_).bind fun a b related => ?_
  · exact (alike_closeSpan concord twin (some f)).bind fun _ _ _ => alike_throw f
  · exact (alike_closeSpan concord twin none).bind fun _ _ _ => alike_pure related

end Combinators

section Steps

theorem alike_cancelTimer : Alike T d Eq (cancelTimer : Step Job Unit) cancelTimer := by
  have next : ∀ m m', Like d m m' →
      Like d { m with generation := m.generation + 1 } { m' with generation := m'.generation + 1 } :=
    fun m m' l => ⟨l.keymap, l.path, l.typed, l.timer, by have := l.generation; push_cast; omega⟩
  refine (alike_modify next).bind fun _ _ _ => alike_get.bind fun m m' l => ?_
  rw [← l.timer]
  cases m.timer with
  | none => exact alike_pure rfl
  | some timer =>
    refine (alike_modify fun m m' l => ?_).bind fun _ _ _ => alike_ask (.disarm timer) (by simp) (by simp)
    exact ⟨l.keymap, l.path, l.typed, rfl, l.generation⟩

theorem alike_startTimer (action : Action) : Alike T d Eq (startTimer action : Step Job Unit) (startTimer action) := by
  refine alike_cancelTimer.bind fun _ _ _ => alike_get.bind fun m m' l => ?_
  rw [← l.keymap]
  have expiries : Expiry.Like d ⟨m.generation, action⟩ ⟨m'.generation, action⟩ := ⟨rfl, l.generation⟩
  refine (alike_arm _ expiries).bind ?_
  rintro timer _ rfl
  exact alike_modify fun m m' l => ⟨l.keymap, l.path, l.typed, rfl, l.generation⟩

theorem alike_clear : Alike T d Eq (clear : Step Job Unit) clear :=
  alike_cancelTimer.bind fun _ _ _ => alike_modify fun _ _ l => ⟨l.keymap, rfl, rfl, l.timer, l.generation⟩

theorem alike_publish (event : Event) : Alike T d Eq (ask (.publish event) : Step Job Unit) (ask (.publish event)) :=
  alike_ask _ (by simp) (by simp)

theorem alike_reset : Alike T d Eq (reset : Step Job Unit) reset := by
  refine alike_get.bind fun m m' l => alike_clear.bind fun _ _ _ => ?_
  exact alike_ite (by rw [l.typed]) (alike_publish _) (alike_pure rfl)

theorem Like.pendingDisplay {m m' : Matcher} (l : Like d m m') : m.pendingDisplay = m'.pendingDisplay :=
  congrArg Notation.write l.typed

variable (concord : Telemetry.Concord T)
include concord

theorem alike_reportFailure (command : String) (f : Failure) :
    Alike T d Eq (reportFailure command f : Step Job Unit) (reportFailure command f) :=
  (alike_record concord _ _ _).bind fun _ _ _ => alike_publish _

theorem alike_reportIfFailed (command : String) {step step' : Step Job α} (hs : Alike T d Eq step step') :
    Alike T d Eq (reportIfFailed command step) (reportIfFailed command step') := by
  refine (alike_attempt hs).bind fun outcome outcome' agree => ?_
  obtain rfl := agree.eq
  cases outcome with
  | ok a => exact alike_pure rfl
  | error f =>
    have reported : Alike T d Eq (do reportFailure command f; return (none : Option α) : Step Job (Option α))
        (do reportFailure command f; return none) :=
      (alike_reportFailure concord command f).bind fun _ _ _ => alike_pure rfl
    exact alike_ite .rfl ((alike_throw f).bind (P := Eq) fun _ _ _ => reported) reported

theorem alike_dispatch (command : String) : Alike T d Eq (dispatch command : Step Job Unit) (dispatch command) := by
  refine alike_get.bind fun m m' l => alike_clear.bind fun _ _ _ => ?_
  rw [l.pendingDisplay]
  refine (alike_record concord _ _ _).bind fun _ _ _ => (alike_publish _).bind fun _ _ _ => ?_
  refine (alike_reportIfFailed concord command (alike_ask _ (by simp) (by simp))).bind ?_
  rintro work _ rfl
  match work with
  | none | some none => exact alike_pure rfl
  | some (some job) =>
    exact (alike_reportIfFailed concord command (alike_ask _ (by simp) (by simp))).bind fun _ _ _ => alike_pure rfl

theorem alike_abandon : Alike T d Eq (abandon : Step Job Unit) abandon := by
  refine alike_get.bind fun m m' l => ?_
  rw [l.pendingDisplay]
  exact (alike_record concord _ _ _).bind fun _ _ _ => alike_reset

theorem alike_expire {e e' : Expiry} (expiries : e.Like d e') : Alike T d Eq (expire e : Step Job Unit) (expire e') := by
  refine alike_get.bind fun m m' l => alike_ite ?_ ?_ (alike_pure rfl)
  case refine_1 =>
    have he := expiries.generation
    have hm := l.generation
    simp only [Bool.and_eq_true, decide_eq_true_eq, l.hasTimer]
    exact and_congr_left fun _ => by omega
  case refine_2 =>
    rw [← expiries.action]
    have timedOut : Alike T d Eq (modify fun m => { m with timer := none } : Step Job PUnit)
        (modify fun m => { m with timer := none }) :=
      alike_modify fun m m' l => ⟨l.keymap, l.path, l.typed, rfl, l.generation⟩
    refine timedOut.bind fun _ _ _ => ?_
    cases e.action with
    | dispatch command => exact alike_dispatch concord command
    | abandon => exact alike_abandon concord

theorem alike_settled (command : String) (outcome : Except Failure Unit) :
    Alike T d Eq (settled command outcome : Step Job Unit) (settled command outcome) := by
  cases outcome with
  | ok _ => exact alike_pure rfl
  | error f => exact alike_ite .rfl (alike_reportFailure concord command f) (alike_pure rfl)

theorem alike_arrive (node : Keymap.Node) : Alike T d Eq (arrive node : Step Job Unit) (arrive node) := by
  have waits : ∀ action command, Alike T d Eq (do
      startTimer action
      ask (.publish (.pending (← get).pendingDisplay command node.nextEdges)) : Step Job Unit) (do
      startTimer action
      ask (.publish (.pending (← get).pendingDisplay command node.nextEdges))) := by
    refine fun action command => (alike_startTimer action).bind fun _ _ _ => alike_get.bind fun m m' l => ?_
    rw [l.pendingDisplay]
    exact alike_publish _
  rw [arrive]
  split
  · exact alike_dispatch concord _
  · exact waits _ _

theorem alike_followOr (press : Press) (key : Key) {otherwise : Step Job Bool} (ho : Alike T d Eq otherwise otherwise) :
    Alike T d Eq (followOr press key otherwise) (followOr press key otherwise) := by
  refine alike_get.bind fun m m' l => ?_
  dsimp only
  rw [l.keymap, l.path]
  split
  case h_1 node _ =>
    refine alike_cancelTimer.bind fun _ _ _ => (alike_ask _ (by simp) (by simp)).bind fun _ _ _ => ?_
    refine (alike_modify fun _ _ l => ?_).bind fun _ _ _ => (alike_arrive concord node).bind fun _ _ _ => alike_pure rfl
    exact ⟨l.keymap, rfl, congrArg (· ++ [key]) l.typed, l.timer, l.generation⟩
  case h_2 =>
    refine alike_ite (by rw [isIdle, isIdle, l.path]) (alike_pure rfl) ?_
    exact alike_reset.bind fun _ _ _ => ho

theorem alike_handle (press : Press) : Alike T d Eq (handle press : Step Job Bool) (handle press) := by
  refine alike_ite .rfl (alike_pure rfl) ?_
  cases press.toKey? with
  | none => exact alike_pure rfl
  | some key =>
    refine alike_get.bind fun m m' l => ?_
    rw [keySpan, keySpan, l.stateName]
    exact alike_around concord _ (alike_followOr concord press key (alike_followOr concord press key (alike_pure rfl)))

theorem alike_compileTraced (leader : Notation.Leader) (timeout : Int) (bindings : OrderedMap String String) :
    Alike T d Eq (Keymap.compileTraced askTelemetry leader timeout bindings : Step Job Keymap)
      (Keymap.compileTraced askTelemetry leader timeout bindings) := by
  refine alike_around concord _ ?_
  split
  · exact alike_pure rfl
  · exact alike_throw _

theorem alike_reload (config : Config) : Alike T d Eq (reload config : Step Job Unit) (reload config) := by
  refine (alike_compileTraced concord _ _ _).bind ?_
  rintro keymap _ rfl
  refine alike_reset.bind fun _ _ _ => (alike_modify fun _ _ l => ?_).bind fun _ _ _ => alike_record concord _ _ _
  exact ⟨rfl, rfl, l.typed, l.timer, l.generation⟩

omit concord in
theorem alike_return {f : α → β} {step step' : Step Job α} (hs : Alike T d Eq step step') :
    Alike T d Eq (do return f (← step)) (do return f (← step')) :=
  hs.bind fun _ _ ha => alike_pure (congrArg f ha)

-- Whatever matchers are asked to do that differ only in their generations, they do alike.
theorem alike_operate {c c' : Call} {s s' : Logged} (calls : c.Like d c') (states : (likeness Job T d).state s s') :
    (operate c s).Alike (likeness Job T d) Eq (operate c' s') := by
  have steps : Alike T d Eq (c.step : Step Job (Option Bool)) c'.step := by
    cases calls with
    | expire expiries => exact alike_return (alike_expire concord expiries)
    | same c other =>
      cases c with
      | press press => exact alike_return (alike_handle concord press)
      | expire e => exact absurd rfl (other e)
      | reset | close => exact alike_return alike_reset
      | reload config => exact alike_return (alike_reload concord config)
      | settled command outcome => exact alike_return (alike_settled concord command outcome)
  exact steps s s' states

end Steps

theorem armed_alongside {A : Aside (surroundings Job) Logged Call (Option Bool)} {underWay shared : List Bool}
    {h₀ h₀' h h' : Past Job} (arms : ∀ request, A.requests request → ∀ delay e, request ≠ .arm delay e)
    (along : Alongside (likeness Job T d) A underWay h₀ h₀' shared h h') :
    ∀ e ∈ Past.armed h, e ∈ Past.armed h₀ ∨ ∃ e' ∈ Past.armed h', e.Like d e' := by
  induction along with
  | start => exact fun e he => .inl he
  | called _ _ _ ih | answered _ _ _ ih | returned _ _ _ ih => exact ih
  | calledAside _ _ ih | answeredAside _ ih | returnedAside _ ih => exact ih
  | asked _ requests _ ih =>
    cases requests with
    | same request other => rwa [Past.armed_asked other, Past.armed_asked other]
    | arm delay expiries =>
      intro e he
      obtain rfl | he := List.mem_cons.mp he
      · exact .inr ⟨_, List.mem_cons_self, expiries⟩
      · exact (ih e he).imp_right fun ⟨e', he', like⟩ => ⟨e', List.mem_cons_of_mem _ he', like⟩
  | askedAside _ asks ih => rwa [Past.armed_asked (arms _ asks)]

end Keychord.Matcher
