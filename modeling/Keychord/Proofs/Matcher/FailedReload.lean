import Keychord.Proofs.Matcher.Reload
import Keychord.Proofs.Matcher.Twins

namespace Keychord.Matcher

open Relation (ReflTransGen)

variable {Job α β : Type}

def Carries (step : Step Job α) (action : Keychord.Action Telemetry α) : Prop :=
  ∀ m t, Logged.step step ⟨m, t⟩ = .finished (action t).1 ⟨m, (action t).2⟩

section Carries

theorem carries_pure (a : α) : Carries (pure a : Step Job α) (pure a) := fun _ _ => rfl

theorem carries_throw (f : Failure) : Carries (throw f : Step Job α) (throw f) := fun _ _ => rfl

theorem carries_ask (op : Telemetry.Op) : Carries (askTelemetry op : Step Job op.Answer) (Telemetry.perform op) :=
  fun _ _ => rfl

theorem Carries.bind {first : Step Job α} {next : α → Step Job β} {action : Keychord.Action Telemetry α}
    {andThen : α → Keychord.Action Telemetry β} (hf : Carries first action) (hn : ∀ a, Carries (next a) (andThen a)) :
    Carries (first >>= next) (action >>= andThen) := by
  intro m t
  show Logged.run ((first m).andThen _) t = _
  have h : Logged.run (first m) t = .finished (action t).1 ⟨m, (action t).2⟩ := hf m t
  rw [Logged.run_andThen, Action.bind_apply, h]
  rcases action t with ⟨f | a, t'⟩
  case error => rfl
  case ok => exact hn a m t'

theorem carries_tryCatch {step : Step Job α} {handler : Failure → Step Job α} {action : Keychord.Action Telemetry α}
    {recover : Failure → Keychord.Action Telemetry α} (hs : Carries step action)
    (hh : ∀ f, Carries (handler f) (recover f)) :
    Carries (tryCatchThe Failure step handler) (tryCatchThe Failure action recover) := by
  intro m t
  show Logged.run ((step m).andThen _) t = _
  have h : Logged.run (step m) t = .finished (action t).1 ⟨m, (action t).2⟩ := hs m t
  rw [Logged.run_andThen, Action.tryCatch_apply, h]
  rcases action t with ⟨f | a, t'⟩
  case error => exact hh f m t'
  case ok => rfl

variable (leader : Notation.Leader) (timeout : Int) (bindings : OrderedMap String String)

theorem carries_compileTraced : Carries (Keymap.compileTraced askTelemetry leader timeout bindings : Step Job Keymap)
    (Keymap.compileTraced Telemetry.perform leader timeout bindings) := by
  refine (carries_ask _).bind fun span => (carries_tryCatch ?_ fun f => ?_).bind fun keymap => ?_
  case refine_1 =>
    cases Keymap.compile leader timeout bindings with
    | ok keymap => exact carries_pure keymap
    | error fault => exact carries_throw _
  case refine_2 => exact (carries_ask (.closeSpan span (some f))).bind fun _ => carries_throw f
  case refine_3 => exact (carries_ask (.closeSpan span none)).bind fun _ => carries_pure keymap

theorem operate_reload_of_error {config : Config} {s : Logged} {f : Failure} {t : Telemetry}
    (h : Keymap.compileTraced Telemetry.perform (.text config.leader) config.timeout config.bindings s.telemetry =
      (.error f, t)) : (operate (.reload config) s : Run (surroundings Job) Logged (Option Bool)) =
        .finished (.error f) ⟨s.matcher, t⟩ := by
  have carried : Logged.run (Keymap.compileTraced askTelemetry (.text config.leader) config.timeout config.bindings
      s.matcher : Run (surroundings Job) Matcher Keymap) s.telemetry = .finished (.error f) ⟨s.matcher, t⟩ :=
    (carries_compileTraced _ _ _ s.matcher s.telemetry).trans (by rw [h])
  show Logged.run (((Keymap.compileTraced askTelemetry (.text config.leader) config.timeout config.bindings
    s.matcher).andThen _).andThen _) s.telemetry = _
  rw [Logged.run_andThen, Logged.run_andThen, carried]
  rfl

theorem uniform_compileTraced : Telemetry.Uniform Eq (Keymap.compileTraced Telemetry.perform leader timeout bindings)
    (Keymap.compileTraced Telemetry.perform leader timeout bindings) := by
  refine Telemetry.uniform_around _ ?_
  split
  · exact Telemetry.uniform_pure rfl
  · exact Telemetry.uniform_throw _

end Carries

section Refused

variable {leader : Notation.Leader} {timeout : Int} {bindings : OrderedMap String String} {fault : Keymap.Fault}

theorem compileTraced_error (malformed : Keymap.compile leader timeout bindings = .error fault) (t : Telemetry) :
    ∃ f, (Keymap.compileTraced Telemetry.perform leader timeout bindings t).1 = .error f ∧
      (t.Able → (Value.int bindings.size).text?.isSome → (Value.int timeout).text?.isSome → f = .keymap fault) := by
  rcases ho : Telemetry.perform (.openSpan (Keymap.compileSpan timeout bindings)) t with ⟨f | span, t₁⟩
  case error =>
    have he : Keymap.compileTraced Telemetry.perform leader timeout bindings t = (.error f, t₁) := Action.bind_error ho
    refine ⟨f, by rw [he], fun able count delay => ?_⟩
    obtain ⟨span, t₂, hs, -⟩ : ∃ span t₂, Telemetry.perform (.openSpan (Keymap.compileSpan timeout bindings)) t =
        (.ok span, t₂) ∧ t.Advances t₂ := Telemetry.openSpan_ok able (by simp [Keymap.compileSpan, count, delay])
    rw [hs] at ho
    cases ho
  case ok =>
    have legible : ∀ key ∈ span.metadata.entries.map Prod.fst, key.text?.isSome := by
      rw [Telemetry.openSpan_keys ho]
      simp [Keymap.compileSpan]
    obtain ⟨t₂, hc, -⟩ := Telemetry.closeSpan_legible legible (some (.keymap fault)) t₁
    refine ⟨.keymap fault, ?_, fun _ _ _ => rfl⟩
    have he : Keymap.compileTraced Telemetry.perform leader timeout bindings t = (.error (.keymap fault), t₂) := by
      refine Telemetry.around_error ho ?_ hc
      rw [malformed]
      rfl
    rw [he]

end Refused

-- Surroundings of every kind. Whoever else uses telemetry does not change whether it can be used.
def steadyHost (Job : Type) : Host Job :=
  { anyHost Job with
    drifts := fun s s' => s'.matcher = s.matcher ∧ s.telemetry.Use s'.telemetry ∧
      s'.telemetry.fault? = s.telemetry.fault? }

theorem respects_steadyHost : Machine.Respects operate (likeness Job Telemetry.Concordant 0) Aside.none (steadyHost Job)
    (steadyHost Job) where
  runs := fun _ _ _ _ hc hs => alike_operate Telemetry.concordant_concord hc hs
  answers := by
    intro request request' reply requests _
    cases requests with
    | same => exact ⟨reply, HEq.rfl, trivial⟩
    | arm => exact ⟨reply, HEq.rfl, trivial⟩
  opens := by
    intro _ _ request request' _ _ requests shown
    cases requests with
    | same => exact shown
    | arm => exact shown.elim
  drifts := by
    rintro s ⟨m, t⟩ s' ⟨like, concordant⟩ ⟨rfl, use, same⟩
    exact ⟨like, use.advances.coherent concordant.coherent, concordant.coherent', same.trans concordant.fault⟩
  changes := fun _ _ _ _ changes => changes.elim

def SameSince (h₀ h₀' h h' : Past Job) : Prop :=
  ∃ later later', h = later ++ h₀ ∧ h' = later' ++ h₀' ∧
    later.Forall₂ (Sight.Alike (likeness Job Telemetry.Concordant 0)) later'

theorem Like.eq {m m' : Matcher} (l : Like 0 m m') : m = m' := by
  obtain ⟨keymap, path, typed, timer, generation⟩ := l
  have same : m.generation = m'.generation := by omega
  cases m
  cases m'
  simp_all

section

variable {M N : Working Job}

theorem goes_along (matchers : N.state.matcher = M.state.matcher)
    (telemetries : Telemetry.Concordant N.state.telemetry M.state.telemetry) (frames : N.frames = M.frames)
    (alike : ∀ frame ∈ M.frames, frame.Alike (likeness Job Telemetry.Concordant 0) frame)
    (armed : Past.armed N.history = Past.armed M.history) {N' : Working Job}
    (reaches : Machine.Reaches operate (steadyHost Job) N N') :
    ∃ M', Machine.Reaches operate (steadyHost Job) M M' ∧ SameSince N.history M.history N'.history M'.history ∧
      N'.state.matcher = M'.state.matcher := by
  have start : Machine.InStep (likeness Job Telemetry.Concordant 0) Aside.none (steadyHost Job) []
      (M.frames.map fun _ => true) N.history M.history (M.frames.map fun _ => true) N M :=
    ⟨⟨matchers ▸ .refl _, telemetries⟩, frames ▸ .same (frames ▸ alike), .start⟩
  have all : ∀ b ∈ M.frames.map fun _ => true, b = true := by simp
  -- A callback that has been handed out by one has been handed out by the other.
  have handed : ∀ {h h' : Past Job} {shared : List Bool},
      Alongside (likeness Job Telemetry.Concordant 0) Aside.none (M.frames.map fun _ => true) N.history M.history shared
        h h' → ∀ e ∈ Past.armed h, e ∈ Past.armed h' := by
    intro h h' shared along e he
    obtain he | ⟨e', he', like⟩ := armed_alongside (fun _ => False.elim) along e he
    case inl =>
      obtain ⟨-, -, later', -, rfl, -⟩ := along.forall₂ (fun _ _ => id) all
      exact (sublist_of_suffix Past.armed_sublist (List.suffix_append _ _)).subset (armed ▸ he)
    case inr => exact like.eq ▸ he'
  obtain ⟨shared, M', reaches', inStep⟩ := reaches.follow respects_steadyHost Machine.free_nil start
    (fun _ _ _ _ inStep c called _ => ⟨c, .refl c, fun expiry he => handed inStep.histories expiry (called expiry he)⟩)
    fun _ _ _ _ _ aside => aside.elim
  obtain ⟨-, later, later', hl, hl', same⟩ := inStep.histories.forall₂ (fun _ _ => id) all
  exact ⟨M', reaches', ⟨later, later', hl, hl', same⟩, inStep.states.left.eq⟩

variable {env : Environment} {config : Config} {fault : Keymap.Fault}

theorem alike_of_reserved {H : Host Job} (reserved : H.Reserved) (reaches : Machine.Reaches operate H M N)
    (new : M.frames = []) (coherent : M.state.telemetry.Coherent) :
    N.state.telemetry.Coherent ∧ ∀ frame ∈ N.frames, frame.Alike (likeness Job Telemetry.Concordant 0) frame := by
  have drifts : ∀ s t, (likeness Job Telemetry.Concordant 0).state s s → H.drifts s t →
      (likeness Job Telemetry.Concordant 0).state t t := by
    intro s t ⟨_, concordant⟩ hd
    exact ⟨.refl _, .refl ((reserved.drifts s t hd).right.advances.coherent concordant.coherent)⟩
  obtain ⟨⟨-, concordant⟩, alike⟩ := reaches.alike_self (L := likeness Job Telemetry.Concordant 0) Call.Like.refl
    (fun _ _ _ _ => alike_operate Telemetry.concordant_concord) drifts ⟨.refl _, .refl coherent⟩ (by simp [new])
  exact ⟨concordant.coherent, alike⟩

theorem alike_of_reaches (reaches : Machine.Reaches operate (anyHost Job) (fresh Job env) M) :
    M.state.telemetry.Coherent ∧ ∀ frame ∈ M.frames, frame.Alike (likeness Job Telemetry.Concordant 0) frame :=
  alike_of_reserved anyHost_reserved reaches rfl (.inr rfl)

-- A configuration that cannot be made into a keymap is refused, for its own fault if telemetry does its part. The
-- matcher stays as it is, nothing is asked of anybody, and what goes on afterwards, from wherever it was called, is
-- what would have gone on without the reload.
theorem failed_reload_atomic (reaches : Machine.Reaches operate (anyHost Job) (fresh Job env) M)
    (malformed : Keymap.compile (.text config.leader) config.timeout config.bindings = .error fault) :
    ∃ f t, Keymap.compileTraced Telemetry.perform (.text config.leader) config.timeout config.bindings M.state.telemetry =
        (.error f, t) ∧
      (M.state.telemetry.Able → (Value.int config.bindings.size).text?.isSome → (Value.int config.timeout).text?.isSome →
        f = .keymap fault) ∧
      M.enterCall operate (.reload config) = ⟨⟨M.state.matcher, t⟩, M.frames,
        .returned (.reload config) (.error f) ⟨M.state.matcher, t⟩ :: .called (.reload config) M.state :: M.history⟩ ∧
      (∀ N, Machine.Reaches operate (steadyHost Job) (M.enterCall operate (.reload config)) N → ∃ M',
        Machine.Reaches operate (steadyHost Job) M M' ∧
        SameSince (M.enterCall operate (.reload config)).history M.history N.history M'.history ∧
        N.state.matcher = M'.state.matcher) ∧
      (∀ M', Machine.Reaches operate (steadyHost Job) M M' → ∃ N,
        Machine.Reaches operate (steadyHost Job) (M.enterCall operate (.reload config)) N ∧
        SameSince M.history (M.enterCall operate (.reload config)).history M'.history N.history ∧
        M'.state.matcher = N.state.matcher) := by
  obtain ⟨coherent, alike⟩ := alike_of_reaches reaches
  obtain ⟨f, raised, own⟩ := compileTraced_error malformed M.state.telemetry
  obtain ⟨-, kept, -⟩ := uniform_compileTraced (.text config.leader) config.timeout config.bindings _ _ (.refl coherent)
  rcases ht : Keymap.compileTraced Telemetry.perform (.text config.leader) config.timeout config.bindings
    M.state.telemetry with ⟨outcome, t⟩
  rw [ht] at raised kept
  obtain rfl : outcome = .error f := raised
  have entered : M.enterCall operate (.reload config) = ⟨⟨M.state.matcher, t⟩, M.frames,
      .returned (.reload config) (.error f) ⟨M.state.matcher, t⟩ :: .called (.reload config) M.state :: M.history⟩ := by
    rw [Machine.enterCall, operate_reload_of_error ht]
    rfl
  have state : (M.enterCall operate (.reload config)).state = ⟨M.state.matcher, t⟩ := by rw [entered]
  have frames : (M.enterCall operate (.reload config)).frames = M.frames := by rw [entered]
  have armed : Past.armed (M.enterCall operate (.reload config)).history = Past.armed M.history := by rw [entered]; rfl
  have matcher := congrArg Logged.matcher state
  have concordant : Telemetry.Concordant M.state.telemetry (M.enterCall operate (.reload config)).state.telemetry :=
    (congrArg Logged.telemetry state).symm ▸ kept
  refine ⟨f, t, rfl, own, entered, fun N further => ?_, fun M' further => ?_⟩
  case refine_1 => exact goes_along matcher concordant.symm frames alike armed further
  case refine_2 => exact goes_along matcher.symm concordant frames.symm (frames ▸ alike) armed.symm further

end

def unclosed : Config := ⟨" ", 500, ⟨[("x", "new"), ("<C-", "broken")]⟩⟩

theorem unclosed_malformed : ∃ fault,
    Keymap.compile (.text unclosed.leader) unclosed.timeout unclosed.bindings = .error fault := by
  have fails : (Keymap.compile (.text unclosed.leader) unclosed.timeout unclosed.bindings).toOption.isNone := by
    decide +kernel
  cases hk : Keymap.compile (.text unclosed.leader) unclosed.timeout unclosed.bindings with
  | error fault => exact ⟨fault, rfl⟩
  | ok keymap => simp [hk, Except.toOption] at fails

def lapsed : Working Unit := .serve operate calm begun (.expire ⟨3, .abandon⟩)

theorem begun_held : begun.state.matcher.hasTimer ∧ (⟨3, .abandon⟩ : Expiry) ∈ Past.armed begun.history := by
  decide +kernel

theorem lapsed_idle : lapsed.state.matcher.isIdle ∧ ¬lapsed.state.matcher.hasTimer := by decide +kernel

theorem failed_reload_atomic_begun : ∃ f t N,
    begun.enterCall operate (.reload unclosed) = ⟨⟨begun.state.matcher, t⟩, begun.frames,
      .returned (.reload unclosed) (.error f) ⟨begun.state.matcher, t⟩ :: .called (.reload unclosed) begun.state ::
        begun.history⟩ ∧
    begun.state.matcher.hasTimer ∧
    Machine.Reaches operate (steadyHost Unit) (begun.enterCall operate (.reload unclosed)) N ∧
    SameSince begun.history (begun.enterCall operate (.reload unclosed)).history lapsed.history N.history ∧
    N.state.matcher.isIdle := by
  have given : ∀ request, (anyHost Unit).answers request (calm request) := fun _ => trivial
  obtain ⟨reaches, rest⟩ : Machine.Reaches operate (anyHost Unit) (fresh Unit {}) begun ∧ begun.Resting :=
    reaches_calmly given (resting_fresh _) (by simp [anyHost])
  obtain ⟨fault, malformed⟩ := unclosed_malformed
  have given : ∀ request, (steadyHost Unit).answers request (calm request) := fun _ => trivial
  have further : Machine.Reaches operate (steadyHost Unit) begun lapsed :=
    Machine.Reaches.serve given .refl rest (by rintro _ ⟨⟩; exact begun_held.right)
  obtain ⟨f, t, -, -, entered, -, back⟩ := failed_reload_atomic reaches malformed
  obtain ⟨N, reaches', same, matchers⟩ := back lapsed further
  exact ⟨f, t, N, entered, begun_held.left, reaches', same, matchers ▸ lapsed_idle.left⟩

end Keychord.Matcher
