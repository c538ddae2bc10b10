import Keychord.Proofs.Matcher.Aftermath
import Keychord.Proofs.Matcher.Refinement
import Keychord.Proofs.Matcher.Reload
import Keychord.Proofs.Matcher.Twins

namespace Keychord.Matcher

open Relation (ReflTransGen)

variable {Job : Type}

-- Surroundings that call everything from commands and nothing from subscribers. Callbacks may be called as often as
-- anybody likes once they have been handed out, and everybody may fail.
def commandHost (Job : Type) : Host Job where
  calls call _ h := ∀ expiry, call = .expire expiry → expiry ∈ Past.armed h
  during _ request _ := request.IsCommand
  answers _ _ := True
  drifts s s' := s'.matcher = s.matcher ∧ s.telemetry.Use s'.telemetry

theorem commandHost_reserved : (commandHost Job).Reserved where
  opens := by
    rintro call request ⟨inner, hd⟩
    cases request with
    | execute | settle => trivial
    | _ => exact hd.elim
  drifts := fun _ _ hd => hd

structure Renewed (config : Config) (m : Matcher) : Prop where
  keymap : Keymap.compile (.text config.leader) config.timeout config.bindings = .ok m.keymap
  path   : m.path = []
  typed  : m.typed = []
  timer  : m.timer = none

def Renews (s : Logged) (h : Past Job) : Prop :=
  ∀ config a s' before, h = .returned (.reload config) (.ok a) s' :: before →
    s'.matcher = s.matcher ∧ Renewed config s.matcher ∧ s.telemetry.InUse

def renewing (Job : Type) : Pledge Job where
  inv := Renews
  handOver _ request s h := request.IsShown → Renews s h

theorem renews_asked (request : Request Job) (s : Logged) (h : Past Job) : Renews s (.asked request s :: h) := by
  rintro _ _ _ _ ⟨⟩

section

variable {c : Call} {config : Config} {s : Logged} {h : Past Job}

theorem renewing_discreet : (renewing Job).Discreet := fun _ _ _ _ hn hs => absurd hs hn

theorem ensures_reset_cleared : Ensures (commandHost Job) (renewing Job) c reset
    (fun outcome s' _ => outcome = .ok () → s'.matcher.typed = [] ∧ s'.matcher.timer = none) s h := by
  have reserved : (commandHost Job).Reserved := commandHost_reserved
  refine ensures_get_bind.mpr (ensures_bind.mpr (ensures_clear reserved renewing_discreet ?_ (by rintro _ _ _ _ _ _ ⟨⟩)))
  intro t h' _ _
  refine ensures_ite.mpr ?_
  split
  case isFalse => exact fun _ => ⟨rfl, rfl⟩
  case isTrue =>
    have closed : ¬(commandHost Job).Opens c (.publish .reset) := fun ⟨_, hd⟩ => hd
    exact ensures_closed reserved (by simp) closed (fun _ => renews_asked _ _ _) fun _ _ _ _ _ => ⟨rfl, rfl⟩

theorem ensures_reload_renewed : Ensures (commandHost Job) (renewing Job) c (reload config)
    (fun outcome s' _ => outcome = .ok () → Renewed config s'.matcher ∧ s'.telemetry.InUse) s h := by
  refine ensures_bind.mpr ((ensures_compileTraced _ _ _).mono ?_)
  rintro outcome s₁ h₁ ⟨-, -, -, compiled⟩
  cases outcome with
  | error f => rintro ⟨⟩
  | ok keymap =>
    refine ensures_bind.mpr (ensures_reset_cleared.mono ?_)
    rintro (f | _) s₂ h₂ cleared
    case error => rintro ⟨⟩
    case ok =>
      obtain ⟨typed, timer⟩ := cleared rfl
      refine ensures_bind.mpr (ensures_modify.mpr (then_ok.mpr (ensures_performed fun outcome t hp _ => ?_)))
      rintro rfl
      exact ⟨⟨(compiled keymap rfl).left, rfl, typed, timer⟩, Telemetry.inUse_of_record hp⟩

end

theorem renewing_kept : (renewing Job).Kept operate (commandHost Job) where
  meets := by
    intro call s h _ _
    have other : (∀ config, call ≠ .reload config) → (operate call s).Meets (commandHost Job) (renewing Job) call
        (fun outcome s h => Renews s (.returned call outcome s :: h)) (.called call s :: h) := by
      intro hn
      refine Run.meets_of_forall (fun request s h _ => renews_asked request s h) (fun outcome s h => ?_) _ _
      rintro config _ _ _ ⟨⟩
      exact absurd rfl (hn config)
    cases call with
    | reload config =>
      refine ensures_bind.mpr (ensures_reload_renewed.mono fun outcome s' h' renewed => ?_)
      cases outcome with
      | error f => rintro _ _ _ _ ⟨⟩
      | ok _ => rintro _ _ _ _ ⟨⟩; exact ⟨rfl, renewed rfl⟩
    | _ => exact other (by simp)
  opens := fun _ _ _ _ ho hh => hh (commandHost_reserved.opens _ _ ho)
  drifts := by
    rintro s ⟨m, t⟩ h ⟨rfl, use⟩ renews config a s' before he
    obtain ⟨same, renewed, used⟩ := renews config a s' before he
    exact ⟨same, renewed, use.advances.inUse used⟩

-- The calls that have to do with the time before: callbacks that had been handed out by then, and of the reports that
-- awaited work has ended those that are marked to be of work begun by then.
def OfBefore (h₀ : Past Job) (earlier : Past Job → Prop) (c : Call) (h : Past Job) : Prop :=
  (∃ expiry ∈ Past.armed h₀, c = .expire expiry) ∨ ∃ command outcome, c = .settled command outcome ∧ earlier h

theorem respects_commandHost (calls : Call → Past Job → Prop) (d : Int) :
    Machine.Respects operate (likeness Job Telemetry.BothActive d) (reporting calls) (commandHost Job)
      (commandHost Job) where
  runs := fun _ _ _ _ hc hs => alike_operate Telemetry.bothActive_concord hc hs
  answers := by
    intro request request' reply requests given
    cases requests with
    | same => exact ⟨reply, HEq.rfl, given⟩
    | arm => exact ⟨reply, HEq.rfl, given⟩
  opens := by
    intro _ _ request request' _ _ requests open'
    cases requests with
    | same => exact open'
    | arm => exact open'.elim
  drifts := by
    rintro s ⟨m, t⟩ s' ⟨like, active, active'⟩ ⟨rfl, use⟩
    exact ⟨like, use.advances.active active, active'⟩
  changes := by
    rintro s ⟨m, t⟩ s' ⟨like, active, active'⟩ ⟨rfl, ha⟩
    exact ⟨like, ha.active active, active'⟩

theorem calls_commandHost {d : Int} {M M' : Working Job} {h₀ : Past Job}
    (armed : ∀ e ∈ Past.armed M.history, e ∈ Past.armed h₀ ∨ ∃ e' ∈ Past.armed M'.history, e.Like d e') (c : Call)
    (made : (commandHost Job).calls c M.state M.history) (new : ∀ e ∈ Past.armed h₀, c ≠ .expire e) :
    ∃ c', c.Like d c' ∧ (commandHost Job).calls c' M'.state M'.history := by
  cases c with
  | expire expiry =>
    obtain he | ⟨e', he, like⟩ := armed expiry (made expiry rfl)
    · exact absurd rfl (new expiry he)
    · exact ⟨.expire e', .expire like, by rintro _ ⟨⟩; exact he⟩
  | _ => exact ⟨_, .same _ (by simp), by rintro _ ⟨⟩⟩

section

variable {env : Environment} {N : Working Job} {config : Config} {a : Option Bool} {s s' : Logged} {h : Past Job}

theorem opens_of_reloaded (reaches : Machine.Reaches operate (commandHost Job) (fresh Job env) N)
    (returned : N.history = .returned (.reload config) (.ok a) s :: h) :
    ∀ frame ∈ N.frames, (commandHost Job).Opens frame.call frame.request := by
  refine (reaches.opens rfl).right ?_
  rw [returned]
  rintro _ _ _ ⟨⟩

theorem renewed_of_returned (reaches : Machine.Reaches operate (commandHost Job) (fresh Job env) N)
    (returned : N.history = .returned (.reload config) (.ok a) s :: h) :
    s.matcher = N.state.matcher ∧ Renewed config N.state.matcher ∧ N.state.telemetry.active.isSome ∧
      ∀ e ∈ Past.armed N.history, e.generation ≤ N.state.matcher.generation := by
  have opens : Machine.Open (commandHost Job) N :=
    fun frame hf => opens_of_reloaded reaches returned frame (List.mem_of_mem_head? hf)
  have renews := (reaches.sound renewing_kept (.start (by rintro _ _ _ _ ⟨⟩))).inv_of_open opens
  have timing := reaches.sound (timing_upkeep commandHost_reserved).kept (.start ⟨timed_fresh env, .start env⟩)
  obtain ⟨timed, lit⟩ := timing.inv_of_open opens
  obtain ⟨same, renewed, used⟩ := renews config a s h returned
  exact ⟨same, renewed, lit.coherent.active used, Timed.armed_le timed⟩

theorem like_of_reloaded (reaches : Machine.Reaches operate (commandHost Job) (fresh Job env) N)
    (returned : N.history = .returned (.reload config) (.ok a) s :: h) (made : Made Job config s') :
    ∃ d, (likeness Job Telemetry.BothActive d).state N.state s' := by
  obtain ⟨-, renewed, active, -⟩ := renewed_of_returned reaches returned
  obtain ⟨keymap, compiles, hm⟩ := made.compiles
  have unheld : s'.matcher.timer = none := by simpa [hasTimer] using hm.timer
  have same : N.state.matcher.keymap = keymap := Except.ok.inj (renewed.keymap.symm.trans compiles)
  refine ⟨N.state.matcher.generation - s'.matcher.generation, ⟨?_, ?_, ?_, ?_, by omega⟩, active, hm.active⟩
  · rw [same, hm.keymap]
  · rw [renewed.path, hm.path]
  · rw [renewed.typed]; simpa using hm.typed.symm
  · rw [renewed.timer, unheld]

-- From the time before, nothing is left to come but reports.
theorem spent_of_reloaded (reaches : Machine.Reaches operate (commandHost Job) (fresh Job env) N)
    (returned : N.history = .returned (.reload config) (.ok a) s :: h) (calls : Call → Past Job → Prop) :
    Machine.Free (commandHost Job) N.frames ∧ ∀ frame ∈ N.frames, frame.Spent (reporting calls) := by
  have opens := opens_of_reloaded reaches returned
  have each : ∀ c s, (operate c s : Run (surroundings Job) Logged (Option Bool)).Each (Trails calls) := trailing_operate
  have trails := reaches.each each rfl
  refine ⟨fun frame hf c => ?_, fun frame hf => (trails frame hf).left ?_⟩
  case refine_1 => exact (opens frame (List.mem_of_mem_head? hf)).elim fun _ hd => hd
  case refine_2 => exact .inl ((opens frame hf).elim fun _ hd => hd)

theorem inert_of_reloaded (reaches : Machine.Reaches operate (commandHost Job) (fresh Job env) N)
    (returned : N.history = .returned (.reload config) (.ok a) s :: h) {M : Working Job}
    (further : Machine.Reaches operate (commandHost Job) N M) (opens : Machine.Open (commandHost Job) M) :
    ∀ expiry ∈ Past.armed N.history, Inert Job expiry M.state := by
  have reserved : (commandHost Job).Reserved := commandHost_reserved
  have whole : Machine.Reaches operate (commandHost Job) (fresh Job env) M := reaches.trans further
  have sound := whole.sound (outliving_upkeep reserved).kept (.start ⟨.start, .start env⟩)
  have outlives : Outliving M.state.matcher M.history := (sound.inv_of_open opens).left
  have outlived : Outlived s.matcher M.state.matcher := outlives _ _ _ _ (returned ▸ further.history_suffix)
  obtain ⟨same, renewed, -, past⟩ := renewed_of_returned reaches returned
  rw [same] at outlived
  exact fun expiry he => inert_of_not (outlived.not_due renewed.timer (past expiry he))

theorem still_of_before (reaches : Machine.Reaches operate (commandHost Job) (fresh Job env) N)
    (returned : N.history = .returned (.reload config) (.ok a) s :: h) (earlier : Past Job → Prop) {M : Working Job}
    (further : Machine.Reaches operate (commandHost Job) N M) (opens : Machine.Open (commandHost Job) M) {c : Call}
    (before : OfBefore N.history earlier c M.history) :
    (operate c M.state).Still (reporting (OfBefore N.history earlier)) M.state := by
  obtain ⟨expiry, he, rfl⟩ | ⟨command, outcome, rfl, -⟩ := before
  case inl =>
    rw [inert_of_reloaded reaches returned further opens expiry he]
    exact .finished ⟨rfl, .refl _⟩
  case inr => exact reports_settled command outcome M.state

-- A matcher that has just taken a configuration goes on as a new one with this configuration, whatever is called and
-- answered. Only reports may come from the time before, and callbacks of that time are inert. Whatever the new one goes
-- through, the other can go through as well.
theorem reload_fresh_start (reaches : Machine.Reaches operate (commandHost Job) (fresh Job env) N)
    (returned : N.history = .returned (.reload config) (.ok a) s :: h) (made : Made Job config s')
    (earlier : Past Job → Prop) :
    ∃ d, (∀ M, Machine.Reaches operate (commandHost Job) N M → ∃ M' shared,
        Machine.Reaches operate (commandHost Job) ⟨s', [], []⟩ M' ∧
        Alongside (likeness Job Telemetry.BothActive d) (reporting (OfBefore N.history earlier))
          (N.frames.map fun _ => false) N.history [] shared M.history M'.history ∧
        Like d M.state.matcher M'.state.matcher ∧
        (Machine.Open (commandHost Job) M → ∀ expiry ∈ Past.armed N.history, Inert Job expiry M.state)) ∧
      (∀ M', Machine.Reaches operate (commandHost Job) ⟨s', [], []⟩ M' → ∃ M later,
        Machine.Reaches operate (commandHost Job) N M ∧ M.history = later ++ N.history ∧
        M'.history.Forall₂ (Sight.Alike (likeness Job Telemetry.BothActive (-d))) later ∧
        Like d M.state.matcher M'.state.matcher) := by
  obtain ⟨d, like, active, active'⟩ := like_of_reloaded reaches returned made
  obtain ⟨free, spent⟩ := spent_of_reloaded reaches returned (OfBefore N.history earlier)
  refine ⟨d, fun M further => ?_, fun M' reaches' => ?_⟩
  case refine_1 =>
    have start : Machine.InStep (likeness Job Telemetry.BothActive d) (reporting (OfBefore N.history earlier))
        (commandHost Job) [] (N.frames.map fun _ => false) N.history [] (N.frames.map fun _ => false) N ⟨s', [], []⟩ :=
      ⟨⟨like, active, active'⟩, .spent spent, .start⟩
    obtain ⟨shared, M', reaches', inStep⟩ := further.follow (respects_commandHost _ d) Machine.free_nil start
      (fun _ _ _ _ inStep c called new =>
        calls_commandHost (armed_alongside reporting_arms inStep.histories) c called fun e he hc => new (.inl ⟨e, he, hc⟩))
      fun _ further c open' _ before =>
        still_of_before reaches returned earlier further (fun frame hf => ⟨c, open' frame hf⟩) before
    exact ⟨M', shared, reaches', inStep.histories, inStep.states.left, inert_of_reloaded reaches returned further⟩
  case refine_2 =>
    -- The new matcher has nothing from before, so nothing is excepted this way round.
    let never : Call → Past Job → Prop := fun _ _ => False
    have start : Machine.InStep (likeness Job Telemetry.BothActive (-d)) (reporting never) (commandHost Job) N.frames []
        [] N.history [] ⟨s', [], []⟩ N :=
      ⟨⟨like.symm, active', active⟩, .base, .start⟩
    obtain ⟨shared, M, further, inStep⟩ := reaches'.follow (respects_commandHost never (-d)) free start
      (fun _ _ _ _ inStep c called _ =>
        calls_commandHost (armed_alongside reporting_arms inStep.histories) c called (by simp [Past.armed]))
      fun _ _ _ _ _ before => before.elim
    obtain ⟨-, later, later', hl, hl', alike⟩ := inStep.histories.forall₂ (fun _ _ => id) (by simp)
    obtain rfl : later = M'.history := by simpa using hl.symm
    exact ⟨M, later', further, hl', alike, by simpa using inStep.states.left.symm⟩

end

def outdated : Working Unit := .serve operate calm replaced (.expire ⟨3, .abandon⟩)

def resumed : Working Unit := .serve operate calm outdated (.press ⟨"x", {}, none⟩)

theorem reaches_replaced_resumed : Machine.Reaches operate (commandHost Unit) (fresh Unit {}) replaced ∧
    Machine.Reaches operate (commandHost Unit) replaced resumed := by
  have given : ∀ request, (commandHost Unit).answers request (calm request) := fun _ => trivial
  obtain ⟨reaches, rest⟩ : Machine.Reaches operate (commandHost Unit) (fresh Unit {}) replaced ∧ replaced.Resting :=
    reaches_calmly given (resting_fresh _) (by simp [commandHost])
  have armed : (⟨3, .abandon⟩ : Expiry) ∈ Past.armed replaced.history := by decide +kernel
  have fired : Machine.Reaches operate (commandHost Unit) replaced outdated :=
    Machine.Reaches.serve given .refl rest (by rintro _ ⟨⟩; exact armed)
  exact ⟨reaches, Machine.Reaches.serve given fired (Machine.resting_serve _ _ _) (by rintro _ ⟨⟩)⟩

theorem newer_compiles : (Keymap.compile (.text newer.leader) newer.timeout newer.bindings).toOption.isSome := by
  decide +kernel

theorem made_newer : ∃ s, Made Unit newer s := by
  have compiles := newer_compiles
  cases hk : Keymap.compile (.text newer.leader) newer.timeout newer.bindings with
  | error fault => simp [hk, Except.toOption] at compiles
  | ok keymap =>
    have able : ({} : Telemetry).Able := .inr ⟨[], by decide +kernel⟩
    exact made_of_compile hk .refl able (by decide +kernel) (by decide +kernel)

theorem resumed_executed : Past.executed resumed.history = ["new"] := by decide +kernel

theorem reload_fresh_start_replaced : ∃ s' d M' shared, Made Unit newer s' ∧
    Machine.Reaches operate (commandHost Unit) ⟨s', [], []⟩ M' ∧
    Alongside (likeness Unit Telemetry.BothActive d) (reporting (OfBefore replaced.history fun _ => False))
      (replaced.frames.map fun _ => false) replaced.history [] shared resumed.history M'.history ∧
    Like d resumed.state.matcher M'.state.matcher ∧ Past.executed resumed.history = ["new"] := by
  obtain ⟨reaches, further⟩ := reaches_replaced_resumed
  obtain ⟨s', made⟩ := made_newer
  obtain ⟨⟨config, a, s, h⟩, ht, he⟩ := Option.map_eq_some_iff.mp replaced_taken
  simp only [Prod.mk.injEq] at he
  obtain ⟨rfl, rfl, -⟩ := he
  obtain ⟨d, forth, -⟩ := reload_fresh_start reaches (eq_of_taken? ht) made fun _ => False
  obtain ⟨M', shared, reaches', along, like, -⟩ := forth resumed further
  exact ⟨s', d, M', shared, made, reaches', along, like, resumed_executed⟩

end Keychord.Matcher
