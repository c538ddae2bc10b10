import Keychord.Proofs.Matcher.Sequence

namespace Keychord.Matcher

variable {Job : Type}

structure Idle (m : Matcher) : Prop where
  name  : m.stateName = "idle"
  keys  : m.pendingKeys = []
  timer : ¬m.hasTimer

structure Pending (m : Matcher) (presses : List Press) : Prop where
  name  : m.stateName = "pending"
  keys  : m.pendingKeys ≠ []
  timer : m.hasTimer
  node  : ∃ (typed : List Key) (node : Keymap.Node), presses.map Press.toKey? = typed.map some ∧
    m.pendingKeys = typed.map Notation.writeKey ∧ m.path = typed.map Key.edge ∧
    m.keymap.root.find? m.path = some node

-- A matcher in its place that holds a timer just while keys are typed. Telemetry is active then, since the presses
-- were followed in spans.
structure Poised (s : Logged) (h : Past Job) : Prop where
  placed : Placed s.matcher h
  timer  : s.matcher.hasTimer ↔ s.matcher.typed ≠ []
  active : s.matcher.typed ≠ [] → s.telemetry.active.isSome

theorem Poised.dichotomy {s : Logged} {h : Past Job} (p : Poised s h) :
    Idle s.matcher ∨ Pending s.matcher ((Past.sequence h).map Prod.snd) := by
  by_cases ht : s.matcher.typed = []
  case pos =>
    refine .inl ⟨?_, ?_, fun hm => p.timer.mp hm ht⟩
    · simp [stateName, p.placed.idle_iff.mpr ht]
    · simp [pendingKeys, ht]
  case neg =>
    obtain ⟨node, hn⟩ := Option.isSome_iff_exists.mp p.placed.node
    refine .inr ⟨?_, ?_, p.timer.mpr ht, s.matcher.typed, node, ?_, rfl, p.placed.path, hn⟩
    · simp [stateName, p.placed.not_idle ht]
    · simpa [pendingKeys] using ht
    · rw [List.map_map]; exact p.placed.keys ht

def poise (Job : Type) : Pledge Job where
  inv := Poised
  handOver _ request s h := request.IsShown → Poised s h

def Unpoised (s : Logged) (h : Past Job) : Prop :=
  Placed s.matcher h ∧ (s.matcher.typed ≠ [] → s.telemetry.active.isSome)

-- Surroundings in which timers and the host of the presses do as they are asked, and nobody calls while a reload
-- gives up a sequence.
structure Host.Obliging (H : Host Job) : Prop extends H.Reserved where
  disarms  : ∀ timer f, ¬H.answers (.disarm timer) (.error f)
  arms     : ∀ delay expiry f, ¬H.answers (.arm delay expiry) (.error f)
  consumes : ∀ press f, ¬H.answers (.consume press) (.error f)
  reloads  : ∀ config, ¬H.Opens (.reload config) (.publish .reset)

theorem record_abandoned_ok {t : Telemetry} (ha : t.active.isSome) (keys : String) :
    (Telemetry.perform (.record "keys.abandoned" "debug" [("keys", .text keys)]) t).1 = .ok () := by
  have texts : ∀ e ∈ [("keys", Value.text keys)], e.2.text?.isSome := by simp
  have level : Telemetry.fieldLevels.contains (Text.lower "debug") := by decide
  obtain ⟨t', h, -⟩ := Telemetry.record_ok ha level texts "keys.abandoned"
  rw [h]

theorem poise_upkeep {H : Host Job} (obliging : H.Obliging) :
    Upkeep H (poise Job) Unpoised (fun _ _ _ => True) where
  reserved := obliging.toReserved
  discreet := fun _ _ _ _ hn hs => absurd hs hn
  hands := fun _ p _ => p
  opens := fun ho hh => hh (obliging.opens _ _ ho)
  drift := fun p ha => ⟨p.placed, p.timer, fun ht => ha.active (p.active ht)⟩
  passes := fun p hp => ⟨p.placed.passes hp, p.timer, p.active⟩
  loosen := fun p => ⟨p.placed, p.active⟩
  slack := fun p ha => ⟨p.left, fun ht => ha.active (p.right ht)⟩
  stuck := fun _ _ hf => absurd hf (obliging.disarms _ _)
  clears := fun _ _ => ⟨.start rfl rfl, by simp [cleared, released, hasTimer], fun ht => absurd rfl ht⟩
  consumes := fun p hd ha hk hn hs _ => ⟨p.left.consumes hd hk hn hs, fun _ => ha⟩
  misses := fun _ _ _ hf => absurd hf (obliging.consumes _ _)
  arms := by
    intro s s₁ h h' node delay expiry reply p hd ht _ _ hs hr
    cases reply with
    | error f => exact absurd hr (obliging.arms _ _ _)
    | ok timer => exact ⟨p.left.arms hd hs, by simpa [hasTimer, released, Except.toOption] using ht, p.right⟩
  due := fun p _ _ => ⟨p.placed.timesOut, p.active⟩
  ripens := fun _ _ _ _ => trivial
  found := fun _ _ _ _ => trivial
  executes := by
    intro call command keys s s₁ s₂ h h' h₂ _ _ _ _ _ p _
    have placed : Placed s₂.matcher (.asked (.execute command) s₂ ::
        .answered (.publish (.dispatch command keys)) (.ok ()) :: h₂) :=
      p.placed.congr rfl rfl rfl fun ht => Past.sequence_asked (by simp) (p.placed.not_idle ht)
    exact ⟨fun _ => ⟨placed, p.timer, p.active⟩, placed, p.timer, p.active⟩
  unrecorded := by
    intro s h f p hn hf
    by_cases ht : s.matcher.typed = []
    case pos => exact ⟨p.left, by simp [hasTimer, hn, ht], p.right⟩
    case neg => rw [record_abandoned_ok (p.right ht)] at hf; cases hf
  reloads := by
    intro s h keymap config _ _ hr
    obtain ⟨ht, hn⟩ := hr (obliging.reloads config)
    exact ⟨.start rfl ht, by simp [hasTimer, hn, ht], fun hne => absurd ht hne⟩

def Call.IsPlain : Call → Prop
  | .press _ | .reset | .close => True
  | _ => False

-- Surroundings that call everything from commands and plain operations from subscribers, except while a reload gives
-- up a sequence. Timers and the host of the presses do as they are asked.
def nestingHost (Job : Type) : Host Job where
  calls _ _ _ := True
  during call request inner :=
    match request with
    | .execute _ | .settle .. => True
    | .publish _ => (∀ config, call ≠ .reload config) ∧ inner.IsPlain
    | _ => False
  answers request reply := request.IsPlain → ∃ answer, reply = .ok answer
  drifts s s' := s'.matcher = s.matcher ∧ s.telemetry.Use s'.telemetry

theorem nestingHost_obliging : (nestingHost Job).Obliging where
  opens := by
    rintro call request ⟨inner, hd⟩
    cases request with
    | publish | execute | settle => trivial
    | _ => exact hd.elim
  drifts := fun _ _ hd => hd
  disarms := by rintro timer f hf; obtain ⟨_, ⟨⟩⟩ := hf trivial
  arms := by rintro delay expiry f hf; obtain ⟨_, ⟨⟩⟩ := hf trivial
  consumes := by rintro press f hf; obtain ⟨_, ⟨⟩⟩ := hf trivial
  reloads := by rintro config ⟨inner, hd, -⟩; exact hd config rfl

theorem poised_fresh (env : Environment) : Poised (fresh Job env).state (fresh Job env).history where
  placed := .start rfl rfl
  timer := by simp [fresh, hasTimer]
  active := fun ht => absurd rfl ht

theorem poised_of_shown {H : Host Job} (obliging : H.Obliging) {M : Working Job}
    (sound : Machine.Sound H (Upkeep.full (poise Job)) M) (shown : ∀ frame ∈ M.frames.head?, frame.request.IsShown) :
    Poised M.state M.history := by
  cases hf : M.frames with
  | nil => exact (sound.resting hf).left
  | cons frame rest =>
    have hm : frame ∈ M.frames.head? := by simp [hf]
    obtain ⟨s, h, ready, meanwhile⟩ := sound.waiting frame hm
    by_cases ho : H.Opens frame.call frame.request
    case pos => exact (meanwhile.opened ho).left
    case neg =>
      obtain ⟨hd, he⟩ := meanwhile.closed ho
      exact he ▸ (poise_upkeep obliging).drifts (ready.handedOver.left (shown frame hm)) hd

-- Wherever control is with subscribers, commands or nobody, a matcher is idle, or pending at the node to which the
-- presses of the sequence lead.
theorem idle_or_pending {env : Environment} {M : Working Job}
    (reaches : Machine.Reaches operate (nestingHost Job) (fresh Job env) M)
    (shown : ∀ frame ∈ M.frames.head?, frame.request.IsShown) :
    Idle M.state.matcher ∨ Pending M.state.matcher ((Past.sequence M.history).map Prod.snd) := by
  have obliging : (nestingHost Job).Obliging := nestingHost_obliging
  have kept := (poise_upkeep obliging).kept
  have sound := reaches.sound kept (.start ⟨poised_fresh env, .start env⟩)
  exact (poised_of_shown obliging sound shown).dichotomy

theorem reaches_begun : Machine.Reaches operate (nestingHost Unit) (fresh Unit {}) begun ∧ begun.Resting := by
  refine reaches_calmly (fun request hp => ?_) (resting_fresh _) (fun _ _ _ _ => trivial)
  cases request with
  | consume | arm | disarm => exact ⟨_, rfl⟩
  | _ => exact hp.elim

theorem begun_name : begun.state.matcher.stateName = "pending" := by decide +kernel

theorem pending_begun : Pending begun.state.matcher ((Past.sequence begun.history).map Prod.snd) := by
  have hf : ∀ frame ∈ begun.frames.head?, frame.request.IsShown := by
    intro frame hf
    rw [show begun.frames = [] from reaches_begun.right] at hf
    cases hf
  refine (idle_or_pending reaches_begun.left hf).resolve_left fun hi => ?_
  have hn := hi.name
  rw [begun_name] at hn
  exact absurd hn (by decide)

end Keychord.Matcher
