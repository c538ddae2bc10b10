import Keychord.Proofs.Matcher.Upkeep

namespace Keychord.Matcher

variable {Job : Type}

def Inert (Job : Type) (expiry : Expiry) (s : Logged) : Prop :=
  @operate Job (.expire expiry) s = .finished (.ok none) s

namespace Past

-- The callbacks that were called and were not inert then, the latest first.
open Classical in
noncomputable def acted : Past Job → List Expiry
  | [] => []
  | .called (.expire expiry) s :: h => if Inert Job expiry s then acted h else expiry :: acted h
  | _ :: h => acted h

def latest? : Past Job → Option (Expiry × Nat)
  | [] => none
  | .asked (.arm _ _) _ :: _ => none
  | .answered (.arm _ expiry) (.ok timer) :: _ => some (expiry, timer)
  | _ :: h => latest? h

variable {h : Past Job} {s : Logged}

theorem armed_asked {request : Request Job} (hr : ∀ delay expiry, request ≠ .arm delay expiry) :
    armed (.asked request s :: h) = armed h := by
  cases request with
  | arm delay expiry => exact absurd rfl (hr delay expiry)
  | _ => rfl

theorem armed_sublist (sight : Sight (surroundings Job) Logged Call (Option Bool)) (h : Past Job) :
    (armed h).Sublist (armed (sight :: h)) := by
  cases sight with
  | asked request s =>
    cases request with
    | arm delay expiry => exact List.sublist_cons_self _ _
    | _ => exact .refl _
  | _ => exact .refl _

theorem acted_inert {expiry : Expiry} (hi : Inert Job expiry s) : acted (.called (.expire expiry) s :: h) = acted h :=
  if_pos hi

theorem acted_expire (expiry : Expiry) :
    acted (.called (.expire expiry) s :: h) = acted h ∨
      acted (.called (.expire expiry) s :: h) = expiry :: acted h := by
  by_cases hi : Inert Job expiry s
  · exact .inl (if_pos hi)
  · exact .inr (if_neg hi)

theorem acted_sublist (sight : Sight (surroundings Job) Logged Call (Option Bool)) (h : Past Job) :
    (acted h).Sublist (acted (sight :: h)) := by
  cases sight with
  | called c s =>
    cases c with
    | expire expiry =>
      obtain he | he := acted_expire (h := h) (s := s) expiry
      · exact he ▸ List.Sublist.refl _
      · rw [he]; exact List.sublist_cons_self _ _
    | _ => exact .refl _
  | _ => exact .refl _

theorem latest_asked {request : Request Job} (hr : ∀ delay expiry, request ≠ .arm delay expiry) :
    latest? (.asked request s :: h) = latest? h := by
  cases request with
  | arm delay expiry => exact absurd rfl (hr delay expiry)
  | _ => rfl

theorem latest_answered {request : Request Job} (reply : Except Failure ((surroundings Job).Answer request))
    (hr : ∀ delay expiry, request ≠ .arm delay expiry) :
    latest? (.answered request reply :: h) = latest? h := by
  cases request with
  | arm delay expiry => exact absurd rfl (hr delay expiry)
  | _ => cases reply <;> rfl

end Past

def Holds (expiry : Expiry) (m : Matcher) (h : Past Job) : Prop :=
  ∃ timer, m.timer = some timer ∧ Past.latest? h = some (expiry, timer)

structure Timed (m : Matcher) (h : Past Job) : Prop where
  armed_le : ∀ e ∈ Past.armed h, e.generation ≤ m.generation
  acted_le : ∀ e ∈ Past.acted h, e.generation ≤ m.generation
  sorted   : (Past.armed h).Pairwise fun later earlier => earlier.generation < later.generation
  held     : ∀ timer, m.timer = some timer → ∃ e ∈ (Past.armed h).head?,
    e.generation = m.generation ∧ Past.latest? h = some (e, timer)
  spent    : m.hasTimer → ∀ e ∈ Past.acted h, e.generation < m.generation
  once     : (Past.acted h).Nodup

structure Overdue (m : Matcher) (h : Past Job) : Prop extends Timed m h where
  idle     : m.timer = none
  armed_lt : ∀ e ∈ Past.armed h, e.generation < m.generation
  acted_lt : ∀ e ∈ Past.acted h, e.generation < m.generation

def timing (Job : Type) : Pledge Job where
  inv s h := Timed s.matcher h
  handOver _ request s h := request.IsShown → Timed s.matcher h

section

variable {m m' : Matcher} {h h' : Past Job}

theorem Timed.congr (t : Timed m h) (hg : m'.generation = m.generation) (ht : m'.timer = m.timer)
    (har : Past.armed h' = Past.armed h) (hac : Past.acted h' = Past.acted h)
    (hl : Past.latest? h' = Past.latest? h) : Timed m' h' := by
  have hh : m'.hasTimer = m.hasTimer := by rw [hasTimer, ht, hasTimer]
  constructor <;> simp only [har, hac, hl, hg, ht, hh]
  exacts [t.armed_le, t.acted_le, t.sorted, t.held, t.spent, t.once]

theorem Overdue.congr (t : Overdue m h) (hg : m'.generation = m.generation) (ht : m'.timer = m.timer)
    (har : Past.armed h' = Past.armed h) (hac : Past.acted h' = Past.acted h)
    (hl : Past.latest? h' = Past.latest? h) : Overdue m' h' := by
  refine ⟨t.toTimed.congr hg ht har hac hl, ht.trans t.idle, ?_, ?_⟩
  · rw [har, hg]; exact t.armed_lt
  · rw [hac, hg]; exact t.acted_lt

theorem Timed.next (t : Timed m h) : Overdue (released m) h := by
  have har : ∀ e ∈ Past.armed h, e.generation < (released m).generation :=
    fun e he => Nat.lt_succ_of_le (t.armed_le e he)
  have hac : ∀ e ∈ Past.acted h, e.generation < (released m).generation :=
    fun e he => Nat.lt_succ_of_le (t.acted_le e he)
  exact {
    armed_le := fun e he => Nat.le_of_lt (har e he)
    acted_le := fun e he => Nat.le_of_lt (hac e he)
    sorted := t.sorted
    held := by rintro timer ⟨⟩
    spent := by rintro ⟨⟩
    once := t.once
    idle := rfl
    armed_lt := har
    acted_lt := hac }

theorem Overdue.disarmed {s : Logged} (t : Overdue m h) (hd : Disarmed s h h') : Overdue m h' := by
  cases hd with
  | none => exact t
  | some timer reply =>
    exact t.congr rfl rfl rfl rfl ((Past.latest_answered _ (by simp)).trans (Past.latest_asked (by simp)))

theorem Overdue.arm (t : Overdue m h) {s : Logged} (delay : Int) (action : Action) (reply : Except Failure Nat) :
    Timed { m with timer := reply.toOption } (.answered (.arm delay ⟨m.generation, action⟩) reply ::
      .asked (.arm delay ⟨m.generation, action⟩) s :: h : Past Job) where
  armed_le := List.forall_mem_cons.mpr ⟨Nat.le_refl _, t.armed_le⟩
  acted_le := t.acted_le
  sorted := List.pairwise_cons.mpr ⟨t.armed_lt, t.sorted⟩
  held := by
    intro timer ht
    cases reply with
    | error f => cases ht
    | ok timer' => cases ht; exact ⟨_, rfl, rfl, rfl⟩
  spent := fun _ => t.acted_lt
  once := t.once

-- A callback that finds its generation and a timer is the one that is held, and has not acted before.
theorem Timed.expired {s : Logged} (t : Timed s.matcher h) {expiry : Expiry}
    (hd : Due expiry s.matcher) :
    Timed { s.matcher with timer := none } (.called (.expire expiry) s :: h) := by
  obtain ⟨hg, ht⟩ := hd
  have hn : expiry ∉ Past.acted h := fun he => Nat.ne_of_lt (t.spent ht _ he) hg
  have ha : Past.acted (.called (.expire expiry) s :: h) = Past.acted h ∨
      Past.acted (.called (.expire expiry) s :: h) = expiry :: Past.acted h := Past.acted_expire expiry
  exact {
    armed_le := t.armed_le
    acted_le := by
      obtain ha | ha := ha <;> rw [ha]
      · exact t.acted_le
      · exact List.forall_mem_cons.mpr ⟨Nat.le_of_eq hg, t.acted_le⟩
    sorted := t.sorted
    held := by rintro timer ⟨⟩
    spent := by rintro ⟨⟩
    once := by
      obtain ha | ha := ha <;> rw [ha]
      · exact t.once
      · exact List.nodup_cons.mpr ⟨hn, t.once⟩ }

theorem Timed.armed_nodup (t : Timed m h) : (Past.armed h).Nodup := by
  refine t.sorted.imp fun hlt => ?_
  rintro rfl
  exact Nat.lt_irrefl _ hlt

end

theorem inert_of_not {expiry : Expiry} {s : Logged} (hd : ¬Due expiry s.matcher) : Inert Job expiry s := by
  have hr : (Call.expire expiry).step s.matcher = (pure none : Step Job (Option Bool)) s.matcher :=
    bind_of_finished (expire_of_not hd)
  exact congrArg (Logged.run · s.telemetry) hr

theorem Timed.of_due {m : Matcher} {h : Past Job} (t : Timed m h) {expiry : Expiry} (he : expiry ∈ Past.armed h)
    (hd : Due expiry m) : (Past.armed h).head? = some expiry ∧ Holds expiry m h := by
  obtain ⟨hg, ht⟩ := hd
  obtain ⟨timer, ht⟩ := Option.isSome_iff_exists.mp ht
  obtain ⟨e, hh, hge, hl⟩ := t.held timer ht
  obtain ⟨rest, hr⟩ := List.head?_eq_some_iff.mp hh
  have hs := t.sorted
  rw [hr] at he hs
  obtain rfl | he := List.mem_cons.mp he
  · exact ⟨hh, timer, ht, hl⟩
  · exact absurd (hg.trans hge.symm) (Nat.ne_of_lt ((List.pairwise_cons.mp hs).left _ he))

theorem Timed.inert_of_unheld {s : Logged} {h : Past Job} (t : Timed s.matcher h) {expiry : Expiry}
    (he : expiry ∈ Past.armed h) (hn : ¬Holds expiry s.matcher h) : Inert Job expiry s :=
  inert_of_not fun hd => hn (t.of_due he hd).right

theorem Timed.passes {s : Logged} {h : Past Job} (t : Timed s.matcher h)
    {sight : Sight (surroundings Job) Logged Call (Option Bool)} (hp : Passing s sight) :
    Timed s.matcher (sight :: h) := by
  cases sight with
  | called call s' =>
    obtain ⟨rfl, hd⟩ := hp
    refine t.congr rfl rfl rfl ?_ rfl
    cases call with
    | expire expiry => exact Past.acted_inert (inert_of_not (hd expiry rfl))
    | _ => rfl
  | asked request s' =>
    cases request with
    | publish | settle => exact t.congr rfl rfl rfl rfl rfl
    | _ => exact hp.right.elim
  | answered request reply =>
    cases request with
    | publish | execute | settle => cases reply <;> exact t.congr rfl rfl rfl rfl rfl
    | _ => exact hp.elim
  | returned call outcome s' => exact t.congr rfl rfl rfl rfl rfl

-- Whatever the surroundings do, as long as nobody calls while a timer is set or given up, timers stay in order.
theorem timing_upkeep {H : Host Job} (reserved : H.Reserved) :
    Upkeep H (timing Job) (fun s h => Timed s.matcher h) (fun _ _ _ => True) where
  reserved := reserved
  discreet := fun _ _ _ _ hn hs => absurd hs hn
  hands := fun _ t _ => t
  opens := fun ho hh => hh (reserved.opens _ _ ho)
  drift := fun t _ => t
  passes := fun t hp => t.passes hp
  loosen := id
  slack := fun t _ => t
  stuck := fun t hd _ => (t.next.disarmed hd).toTimed
  clears := fun t hd => (t.next.disarmed hd).toTimed.congr rfl rfl rfl rfl rfl
  consumes := fun t hd _ _ _ _ _ => (t.next.disarmed hd).toTimed.congr rfl rfl rfl rfl rfl
  misses := fun t hd _ _ => (t.next.disarmed hd).toTimed.congr rfl rfl rfl rfl rfl
  arms := by
    rintro s s₁ h h' node delay _ reply t hd _ _ rfl _ _
    exact (t.next.disarmed hd).arm _ _ _
  due := fun t _ hd => t.expired hd
  ripens := fun _ _ _ _ => trivial
  found := fun _ _ _ _ => trivial
  executes := fun _ _ _ _ _ t _ => ⟨fun _ => t.congr rfl rfl rfl rfl rfl, t.congr rfl rfl rfl rfl rfl⟩
  unrecorded := fun t _ _ => t
  reloads := fun t _ _ => t.congr rfl rfl rfl rfl rfl

theorem timed_fresh (env : Environment) : Timed (fresh Job env).state.matcher (fresh Job env).history where
  armed_le := nofun
  acted_le := nofun
  sorted := .nil
  held := by rintro timer ⟨⟩
  spent := nofun
  once := .nil

-- Surroundings of every kind: subscribers and commands call what they like, timers and all others answer what they
-- like, and a callback may be called whenever and as often as anybody likes once it has been handed out.
def anyHost (Job : Type) : Host Job where
  calls call _ h := ∀ expiry, call = .expire expiry → expiry ∈ Past.armed h
  during _ request _ := request.IsShown
  answers _ _ := True
  drifts s s' := s'.matcher = s.matcher ∧ s.telemetry.Use s'.telemetry

theorem anyHost_reserved : (anyHost Job).Reserved where
  opens := fun _ _ ⟨_, hs⟩ => hs
  drifts := fun _ _ hd => hd

variable {env : Environment} {M : Working Job}

-- Wherever control is outside, a callback that the matcher does not hold is inert, and each of them acts at most once.
theorem stale_callbacks_inert (reaches : Machine.Reaches operate (anyHost Job) (fresh Job env) M) :
    ((∀ frame ∈ M.frames.head?, frame.request.IsShown) →
      ∀ expiry ∈ Past.armed M.history, ¬Holds expiry M.state.matcher M.history → Inert Job expiry M.state) ∧
    (Past.armed M.history).Nodup ∧ (Past.acted M.history).Nodup := by
  have reserved : (anyHost Job).Reserved := anyHost_reserved
  have kept := (timing_upkeep reserved).kept
  have sound := reaches.sound kept (.start ⟨timed_fresh env, .start env⟩)
  refine ⟨fun shown expiry he hn => ?_, ?_⟩
  case refine_1 =>
    have t : Timed M.state.matcher M.history := (sound.inv_of_open fun frame hf => ⟨.reset, shown frame hf⟩).left
    exact t.inert_of_unheld he hn
  case refine_2 =>
    obtain ⟨M', further, ho⟩ := sound.reaches_open operate fun _ => ⟨.error .cancelled, trivial⟩
    have t : Timed M'.state.matcher M'.history := ((further.sound kept sound).inv_of_open ho).left
    exact ⟨t.armed_nodup.sublist (sublist_of_suffix Past.armed_sublist further.history_suffix),
      t.once.sublist (sublist_of_suffix Past.acted_sublist further.history_suffix)⟩

def brokenOff : Working Unit := calmly (fresh Unit {}) [.reload chord, .press ⟨"a", {}, none⟩, .reset]

theorem reaches_brokenOff : Machine.Reaches operate (anyHost Unit) (fresh Unit {}) brokenOff ∧ brokenOff.Resting :=
  reaches_calmly (fun _ => trivial) (resting_fresh _) (by simp [anyHost])

theorem brokenOff_armed : Past.armed brokenOff.history = [⟨3, .abandon⟩] := by decide +kernel

theorem brokenOff_timer : brokenOff.state.matcher.timer = none := by decide +kernel

theorem brokenOff_frames : brokenOff.frames.head? = none := congrArg List.head? reaches_brokenOff.right

theorem stale_callbacks_inert_brokenOff : Inert Unit ⟨3, .abandon⟩ brokenOff.state := by
  have hf : ∀ frame ∈ brokenOff.frames.head?, frame.request.IsShown := by
    intro frame hf
    rw [brokenOff_frames] at hf
    cases hf
  have ha : (⟨3, .abandon⟩ : Expiry) ∈ Past.armed brokenOff.history := by
    rw [brokenOff_armed]
    exact List.mem_cons_self
  have hn : ¬Holds ⟨3, .abandon⟩ brokenOff.state.matcher brokenOff.history := by
    rintro ⟨timer, hs, -⟩
    rw [brokenOff_timer] at hs
    cases hs
  exact (stale_callbacks_inert reaches_brokenOff.left).left hf _ ha hn

end Keychord.Matcher
