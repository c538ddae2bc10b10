import Keychord.Proofs.Keymap.Compiled
import Keychord.Proofs.Matcher.Sequence
import Keychord.Proofs.Matcher.StaleTimers

namespace Keychord.Matcher

variable {Job : Type}

namespace Past

def ended : Past Job → List (Nat × Press)
  | [] => []
  | .asked (.publish (.dispatch _ _)) _ :: before => sequence before
  | _ :: h => ended h

def spent : Past Job → List Nat
  | [] => []
  | .asked (.execute _) _ :: h => (ended h).map Prod.fst ++ spent h
  | _ :: h => spent h

variable {s : Logged} {h h' : Past Job}

theorem spent_sublist (sight : Sight (surroundings Job) Logged Call (Option Bool)) (h : Past Job) :
    (spent h).Sublist (spent (sight :: h)) := by
  cases sight with
  | asked request s =>
    cases request with
    | execute command => exact List.sublist_append_right _ _
    | _ => exact .refl _
  | _ => exact .refl _

theorem consumed_passing {sight : Sight (surroundings Job) Logged Call (Option Bool)} (hp : Passing s sight) :
    consumed (sight :: h) = consumed h ∧ spent (sight :: h) = spent h := by
  cases sight with
  | asked request s' =>
    cases request with
    | publish | settle => exact ⟨rfl, rfl⟩
    | _ => exact hp.right.elim
  | _ => exact ⟨rfl, rfl⟩

theorem consumed_disarmed (hd : Disarmed s h h') : consumed h' = consumed h ∧ spent h' = spent h := by
  cases hd <;> exact ⟨rfl, rfl⟩

end Past

-- How the numbers of the presses go together: those of the sequence that lasts come after all that count already.
structure Counted (m : Matcher) (h : Past Job) : Prop where
  spent_lt : ∀ n ∈ Past.spent h, n < (Past.consumed h).length
  once     : (Past.spent h).Nodup
  lasts    : m.typed ≠ [] → ((Past.sequence h).map Prod.fst).Nodup ∧
    ∀ n ∈ (Past.sequence h).map Prod.fst, n < (Past.consumed h).length ∧ ∀ k ∈ Past.spent h, k < n

namespace Counted

variable {m m' : Matcher} {s s₁ : Logged} {h h' : Past Job}

theorem congr (c : Counted m h) (he : Past.consumed h' = Past.consumed h ∧ Past.spent h' = Past.spent h)
    (ht : m'.typed = m.typed) (hs : m.typed ≠ [] → Past.sequence h' = Past.sequence h) : Counted m' h' where
  spent_lt := by rw [he.left, he.right]; exact c.spent_lt
  once := by rw [he.right]; exact c.once
  lasts := by
    intro hn
    rw [ht] at hn
    rw [he.left, he.right, hs hn]
    exact c.lasts hn

theorem consumes (c : Counted s.matcher h) (p : Placed s.matcher h) (hd : Disarmed s h h') {press : Press}
    (hs : s₁.matcher = released s.matcher) (m' : Matcher) {reply : Except Failure Unit} :
    Counted m' (.answered (.consume press) reply :: .asked (.consume press) s₁ :: h') := by
  obtain ⟨hc, hp⟩ := Past.consumed_disarmed hd
  have hlen : (Past.consumed (.answered (.consume press) reply :: .asked (.consume press) s₁ :: h')).length =
      (Past.consumed h).length + 1 := congrArg (·.length + 1) hc
  have hspent : Past.spent (.answered (.consume press) reply :: .asked (.consume press) s₁ :: h') = Past.spent h := hp
  refine ⟨?_, hspent ▸ c.once, fun _ => ?_⟩
  case refine_1 =>
    rw [hlen, hspent]
    exact fun n hn => Nat.lt_succ_of_lt (c.spent_lt n hn)
  case refine_2 =>
    rw [p.sequence_consume hd hs, hlen, hspent, hc]
    by_cases ht : s.matcher.typed = []
    case pos => simpa [ht] using c.spent_lt
    case neg =>
      obtain ⟨hn, hl⟩ := c.lasts ht
      rw [if_neg ht, List.map_append, List.nodup_append]
      refine ⟨⟨hn, by simp, ?_⟩, ?_⟩
      · rintro n hn _ hm rfl
        simp only [List.map_cons, List.map_nil, List.mem_singleton] at hm
        exact Nat.lt_irrefl _ (hm ▸ (hl n hn).left)
      · intro n hn
        obtain hn | hn := List.mem_append.mp hn
        · exact ⟨Nat.lt_succ_of_lt (hl n hn).left, (hl n hn).right⟩
        · obtain rfl : n = (Past.consumed h).length := by simpa using hn
          exact ⟨Nat.lt_succ_self _, c.spent_lt⟩

theorem executes (c : Counted s.matcher h) (hd : Disarmed s h h') (ht : s.matcher.typed ≠ [])
    (hq : Past.sequence h' = Past.sequence h) {m' : Matcher} (hm : m'.typed = []) {command keys : String}
    {s₂ : Logged} {reply : Except Failure Unit} :
    Counted m' (.asked (.execute command) s₂ :: .answered (.publish (.dispatch command keys)) reply ::
      .asked (.publish (.dispatch command keys)) s₁ :: h') := by
  obtain ⟨hc, hp⟩ := Past.consumed_disarmed hd
  obtain ⟨hn, hl⟩ := c.lasts ht
  have hspent : Past.spent (.asked (.execute command) s₂ :: .answered (.publish (.dispatch command keys)) reply ::
      .asked (.publish (.dispatch command keys)) s₁ :: h') = (Past.sequence h).map Prod.fst ++ Past.spent h := by
    rw [← hq, ← hp]
    rfl
  have hcons : Past.consumed (.asked (.execute command) s₂ :: .answered (.publish (.dispatch command keys)) reply ::
      .asked (.publish (.dispatch command keys)) s₁ :: h') = Past.consumed h := hc
  refine ⟨?_, ?_, fun hn => absurd hm hn⟩
  case refine_1 =>
    rw [hspent, hcons]
    intro n hn
    obtain hn | hn := List.mem_append.mp hn
    · exact (hl n hn).left
    · exact c.spent_lt n hn
  case refine_2 =>
    rw [hspent, List.nodup_append]
    refine ⟨hn, c.once, ?_⟩
    rintro n hn k hk rfl
    exact Nat.lt_irrefl _ ((hl n hn).right n hk)

end Counted

def Bound (keymap : Keymap) (command : String) (typed : List Key) : Prop :=
  ∃ source keys, (source, command) ∈ keymap.bindings.entries ∧ Notation.parse keymap.leader source = .ok keys ∧
    typed.map Key.edge = keys.map Key.edge

def Justified (command : String) (s : Logged) (h : Past Job) : Prop :=
  ∃ (typed : List Key) (keys : String) (s₁ : Logged) (before : Past Job),
    h = .answered (.publish (.dispatch command keys)) (.ok ()) :: .asked (.publish (.dispatch command keys)) s₁ ::
      before ∧
    (Past.sequence before).map (·.2.toKey?) = typed.map some ∧ Bound s.matcher.keymap command typed ∧
    keys = String.join (typed.map Notation.writeKey)

structure Straight (m : Matcher) (h : Past Job) : Prop where
  placed   : Placed m h
  timed    : Timed m h
  counted  : Counted m h
  compiled : ∃ bindings, m.keymap.Compiled bindings

structure Aimed (m : Matcher) (h : Past Job) : Prop extends Straight m h where
  aimed : m.hasTimer → m.typed ≠ [] ∧ ∃ e ∈ (Past.armed h).head?, ∃ node, m.keymap.root.find? m.path = some node ∧
    e.action = node.command.elim .abandon .dispatch

def Ripe (command : String) (m : Matcher) : Prop :=
  m.typed ≠ [] ∧ ∃ node, m.keymap.root.find? m.path = some node ∧ node.command = some command

def justice (Job : Type) : Pledge Job where
  inv s h := Aimed s.matcher h
  handOver _ request s h := request.IsShown → Aimed s.matcher h ∧
    ∀ command earlier, request = .execute command → h = .asked request s :: earlier → Justified command s earlier

theorem Straight.unaimed {m : Matcher} {h : Past Job} (a : Straight m h) (ht : m.timer = none) : Aimed m h :=
  ⟨a, fun hm => by simp [hasTimer, ht] at hm⟩

section

variable {s s₁ : Logged} {h h' : Past Job}

theorem Straight.disarmed (a : Straight s.matcher h) (hd : Disarmed s h h') : Straight (released s.matcher) h' where
  placed := a.placed.disarmed hd
  timed := (a.timed.next.disarmed hd).toTimed
  counted := a.counted.congr (Past.consumed_disarmed hd) rfl (a.placed.sequence_disarmed hd)
  compiled := a.compiled

theorem Straight.clears (a : Straight s.matcher h) (hd : Disarmed s h h') : Aimed (cleared s.matcher) h' := by
  refine Straight.unaimed ⟨.start rfl rfl, (a.timed.next.disarmed hd).toTimed.congr rfl rfl rfl rfl rfl, ?_, a.compiled⟩ rfl
  exact ⟨(a.disarmed hd).counted.spent_lt, (a.disarmed hd).counted.once, fun ht => absurd rfl ht⟩

theorem Aimed.passes (a : Aimed s.matcher h) {sight : Sight (surroundings Job) Logged Call (Option Bool)}
    (hp : Passing s sight) : Aimed s.matcher (sight :: h) where
  placed := a.placed.passes hp
  timed := a.timed.passes hp
  counted := a.counted.congr (Past.consumed_passing hp) rfl (a.placed.sequence_passes hp)
  compiled := a.compiled
  aimed := by
    have he : Past.armed (sight :: h) = Past.armed h := by
      cases sight with
      | asked request s' => exact Past.armed_asked (by rintro delay expiry rfl; exact hp.right)
      | _ => rfl
    rw [he]
    exact a.aimed

end

-- Surroundings that call everything from commands and nothing from subscribers, and callbacks only once they have been
-- handed out. All but the host of the presses may fail.
structure Host.Attentive (H : Host Job) : Prop extends H.Reserved where
  consumes : ∀ press f, ¬H.answers (.consume press) (.error f)
  quiet    : ∀ call event, ¬H.Opens call (.publish event)
  expires  : ∀ expiry s h, H.calls (.expire expiry) s h → expiry ∈ Past.armed h

theorem justice_upkeep {H : Host Job} (attentive : H.Attentive) :
    Upkeep H (justice Job) (fun s h => Straight s.matcher h) (fun command s _ => Ripe command s.matcher) where
  reserved := attentive.toReserved
  discreet := fun _ _ _ _ hn hs => absurd hs hn
  hands := by
    intro call request s h ht a _
    exact ⟨a, by rintro command _ rfl; exact ht.elim⟩
  opens := fun ho hh => (hh (attentive.opens _ _ ho)).left
  drift := fun a _ => a
  passes := fun a hp => a.passes hp
  loosen := fun a => a.toStraight
  slack := fun a _ => a
  stuck := fun a hd _ => (a.disarmed hd).unaimed rfl
  clears := fun a hd => a.clears hd
  consumes := by
    intro s s₁ h h' press key node a hd _ hk hn hs _
    exact ⟨a.placed.consumes hd hk hn hs, (a.timed.next.disarmed hd).toTimed.congr rfl rfl rfl rfl rfl,
      a.counted.consumes a.placed hd hs _, a.compiled⟩
  misses := fun _ _ _ hf => absurd hf (attentive.consumes _ _)
  arms := by
    rintro s s₁ h h' node delay _ reply a hd ht hn rfl hs _
    refine ⟨⟨a.placed.arms hd hs, (a.timed.next.disarmed hd).arm _ _ _, ?_, a.compiled⟩, ?_⟩
    · obtain ⟨hc, hp⟩ := Past.consumed_disarmed hd
      exact a.counted.congr ⟨hc, hp⟩ rfl (a.placed.sequence_arm hd hs)
    · exact fun _ => ⟨ht, _, rfl, node, hn, rfl⟩
  due := by
    intro s h expiry a _ hd
    refine ⟨a.placed.timesOut, a.timed.expired hd, ?_, a.compiled⟩
    exact a.counted.congr ⟨rfl, rfl⟩ rfl fun ht => a.placed.sequence_called ht (.expire expiry)
  ripens := by
    intro s h expiry command a hc hd hx
    obtain ⟨hh, timer, ht, _⟩ := a.timed.of_due (attentive.expires _ _ _ hc) hd
    obtain ⟨hne, e, he, node, hn, hxe⟩ := a.aimed (by simp [hasTimer, ht])
    obtain rfl : expiry = e := by simpa [hh] using he
    refine ⟨hne, node, hn, ?_⟩
    rw [hx] at hxe
    cases hk : node.command <;> simp_all
  found := fun _ ht hn hc => ⟨ht, _, hn, hc⟩
  executes := by
    rintro call command keys s s₁ s₂ h h' h₂ a ⟨ht, node, hn, hc⟩ hd rfl hs a₂ closed
    obtain ⟨hm, rfl⟩ := closed (attentive.quiet _ _)
    -- Who hears of the dispatch calls nothing, so the matcher is still cleared when the command is carried out.
    have hm : s₂.matcher = cleared s.matcher := hm.trans hs
    obtain ⟨bindings, compiled⟩ := a.compiled
    have aimed : Aimed s₂.matcher (.asked (.execute command) s₂ ::
        .answered (.publish (.dispatch command s.matcher.pendingDisplay)) (.ok ()) ::
          .asked (.publish (.dispatch command s.matcher.pendingDisplay)) s₁ :: h') := by
      refine Straight.unaimed ⟨.start ?_ ?_, a₂.timed.congr rfl rfl rfl rfl rfl,
        a.counted.executes hd ht (a.placed.sequence_disarmed hd ht) ?_, a₂.compiled⟩ ?_ <;> rw [hm] <;> rfl
    refine ⟨fun _ => ⟨aimed, ?_⟩, aimed⟩
    rintro _ _ ⟨⟩ ⟨⟩
    refine ⟨s.matcher.typed, _, s₁, h', rfl, ?_, ?_, rfl⟩
    · rw [a.placed.sequence_disarmed hd ht, a.placed.keys ht]
    · rw [hm]
      obtain ⟨source, keys, he, hp, hk⟩ := compiled.binding_of_command hn hc
      exact ⟨source, keys, he, hp, a.placed.path.symm.trans hk.symm⟩
  unrecorded := fun a ht _ => a.unaimed ht
  reloads := by
    intro s h keymap config a hk hr
    obtain ⟨ht, hn⟩ := hr (attentive.quiet _ _)
    obtain ⟨-, -, -, compiled⟩ := Keymap.compile_ok hk
    refine Straight.unaimed ⟨.start rfl ht, a.timed.congr rfl rfl rfl rfl rfl, ?_, compiled⟩ hn
    exact ⟨a.counted.spent_lt, a.counted.once, fun hne => absurd ht hne⟩

-- Surroundings that call everything from commands and nothing from subscribers. Callbacks may be called as often as
-- anybody likes, and all but the host of the presses may fail.
def executorHost (Job : Type) : Host Job where
  calls call _ h := ∀ expiry, call = .expire expiry → expiry ∈ Past.armed h
  during _ request _ :=
    match request with
    | .execute _ | .settle .. => True
    | _ => False
  answers request reply := (∃ press, request = .consume press) → ∃ answer, reply = .ok answer
  drifts s s' := s'.matcher = s.matcher ∧ s.telemetry.Use s'.telemetry

theorem executorHost_attentive : (executorHost Job).Attentive where
  opens := by
    rintro call request ⟨inner, hd⟩
    cases request with
    | execute | settle => trivial
    | _ => exact hd.elim
  drifts := fun _ _ hd => hd
  consumes := by rintro press f hf; obtain ⟨_, ⟨⟩⟩ := hf ⟨press, rfl⟩
  quiet := by rintro call event ⟨_, ⟨⟩⟩
  expires := fun expiry _ _ hc => hc expiry rfl

theorem aimed_fresh (env : Environment) :
    Aimed (fresh Job env).state.matcher (fresh Job env).history :=
  Straight.unaimed ⟨.start rfl rfl, timed_fresh env, ⟨nofun, .nil, fun ht => absurd rfl ht⟩, [], Keymap.compiled_empty⟩
    rfl

-- Whenever a command is carried out, the presses of the sequence that this ends are those of a binding to it, and no
-- press ever counts for two commands.
theorem commands_justified {env : Environment} {M : Working Job}
    (reaches : Machine.Reaches operate (executorHost Job) (fresh Job env) M) :
    (∀ command s h, M.history = .asked (.execute command) s :: h → Justified command s h) ∧
      (Past.spent M.history).Nodup := by
  have attentive : (executorHost Job).Attentive := executorHost_attentive
  have kept := (justice_upkeep attentive).kept
  have sound := reaches.sound kept (.start ⟨aimed_fresh env, .start env⟩)
  refine ⟨fun command s h hh => ?_, ?_⟩
  case refine_1 =>
    obtain ⟨c, ho, -⟩ := sound.promised _ _ _ hh
    exact (ho trivial).right command h rfl hh
  case refine_2 =>
    have total : ∀ request, ∃ reply, (executorHost Job).answers request reply := by
      intro request
      cases request with
      | consume press => exact ⟨.ok (), fun _ => ⟨(), rfl⟩⟩
      | _ => exact ⟨.error .cancelled, by rintro ⟨_, ⟨⟩⟩⟩
    obtain ⟨M', further, ho⟩ := sound.reaches_open operate total
    have a : Aimed M'.state.matcher M'.history := ((further.sound kept sound).inv_of_open ho).left
    exact a.counted.once.sublist (sublist_of_suffix Past.spent_sublist further.history_suffix)

def executing? : Past Job → Option String
  | .asked (.execute command) _ :: _ => some command
  | _ => none

theorem eq_of_executing? {command : String} {h : Past Job} (he : executing? h = some command) :
    ∃ s earlier, h = .asked (.execute command) s :: earlier := by
  unfold executing? at he
  split at he
  case h_1 s earlier => cases he; exact ⟨s, earlier, rfl⟩
  case h_2 => cases he

def completed : Working Unit :=
  .answer calm (.answer calm (.answer calm (.enterCall operate begun (.press ⟨"b", {}, none⟩))))

theorem completed_executing : executing? completed.history = some "open" := by decide +kernel

theorem reaches_completed : Machine.Reaches operate (executorHost Unit) (fresh Unit {}) completed := by
  have given : ∀ request, (executorHost Unit).answers request (calm request) := by
    rintro request ⟨press, rfl⟩
    exact ⟨(), rfl⟩
  obtain ⟨reaches, rest⟩ : Machine.Reaches operate (executorHost Unit) (fresh Unit {}) begun ∧ begun.Resting :=
    reaches_calmly given (resting_fresh _) (by simp [executorHost])
  exact .answer given (.answer given (.answer given (reaches.enterCall rest (by simp [executorHost]))))

theorem commands_justified_completed : ∃ s h, completed.history = .asked (.execute "open") s :: h ∧
    Justified "open" s h := by
  obtain ⟨s, h, hh⟩ := eq_of_executing? completed_executing
  exact ⟨s, h, hh, (commands_justified reaches_completed).left "open" s h hh⟩

end Keychord.Matcher
