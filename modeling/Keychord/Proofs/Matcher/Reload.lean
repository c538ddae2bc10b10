import Keychord.Proofs.Matcher.Dispatch

namespace Keychord.Matcher

variable {Job : Type}

def Past.seen? : Past Job → Option Matcher
  | .called _ s :: _ | .asked _ s :: _ | .returned _ _ s :: _ => some s.matcher
  | _ => none

def Disturbed (h : Past Job) : Prop :=
  ∃ before m, h = .answered (.publish .reset) (.ok ()) :: before ∧ Past.seen? before = some m ∧
    (m.typed ≠ [] ∨ m.timer ≠ none)

structure Reloaded (config : Config) (m : Matcher) (h : Past Job) : Prop where
  keymap  : Keymap.compile (.text config.leader) config.timeout config.bindings = .ok m.keymap
  idle    : m.isIdle
  settled : (m.typed = [] ∧ m.timer = none) ↔ ¬Disturbed h

structure Sighted (s : Logged) (h : Past Job) : Prop where
  seen     : h ≠ [] → Past.seen? h = some s.matcher
  reloaded : ∀ config a s' before, h = .returned (.reload config) (.ok a) s' :: before →
    Reloaded config s'.matcher before

def reloading (Job : Type) : Pledge Job where
  inv := Sighted
  handOver _ request s h := request.IsShown → Sighted s h

theorem sighted_asked (request : Request Job) (s : Logged) (h : Past Job) : Sighted s (.asked request s :: h) :=
  ⟨fun _ => rfl, by rintro _ _ _ _ ⟨⟩⟩

theorem reloading_discreet : (reloading Job).Discreet := fun _ _ _ _ hn hs => absurd hs hn

theorem disturbed_answered {before : Past Job} {m : Matcher} (hm : Past.seen? before = some m) :
    Disturbed (.answered (.publish .reset) (.ok ()) :: before) ↔ m.typed ≠ [] ∨ m.timer ≠ none := by
  constructor
  · rintro ⟨_, _, ⟨⟩, hm', hd⟩
    obtain rfl : m = _ := Option.some.inj (hm.symm.trans hm')
    exact hd
  · exact fun hd => ⟨before, m, rfl, hm, hd⟩

theorem not_disturbed_of_disarmed {s : Logged} {h h' : Past Job} (hn : ¬Disturbed h) (hd : Disarmed s h h') :
    ¬Disturbed h' := by
  cases hd with
  | none => exact hn
  | some timer reply => rintro ⟨_, _, ⟨⟩, _⟩

section

variable {H : Host Job} {c : Call} {s s' : Logged} {h h' : Past Job} {keymap : Keymap} {config : Config}

theorem seen_of_meanwhile (reserved : H.Reserved) {request : Request Job}
    (meanwhile : H.Meanwhile (reloading Job).inv c request s (.asked request s :: h) s' h') :
    Past.seen? h' = some s'.matcher := by
  by_cases ho : H.Opens c request
  case pos =>
    refine (meanwhile.opened ho).seen ?_
    rintro rfl
    simpa using meanwhile.grown
  case neg =>
    obtain ⟨hd, rfl⟩ := meanwhile.closed ho
    exact congrArg some (reserved.drifted hd).left.symm

theorem ensures_reset_reloaded (reserved : H.Reserved) (hn : ¬Disturbed h)
    (compiles : Keymap.compile (.text config.leader) config.timeout config.bindings = .ok keymap) :
    Ensures H (reloading Job) c reset (fun outcome s' h' => outcome = .ok () →
      Reloaded config { s'.matcher with keymap := keymap, path := [] } h') s h := by
  refine ensures_get_bind.mpr (ensures_bind.mpr (ensures_clear reserved reloading_discreet ?_ ?_))
  case refine_2 => rintro f t h' _ _ _ ⟨⟩
  case refine_1 =>
    intro t h' _ hd
    refine ensures_ite.mpr ?_
    split
    case isFalse =>
      have undisturbed := not_disturbed_of_disarmed hn hd
      exact fun _ => ⟨compiles, rfl, iff_of_true ⟨rfl, rfl⟩ undisturbed⟩
    case isTrue =>
      refine (ensures_ask (by simp)).mpr ⟨fun _ => sighted_asked _ _ _, ?_⟩
      rintro reply s' h'' _ meanwhile rfl
      exact ⟨compiles, rfl, by simp [disturbed_answered (seen_of_meanwhile reserved meanwhile)]⟩

theorem ensures_reload_reloaded (reserved : H.Reserved) (hn : ¬Disturbed h) :
    Ensures H (reloading Job) c (reload config)
      (fun outcome s' h' => outcome = .ok () → Reloaded config s'.matcher h') s h := by
  refine ensures_reload (by rintro _ _ _ ⟨⟩) fun keymap t compiles _ _ => ?_
  refine (ensures_reset_reloaded reserved hn compiles).mono fun outcome s' h' hr => ?_
  cases outcome with
  | error f => rintro ⟨⟩
  | ok _ => exact fun _ _ _ _ => hr rfl

end

-- Only a reload has to do with what this contract is about.
theorem reloading_kept {H : Host Job} (reserved : H.Reserved) : (reloading Job).Kept operate H where
  meets := by
    intro call s h _ _
    have other : (∀ config, call ≠ .reload config) → (operate call s).Meets H (reloading Job) call
        (fun outcome s h => Sighted s (.returned call outcome s :: h)) (.called call s :: h) := by
      intro hn
      refine Run.meets_of_forall (fun request s h _ => sighted_asked request s h) (fun outcome s h => ?_) _ _
      refine ⟨fun _ => rfl, ?_⟩
      rintro config _ _ _ ⟨⟩
      exact absurd rfl (hn config)
    cases call with
    | reload config =>
      have undisturbed : ¬Disturbed (.called (.reload config) s :: h) := by rintro ⟨_, _, ⟨⟩, _⟩
      refine ensures_bind.mpr ((ensures_reload_reloaded reserved undisturbed).mono fun outcome s' h' hr => ?_)
      cases outcome with
      | error f => exact ⟨fun _ => rfl, by rintro _ _ _ _ ⟨⟩⟩
      | ok _ => exact ⟨fun _ => rfl, by rintro _ _ _ _ ⟨⟩; exact hr rfl⟩
    | _ => exact other (by simp)
  opens := fun _ _ _ _ ho hh => hh (reserved.opens _ _ ho)
  drifts := by
    intro s s' h hd sighted
    obtain ⟨hm, -⟩ := reserved.drifts _ _ hd
    exact ⟨hm ▸ sighted.seen, sighted.reloaded⟩

def Outlived (m₀ m : Matcher) : Prop :=
  m₀.timer = none → m₀.generation < m.generation ∨ m.generation = m₀.generation ∧ m.timer = none

theorem Outlived.not_due {m₀ m : Matcher} (o : Outlived m₀ m) (ht : m₀.timer = none) {expiry : Expiry}
    (he : expiry.generation ≤ m₀.generation) : ¬Due expiry m := by
  rintro ⟨hg, held⟩
  obtain hlt | ⟨-, hn⟩ := o ht
  · exact absurd (hg ▸ he) (Nat.not_le_of_lt hlt)
  · simp [hasTimer, hn] at held

theorem Outlived.later {m₀ m m' : Matcher} (o : Outlived m₀ m) (hg : m.generation < m'.generation) : Outlived m₀ m' := by
  intro ht
  obtain hlt | ⟨he, -⟩ := o ht
  · exact .inl (Nat.lt_trans hlt hg)
  · exact .inl (he ▸ hg)

def Outliving (m : Matcher) (h : Past Job) : Prop :=
  ∀ c outcome s before, .returned c outcome s :: before <:+ h → Outlived s.matcher m

def outliving (Job : Type) : Pledge Job where
  inv s h := Outliving s.matcher h
  handOver _ request s h := request.IsShown → Outliving s.matcher h

section

variable {m m' : Matcher} {h h' : Past Job}

theorem Outliving.start : Outliving m ([] : Past Job) := by
  intro c outcome s before hs
  cases List.suffix_nil.mp hs

theorem Outliving.imp (o : Outliving m h) (hm : ∀ m₀, Outlived m₀ m → Outlived m₀ m') : Outliving m' h :=
  fun c outcome s before hs => hm _ (o c outcome s before hs)

theorem Outliving.cons (o : Outliving m h) {sight : Sight (surroundings Job) Logged Call (Option Bool)}
    (hr : ∀ c outcome s, sight = .returned c outcome s → Outlived s.matcher m) : Outliving m (sight :: h) :=
  forall_returned_cons hr o

theorem Outliving.passes {s : Logged} (o : Outliving s.matcher h)
    {sight : Sight (surroundings Job) Logged Call (Option Bool)} (hp : Passing s sight) :
    Outliving s.matcher (sight :: h) := by
  refine o.cons ?_
  rintro c outcome s' rfl
  obtain rfl := hp
  exact fun ht => .inr ⟨rfl, ht⟩

theorem Outliving.asks (o : Outliving m h) (request : Request Job)
    (reply : Except Failure ((surroundings Job).Answer request)) (s : Logged) :
    Outliving m (.answered request reply :: .asked request s :: h) :=
  (o.cons (by rintro _ _ _ ⟨⟩)).cons (by rintro _ _ _ ⟨⟩)

theorem Outliving.disarmed {s : Logged} (o : Outliving s.matcher h) (hd : Disarmed s h h')
    (hm : m'.generation = s.matcher.generation + 1) : Outliving m' h' := by
  have next : Outliving m' h := o.imp fun m₀ o => o.later (by simp [hm])
  cases hd with
  | none => exact next
  | some timer reply => exact next.asks _ _ _

end

theorem outliving_upkeep {H : Host Job} (reserved : H.Reserved) :
    Upkeep H (outliving Job) (fun s h => Outliving s.matcher h) (fun _ _ _ => True) where
  reserved := reserved
  discreet := fun _ _ _ _ hn hs => absurd hs hn
  hands := fun _ o _ => o
  opens := fun ho hh => hh (reserved.opens _ _ ho)
  drift := fun o _ => o
  passes := fun o hp => o.passes hp
  loosen := id
  slack := fun o _ => o
  stuck := fun o hd _ => o.disarmed hd rfl
  clears := fun o hd => o.disarmed hd rfl
  consumes := fun o hd _ _ _ _ _ => (o.disarmed hd rfl).asks _ _ _
  misses := fun o hd _ _ => (o.disarmed hd rfl).asks _ _ _
  arms := fun o hd _ _ _ _ _ => (o.disarmed hd rfl).asks _ _ _
  due := by
    intro s h expiry o _ _
    have gone : Outliving (timedOut s.matcher) h := o.imp fun m₀ o ht => (o ht).imp_right fun ⟨hg, _⟩ => ⟨hg, rfl⟩
    exact gone.cons (by rintro _ _ _ ⟨⟩)
  ripens := fun _ _ _ _ => trivial
  found := fun _ _ _ _ => trivial
  executes := by
    intro call command keys s s₁ s₂ h h' h₂ _ _ _ _ _ o _
    have asked : Outliving s₂.matcher (.asked (.execute command) s₂ ::
        .answered (.publish (.dispatch command keys)) (.ok ()) :: h₂) :=
      (o.cons (by rintro _ _ _ ⟨⟩)).cons (by rintro _ _ _ ⟨⟩)
    exact ⟨fun _ => asked, asked⟩
  unrecorded := fun o _ _ => o
  reloads := fun o _ _ => o

-- A reload that succeeds leaves an idle matcher with the new keymap. If the matcher was left alone by those who were
-- told that a sequence was given up, or was left with nothing, then no keys and no timer are left and the callbacks of
-- earlier timers are inert for ever. Otherwise what was left stays.
theorem reload_settles {env : Environment} {M : Working Job} {config : Config} {a : Option Bool} {s : Logged}
    {h : Past Job} (reaches : Machine.Reaches operate (anyHost Job) (fresh Job env) M)
    (returned : .returned (.reload config) (.ok a) s :: h <:+ M.history) :
    Keymap.compile (.text config.leader) config.timeout config.bindings = .ok s.matcher.keymap ∧ s.matcher.isIdle ∧
      ((s.matcher.pendingKeys = [] ∧ ¬s.matcher.hasTimer) ↔ ¬Disturbed h) ∧
      (¬Disturbed h → (∀ frame ∈ M.frames.head?, frame.request.IsShown) →
        ∀ expiry ∈ Past.armed h, Inert Job expiry M.state) := by
  have reserved : (anyHost Job).Reserved := anyHost_reserved
  have sighted := reaches.inv_of_returned (reloading_kept reserved) (.start ⟨nofun, by rintro _ _ _ _ ⟨⟩⟩) rfl returned
  have timing := reaches.inv_of_returned (timing_upkeep reserved).kept (.start ⟨timed_fresh env, .start env⟩) rfl returned
  have reloaded : Reloaded config s.matcher h := sighted.reloaded _ _ _ _ rfl
  refine ⟨reloaded.keymap, reloaded.idle, ?_, fun undisturbed shown expiry he => ?_⟩
  case refine_1 =>
    rw [← reloaded.settled]
    simp [pendingKeys, hasTimer]
  case refine_2 =>
    obtain ⟨-, unheld⟩ := reloaded.settled.mpr undisturbed
    have timed : Timed s.matcher (.returned (.reload config) (.ok a) s :: h : Past Job) := timing.left
    have sound := reaches.sound (outliving_upkeep reserved).kept (.start ⟨.start, .start env⟩)
    have outlives := (sound.inv_of_open fun frame hf => ⟨.reset, shown frame hf⟩).left
    have outlived : Outlived s.matcher M.state.matcher := outlives _ _ _ _ returned
    exact inert_of_not (outlived.not_due unheld (timed.armed_le expiry he))

def older : Config := ⟨" ", 500, ⟨[("ab", "old"), ("abc", "older")]⟩⟩

def newer : Config := ⟨" ", 500, ⟨[("x", "new")]⟩⟩

def taken? : Past Unit → Option (Config × Option Bool × Logged × Past Unit)
  | .returned (.reload config) (.ok a) s :: h => some (config, a, s, h)
  | _ => none

theorem eq_of_taken? {config : Config} {a : Option Bool} {s : Logged} {h past : Past Unit}
    (ht : taken? past = some (config, a, s, h)) : past = .returned (.reload config) (.ok a) s :: h := by
  unfold taken? at ht
  split at ht
  case h_1 => cases ht; rfl
  case h_2 => cases ht

def replaced : Working Unit :=
  calmly (fresh Unit {}) [.reload older, .press ⟨"a", {}, none⟩, .reload newer]

theorem reaches_replaced : Machine.Reaches operate (anyHost Unit) (fresh Unit {}) replaced ∧ replaced.Resting :=
  reaches_calmly (fun _ => trivial) (resting_fresh _) (by simp [anyHost])

theorem shown_of_resting {M : Working Job} (rest : M.Resting) : ∀ frame ∈ M.frames.head?, frame.request.IsShown := by
  intro frame hf
  rw [show M.frames = [] from rest] at hf
  cases hf

theorem replaced_taken : (taken? replaced.history).map (fun (config, a, s, h) =>
    (config, a, s.matcher.pendingKeys, s.matcher.hasTimer, Past.armed h)) =
      some (newer, none, [], false, [⟨3, .abandon⟩]) := by decide +kernel

theorem reload_settles_replaced : ∃ s h, replaced.history = .returned (.reload newer) (.ok none) s :: h ∧
    s.matcher.isIdle ∧ ⟨3, .abandon⟩ ∈ Past.armed h ∧ Inert Unit ⟨3, .abandon⟩ replaced.state := by
  obtain ⟨⟨config, a, s, h⟩, ht, he⟩ := Option.map_eq_some_iff.mp replaced_taken
  simp only [Prod.mk.injEq] at he
  obtain ⟨rfl, rfl, keys, unheld, armed⟩ := he
  have hh := eq_of_taken? ht
  have returned : .returned (.reload newer) (.ok none) s :: h <:+ replaced.history := hh ▸ List.suffix_rfl
  obtain ⟨-, idle, settled, inert⟩ := reload_settles reaches_replaced.left returned
  have undisturbed : ¬Disturbed h := settled.mp ⟨keys, by simp [unheld]⟩
  have stale : (⟨3, .abandon⟩ : Expiry) ∈ Past.armed h := by simp [armed]
  exact ⟨s, h, hh, idle, stale, inert undisturbed (shown_of_resting reaches_replaced.right) _ stale⟩

instance (request : Request Job) : Decidable request.IsShown := by
  cases request <;> first | exact .isTrue trivial | exact .isFalse id

def calling (M : Working Unit) (call : Call) (answers : Nat) : Working Unit :=
  Nat.repeat (Machine.answer (calm ·)) answers (M.enterCall operate call)

theorem reaches_calling {M M' : Working Unit} (reaches : Machine.Reaches operate (anyHost Unit) M M')
    (shown : ∀ frame ∈ M'.frames.head?, frame.request.IsShown) {call : Call}
    (made : ∀ expiry, call = .expire expiry → expiry ∈ Past.armed M'.history) (answers : Nat) :
    Machine.Reaches operate (anyHost Unit) M (calling M' call answers) := by
  induction answers with
  | zero => exact reaches.tail (.call shown made)
  | succ answers ih => exact .answer (fun _ => trivial) ih

def half : Working Unit := calmly (fresh Unit {}) [.reload older, .press ⟨"a", {}, none⟩]

def told : Working Unit := calling half (.reload newer) 1

def retyping : Working Unit := calling told (.press ⟨"a", {}, none⟩) 3

def retyped : Working Unit := calling retyping (.press ⟨"b", {}, none⟩) 4

def disturbed : Working Unit := .answer calm retyped

def fired : Working Unit := calling disturbed (.expire ⟨8, .dispatch "old"⟩) 1

theorem reaches_disturbed : Machine.Reaches operate (anyHost Unit) (fresh Unit {}) disturbed := by
  obtain ⟨reaches_half, rest⟩ : Machine.Reaches operate (anyHost Unit) (fresh Unit {}) half ∧ half.Resting :=
    reaches_calmly (fun _ => trivial) (resting_fresh _) (by simp [anyHost])
  have reaches_told : Machine.Reaches operate (anyHost Unit) (fresh Unit {}) told :=
    reaches_calling reaches_half (shown_of_resting rest) (by rintro _ ⟨⟩) 1
  have reaches_retyping : Machine.Reaches operate (anyHost Unit) (fresh Unit {}) retyping :=
    reaches_calling reaches_told (by decide +kernel) (by rintro _ ⟨⟩) 3
  have reaches_retyped : Machine.Reaches operate (anyHost Unit) (fresh Unit {}) retyped :=
    reaches_calling reaches_retyping (by decide +kernel) (by rintro _ ⟨⟩) 4
  exact .answer (fun _ => trivial) reaches_retyped

theorem disturbed_taken : (taken? disturbed.history).map (fun (config, a, s, h) =>
    (config, a, s.matcher.pendingKeys, s.matcher.hasTimer, (Past.armed h).head?)) =
      some (newer, none, ["a", "b"], true, some ⟨8, .dispatch "old"⟩) := by decide +kernel

theorem reaches_fired : Machine.Reaches operate (anyHost Unit) disturbed fired := by
  refine reaches_calling .refl (by decide +kernel) ?_ 1
  rintro _ ⟨⟩
  have armed : (⟨8, .dispatch "old"⟩ : Expiry) ∈ Past.armed disturbed.history := by decide +kernel
  exact armed

theorem fired_executing : executing? fired.history = some "old" := by decide +kernel

-- A reload that succeeds may leave keys and a timer, whose callback carries out a command of the bindings that were
-- replaced.
theorem reload_leaves_keys : ∃ s h s' before, disturbed.history = .returned (.reload newer) (.ok none) s :: h ∧
    Machine.Reaches operate (anyHost Unit) (fresh Unit {}) disturbed ∧ s.matcher.pendingKeys = ["a", "b"] ∧
      s.matcher.hasTimer ∧ ⟨8, .dispatch "old"⟩ ∈ Past.armed h ∧
        Machine.Reaches operate (anyHost Unit) disturbed fired ∧
          fired.history = .asked (.execute "old") s' :: before := by
  obtain ⟨⟨config, a, s, h⟩, ht, he⟩ := Option.map_eq_some_iff.mp disturbed_taken
  simp only [Prod.mk.injEq] at he
  obtain ⟨rfl, rfl, keys, held, armed⟩ := he
  obtain ⟨s', before, hf⟩ := eq_of_executing? fired_executing
  exact ⟨s, h, s', before, eq_of_taken? ht, reaches_disturbed, keys, held, List.mem_of_mem_head? armed, reaches_fired, hf⟩

end Keychord.Matcher
