import Keychord.Proofs.Matcher.Ensures

namespace Keychord.Matcher

variable {Job α : Type} {H : Host Job} {K : Pledge Job}

def cleared (m : Matcher) : Matcher := { released m with path := [], typed := [] }

def advanced (m : Matcher) (key : Key) : Matcher :=
  { released m with path := m.path ++ [key.edge], typed := m.typed ++ [key] }

def timedOut (m : Matcher) : Matcher := { m with timer := none }

def Passing (s : Logged) : Sight (surroundings Job) Logged Call (Option Bool) → Prop
  | .called call s' => s' = s ∧ ∀ expiry, call = .expire expiry → ¬Due expiry s.matcher
  | .asked request s' => s' = s ∧ request.IsTold
  | .answered request _ => request.IsShown
  | .returned _ _ s' => s' = s

-- The conditions on an invariant. Within an operation a looser one is enough, and a command may be carried out when
-- it is ripe.
structure Upkeep (H : Host Job) (K : Pledge Job) (loose : Logged → Past Job → Prop)
    (ripe : String → Logged → Past Job → Prop) : Prop where
  reserved : H.Reserved
  discreet : K.Discreet
  hands : ∀ {call request s h}, request.IsTold → K.inv s h → K.handOver call request s h
  opens : ∀ {call request s h}, H.Opens call request → K.handOver call request s h → K.inv s h
  drift : ∀ {s t h}, K.inv s h → s.telemetry.Advances t → K.inv ⟨s.matcher, t⟩ h
  passes : ∀ {s sight h}, K.inv s h → Passing s sight → K.inv s (sight :: h)
  loosen : ∀ {s h}, K.inv s h → loose s h
  slack : ∀ {s t h}, loose s h → s.telemetry.Advances t → loose ⟨s.matcher, t⟩ h
  stuck : ∀ {s h h' timer f}, loose s h → Disarmed s h h' → H.answers (.disarm timer) (.error f) →
    K.inv ⟨released s.matcher, s.telemetry⟩ h'
  clears : ∀ {s h h'}, loose s h → Disarmed s h h' → K.inv ⟨cleared s.matcher, s.telemetry⟩ h'
  consumes : ∀ {s s₁ h h' press key node}, loose s h → Disarmed s h h' → s.telemetry.active.isSome →
    press.toKey? = some key → s.matcher.keymap.root.find? (s.matcher.path ++ [key.edge]) = some node →
    s₁.matcher = released s.matcher → H.answers (.consume press) (.ok ()) →
    loose ⟨advanced s.matcher key, s.telemetry⟩ (.answered (.consume press) (.ok ()) :: .asked (.consume press) s₁ :: h')
  misses : ∀ {s s₁ h h' press f}, loose s h → Disarmed s h h' → s₁.matcher = released s.matcher →
    H.answers (.consume press) (.error f) →
    K.inv ⟨released s.matcher, s.telemetry⟩ (.answered (.consume press) (.error f) :: .asked (.consume press) s₁ :: h')
  arms : ∀ {s s₁ h h' node delay expiry reply}, loose s h → Disarmed s h h' → s.matcher.typed ≠ [] →
    s.matcher.keymap.root.find? s.matcher.path = some node →
    expiry = ⟨s.matcher.generation + 1, node.command.elim .abandon .dispatch⟩ → s₁.matcher = released s.matcher →
    H.answers (.arm delay expiry) reply →
    K.inv ⟨{ released s.matcher with timer := reply.toOption }, s.telemetry⟩
      (.answered (.arm delay expiry) reply :: .asked (.arm delay expiry) s₁ :: h')
  due : ∀ {s h expiry}, K.inv s h → H.calls (.expire expiry) s h → Due expiry s.matcher →
    loose ⟨timedOut s.matcher, s.telemetry⟩ (.called (.expire expiry) s :: h)
  ripens : ∀ {s h expiry command}, K.inv s h → H.calls (.expire expiry) s h → Due expiry s.matcher →
    expiry.action = .dispatch command →
    ripe command ⟨timedOut s.matcher, s.telemetry⟩ (.called (.expire expiry) s :: h)
  found : ∀ {s h node command}, loose s h → s.matcher.typed ≠ [] →
    s.matcher.keymap.root.find? s.matcher.path = some node → node.command = some command → ripe command s h
  executes : ∀ {call command keys s s₁ s₂ h h' h₂}, loose s h → ripe command s h → Disarmed s h h' →
    keys = s.matcher.pendingDisplay → s₁.matcher = cleared s.matcher → K.inv s₂ h₂ →
    (¬H.Opens call (.publish (.dispatch command keys)) →
      s₂.matcher = s₁.matcher ∧ h₂ = .asked (.publish (.dispatch command keys)) s₁ :: h') →
    K.handOver call (.execute command) s₂
        (.asked (.execute command) s₂ :: .answered (.publish (.dispatch command keys)) (.ok ()) :: h₂) ∧
      K.inv s₂ (.asked (.execute command) s₂ :: .answered (.publish (.dispatch command keys)) (.ok ()) :: h₂)
  unrecorded : ∀ {s h f}, loose s h → s.matcher.timer = none →
    (Telemetry.perform (.record "keys.abandoned" "debug" [("keys", .text s.matcher.pendingDisplay)])
      s.telemetry).1 = .error f → K.inv s h
  reloads : ∀ {s h keymap config}, K.inv s h →
    Keymap.compile (.text config.leader) config.timeout config.bindings = .ok keymap →
    (¬H.Opens (.reload config) (.publish .reset) → s.matcher.typed = [] ∧ s.matcher.timer = none) →
    K.inv ⟨{ s.matcher with keymap := keymap, path := [] }, s.telemetry⟩ h

def Pledge.lit (K : Pledge Job) : Pledge Job := ⟨fun s h => K.inv s h ∧ Lit s.telemetry h, K.handOver⟩

namespace Upkeep

variable {loose : Logged → Past Job → Prop} {ripe : String → Logged → Past Job → Prop} {call : Call} {s : Logged}
  {h : Past Job}

theorem discreet_lit (up : Upkeep H K loose ripe) : K.lit.Discreet := up.discreet

theorem drifts (up : Upkeep H K loose ripe) {s' : Logged} (hi : K.inv s h)
    (hd : Relation.ReflTransGen H.drifts s s') : K.inv s' h := by
  obtain ⟨m', t'⟩ := s'
  obtain ⟨rfl, ha⟩ := up.reserved.drifted hd
  exact up.drift hi ha

theorem shown (up : Upkeep H K loose ripe) (request : Request Job) (hs : request.IsShown)
    {Q : Except Failure ((surroundings Job).Answer request) → Logged → Past Job → Prop}
    (ho : K.handOver call request s (.asked request s :: h)) (hi : K.inv s (.asked request s :: h))
    (hq : ∀ reply s' h', K.inv s' h' → (s.telemetry.active.isSome → s'.telemetry.active.isSome) →
      (¬H.Opens call request → s'.matcher = s.matcher ∧ h' = .asked request s :: h) →
      Q reply s' (.answered request reply :: h')) :
    Ensures H K.lit call (ask request) Q s h := by
  refine (ensures_ask (by rintro op rfl; exact hs)).mpr ⟨ho, fun reply s' h' _ meanwhile => ?_⟩
  by_cases hc : H.Opens call request
  case pos =>
    obtain ⟨hi, lit⟩ := meanwhile.opened hc
    exact hq reply s' h' hi (lit.lasting _ _ (meanwhile.grown.subset List.mem_cons_self)) fun hn => absurd hc hn
  case neg =>
    obtain ⟨hd, rfl⟩ := meanwhile.closed hc
    obtain ⟨hm, ha⟩ := up.reserved.drifted hd
    exact hq reply s' _ (up.drifts hi hd) ha.active fun _ => ⟨hm, rfl⟩

theorem told (up : Upkeep H K loose ripe) (request : Request Job) (ht : request.IsTold)
    {Q : Except Failure ((surroundings Job).Answer request) → Logged → Past Job → Prop} (hi : K.inv s h)
    (hq : ∀ reply s' h', K.inv s' h' → (s.telemetry.active.isSome → s'.telemetry.active.isSome) →
      (¬H.Opens call request → s'.matcher = s.matcher ∧ h' = .asked request s :: h) →
      Q reply s' (.answered request reply :: h')) :
    Ensures H K.lit call (ask request) Q s h :=
  have ha : K.inv s (.asked request s :: h) := up.passes hi ⟨rfl, ht⟩
  up.shown request ht.shown (up.hands ht ha) ha hq

theorem preserves_told (up : Upkeep H K loose ripe) (request : Request Job) (ht : request.IsTold) :
    Preserves H K.lit call K.inv (ask request) :=
  fun _ _ hi => up.told request ht hi fun _ _ _ hi _ _ => up.passes hi ht.shown

theorem preserves_telemetry (up : Upkeep H K loose ripe) (op : Telemetry.Op) :
    Preserves H K.lit call K.inv (askTelemetry op) :=
  fun _ _ hi => up.drift hi (Telemetry.perform_moves op _)

theorem preserves_reportFailure (up : Upkeep H K loose ripe) (command : String) (failure : Failure) :
    Preserves H K.lit call K.inv (reportFailure command failure) :=
  .bind (up.preserves_telemetry _) fun _ => up.preserves_told (.publish _) trivial

theorem ensures_reportIfFailed (up : Upkeep H K loose ripe) (command : String) {step : Step Job α}
    (hs : Ensures H K.lit call step (fun _ s h => K.inv s h) s h) :
    Ensures H K.lit call (reportIfFailed command step) (fun _ s h => K.inv s h) s h := by
  refine ensures_bind.mpr (ensures_attempt.mpr (hs.mono fun outcome s h hi => ?_))
  cases outcome with
  | ok a => exact hi
  | error failure =>
    have hr : Preserves H K.lit call K.inv (do reportFailure command failure; return (none : Option α)) :=
      .bind (up.preserves_reportFailure _ _) fun _ => .pure _
    exact Preserves.ite (fun _ => .bind (.throw _) fun _ => hr) (fun _ => hr) s h hi

theorem ensures_clear (up : Upkeep H K loose ripe) (lo : loose s h) {Q : Except Failure Unit → Logged → Past Job → Prop}
    (ho : ∀ t h', s.telemetry.Advances t → Disarmed s h h' → K.inv ⟨cleared s.matcher, t⟩ h' →
      Q (.ok ()) ⟨cleared s.matcher, t⟩ h')
    (he : ∀ f t h', s.telemetry.Advances t → K.inv ⟨released s.matcher, t⟩ h' →
      Q (.error f) ⟨released s.matcher, t⟩ h') : Ensures H K.lit call clear Q s h := by
  refine Matcher.ensures_clear up.reserved up.discreet_lit ?_ ?_
  case refine_1 => exact fun t h' ha hd => ho t h' ha hd (up.drift (up.clears lo hd) ha)
  case refine_2 =>
    intro f t h' hf ha hd
    obtain hf | ⟨timer, hf⟩ := hf
    · cases hf
    · exact he _ _ _ ha (up.drift (up.stuck lo hd hf) ha)

theorem ensures_reset (up : Upkeep H K loose ripe) (lo : loose s h) {Q : Except Failure Unit → Logged → Past Job → Prop}
    (hq : ∀ outcome s' h', K.inv s' h' → (s.telemetry.active.isSome → s'.telemetry.active.isSome) →
      (outcome = .ok () → ¬H.Opens call (.publish .reset) → s'.matcher.typed = [] ∧ s'.matcher.timer = none) →
      Q outcome s' h') : Ensures H K.lit call reset Q s h := by
  refine ensures_get_bind.mpr (ensures_bind.mpr (up.ensures_clear lo ?_ ?_))
  case refine_1 =>
    intro t h' ha _ hi
    refine ensures_ite.mpr ?_
    split
    case isFalse => exact hq _ _ _ hi ha.active fun _ _ => ⟨rfl, rfl⟩
    case isTrue =>
      refine up.told (.publish .reset) trivial hi ?_
      intro reply s' h' hi ha' hc
      refine hq reply s' _ (up.passes hi trivial) (ha' ∘ ha.active) fun _ hn => ?_
      rw [(hc hn).left]
      exact ⟨rfl, rfl⟩
  case refine_2 => exact fun f t h' ha hi => hq _ _ _ hi ha.active nofun

theorem preserves_settle (up : Upkeep H K loose ripe) (command : String) (job : Job) :
    Preserves H K.lit call K.inv (do let _ ← reportIfFailed command (ask (.settle command job))) := by
  intro s h hi
  refine ensures_bind.mpr ((up.ensures_reportIfFailed command ?_).mono fun outcome s h hi => ?_)
  · exact up.preserves_told (.settle command job) trivial s h hi
  · cases outcome <;> exact hi

theorem ensures_dispatch (up : Upkeep H K loose ripe) {command : String} (lo : loose s h) (hr : ripe command s h) :
    Ensures H K.lit call (dispatch command) (fun _ s h => K.inv s h) s h := by
  refine ensures_bind.mpr (ensures_bind.mpr (up.ensures_clear lo ?_ fun _ _ _ _ hi => hi))
  intro t h₁ _ hd hi
  refine ensures_bind.mpr (ensures_performed fun outcome t' _ ha => ?_)
  cases outcome with
  | error f => exact up.drift hi ha
  | ok _ =>
    refine ensures_bind.mpr (up.told (.publish _) trivial (up.drift hi ha) fun reply s₂ h₂ hi _ hc => ?_)
    cases reply with
    | error f => exact up.passes hi trivial
    | ok _ =>
      have hm : (⟨cleared s.matcher, t'⟩ : Logged).matcher = cleared s.matcher := rfl
      obtain ⟨ho, hx⟩ := up.executes lo hr hd rfl hm hi hc
      refine ensures_bind.mpr ((up.ensures_reportIfFailed command ?_).mono fun outcome s h hi => ?_)
      · exact up.shown (.execute command) trivial ho hx fun _ _ _ hi _ _ => up.passes hi trivial
      · cases outcome with
        | error f => exact hi
        | ok work =>
          cases work with
          | none => exact hi
          | some left =>
            cases left with
            | none => exact hi
            | some job => exact up.preserves_settle command job s h hi

theorem ensures_abandon (up : Upkeep H K loose ripe) (lo : loose s h) (ht : s.matcher.timer = none) :
    Ensures H K.lit call abandon (fun _ s h => K.inv s h) s h := by
  refine ensures_get_bind.mpr (ensures_bind.mpr (ensures_performed fun outcome t hp ha => ?_))
  cases outcome with
  | error f => exact up.drift (up.unrecorded lo ht (congrArg Prod.fst hp)) ha
  | ok _ => exact up.ensures_reset (up.slack lo ha) fun _ _ _ hi _ _ => hi

theorem ensures_expire (up : Upkeep H K loose ripe) {expiry : Expiry} (hi : K.inv s h)
    (hc : H.calls (.expire expiry) s h) :
    Ensures H K.lit call (expire expiry) (fun _ s h => K.inv s h) s (.called (.expire expiry) s :: h) := by
  by_cases hd : Due expiry s.matcher
  case pos =>
    have lo := up.due hi hc hd
    have hr := fun command (hx : expiry.action = .dispatch command) => up.ripens hi hc hd hx
    rw [Ensures, Logged.step, expire_of_due hd]
    refine ensures_bind.mpr ?_
    cases hx : expiry.action with
    | dispatch command => exact up.ensures_dispatch lo (hr command hx)
    | abandon => exact up.ensures_abandon lo rfl
  case neg =>
    rw [Ensures, Logged.step, expire_of_not hd]
    exact up.passes hi ⟨rfl, by rintro _ ⟨⟩; exact hd⟩

theorem ensures_arrive (up : Upkeep H K loose ripe) {node : Keymap.Node} (lo : loose s h) (ht : s.matcher.typed ≠ [])
    (hn : s.matcher.keymap.root.find? s.matcher.path = some node) :
    Ensures H K.lit call (arrive node) (fun _ s h => K.inv s h) s h := by
  -- Where the command is not carried out at once, time to wait begins.
  have hw : Ensures H K.lit call (do
      startTimer (node.command.elim .abandon .dispatch)
      ask (.publish (.pending (← get).pendingDisplay node.command node.nextEdges))) (fun _ s h => K.inv s h) s h := by
    refine ensures_bind.mpr (ensures_startTimer up.reserved up.discreet_lit ?_ ?_)
    case refine_1 =>
      intro f t h' hf ha hd
      obtain hf | ⟨timer, hf⟩ := hf
      · cases hf
      · exact up.drift (up.stuck lo hd hf) ha
    case refine_2 =>
      intro reply t t' h' hg ha ha' hd
      have hm : (⟨released s.matcher, t⟩ : Logged).matcher = released s.matcher := rfl
      have hi := up.arms lo hd ht hn rfl hm hg
      have hi := up.drift hi (.trans _ _ _ ha ha')
      cases reply with
      | error f => exact hi
      | ok timer => exact ensures_bind.mpr (up.preserves_told (.publish _) trivial _ _ hi)
  rw [arrive]
  split
  case h_1 command hc _ => exact up.ensures_dispatch lo (up.found lo ht hn hc)
  case h_2 => exact hw

theorem ensures_followOr (up : Upkeep H K loose ripe) {press : Press} {key : Key} (hk : press.toKey? = some key)
    {otherwise : Step Job Bool} (hi : K.inv s h) (ha : s.telemetry.active.isSome)
    (ho : ∀ s' h', K.inv s' h' → s'.telemetry.active.isSome →
      Ensures H K.lit call otherwise (fun _ s h => K.inv s h) s' h') :
    Ensures H K.lit call (followOr press key otherwise) (fun _ s h => K.inv s h) s h := by
  refine ensures_get_bind.mpr ?_
  dsimp only
  split
  case h_1 node hn =>
    refine ensures_bind.mpr (ensures_cancelTimer up.reserved up.discreet_lit fun outcome t h' hf ht hd => ?_)
    cases outcome with
    | error f =>
      obtain hf | ⟨timer, hf⟩ := hf
      · cases hf
      · exact up.drift (up.stuck (up.loosen hi) hd hf) ht
    | ok _ =>
      have hm : (⟨released s.matcher, t⟩ : Logged).matcher = released s.matcher := rfl
      refine ensures_bind.mpr (ensures_plain up.reserved up.discreet_lit (.consume press) trivial fun reply t' hr ht' => ?_)
      cases reply with
      | error f =>
        have hi := up.misses (up.loosen hi) hd hm hr
        have hi := up.drift hi (.trans _ _ _ ht ht')
        exact hi
      | ok _ =>
        have lo := up.consumes (up.loosen hi) hd ha hk hn hm hr
        have lo := up.slack lo (.trans _ _ _ ht ht')
        refine ensures_bind.mpr (ensures_bind.mpr ((up.ensures_arrive lo (by simp [advanced]) hn).mono ?_))
        intro outcome s h hi
        cases outcome <;> exact hi
  case h_2 =>
    refine ensures_ite.mpr ?_
    split
    case isTrue => exact hi
    case isFalse =>
      refine ensures_bind.mpr (up.ensures_reset (up.loosen hi) ?_)
      intro outcome s' h' hi ha' _
      cases outcome with
      | error f => exact hi
      | ok _ => exact ho s' h' hi (ha' ha)

theorem ensures_traced (up : Upkeep H K loose ripe) {press : Press} {key : Key} (hk : press.toKey? = some key)
    (hi : K.inv s h) (lit : Lit s.telemetry h) :
    Ensures H K.lit call (do Telemetry.around askTelemetry (keySpan (← get) key) (follow press key))
      (fun _ s h => K.inv s h) s h := by
  refine ensures_get_bind.mpr (ensures_bind.mpr (ensures_performed fun outcome t hp ha => ?_))
  cases outcome with
  | error f => exact up.drift hi ha
  | ok span =>
    have hs : t.active.isSome := Telemetry.active_of_openSpan lit.coherent hp
    have hf : Ensures H K.lit call (follow press key) (fun _ s h => K.inv s h) ⟨s.matcher, t⟩ h :=
      up.ensures_followOr hk (up.drift hi ha) hs fun _ _ hi ha =>
        up.ensures_followOr hk hi ha fun _ _ hi _ => ensures_pure.mpr hi
    refine ensures_bind.mpr (ensures_tryCatch.mpr (hf.mono fun outcome s h hi => ?_))
    -- The span is closed whether the key was followed or not.
    cases outcome with
    | ok handled => exact Preserves.bind (up.preserves_telemetry _) (fun _ => .pure _) s h hi
    | error f =>
      refine ensures_bind.mpr ((up.preserves_telemetry _ s h hi).mono fun outcome s h hi => ?_)
      cases outcome <;> exact hi

theorem ensures_handle (up : Upkeep H K loose ripe) (press : Press) (hi : K.inv s h) (lit : Lit s.telemetry h) :
    Ensures H K.lit call (handle press) (fun _ s h => K.inv s h) s h := by
  refine ensures_ite.mpr ?_
  split
  case isTrue => exact hi
  case isFalse =>
    cases hk : press.toKey? with
    | none => exact hi
    | some key => exact up.ensures_traced hk hi lit

theorem ensures_reload (up : Upkeep H K loose ripe) (config : Config) (hi : K.inv s h) :
    Ensures H K.lit (.reload config) (reload config) (fun _ s h => K.inv s h) s h := by
  refine ensures_bind.mpr ((ensures_compileTraced _ _ _).mono ?_)
  rintro outcome ⟨_, t⟩ _ ⟨rfl, rfl, ha, hk⟩
  have hi := up.drift hi ha
  cases outcome with
  | error f => exact hi
  | ok keymap =>
    refine ensures_bind.mpr (up.ensures_reset (up.loosen hi) fun outcome s h hi _ hr => ?_)
    cases outcome with
    | error f => exact hi
    | ok _ => exact up.preserves_telemetry _ _ _ (up.reloads hi (hk keymap rfl).left (hr rfl))

theorem ensures_return {β : Type} {step : Step Job α} {f : α → β}
    (hs : Ensures H K.lit call step (fun _ s h => K.inv s h) s h) :
    Ensures H K.lit call (do return f (← step)) (fun _ s h => K.inv s h) s h :=
  ensures_bind.mpr (hs.mono (by rintro (_ | _) _ _ hi <;> exact hi))

theorem ensures_settled (up : Upkeep H K loose ripe) (command : String) (outcome : Except Failure Unit) :
    Preserves H K.lit call K.inv (settled command outcome) := by
  cases outcome with
  | ok _ => exact .pure _
  | error failure => exact .ite (fun _ => up.preserves_reportFailure _ _) fun _ => .pure _

theorem ensures_step (up : Upkeep H K loose ripe) (hi : K.inv s h) (lit : Lit s.telemetry h) (hc : H.calls call s h) :
    Ensures H K.lit call call.step (fun _ s h => K.inv s h) s (.called call s :: h) := by
  have called : (∀ expiry, call ≠ .expire expiry) → K.inv s (.called call s :: h) :=
    fun hn => up.passes hi ⟨rfl, fun expiry he => absurd he (hn expiry)⟩
  cases call with
  | press press => exact ensures_return (up.ensures_handle press (called (by simp)) (lit.cons (by simp)))
  | expire expiry => exact ensures_return (up.ensures_expire hi hc)
  | reset => exact ensures_return (up.ensures_reset (up.loosen (called (by simp))) fun _ _ _ hi _ _ => hi)
  | close => exact ensures_return (up.ensures_reset (up.loosen (called (by simp))) fun _ _ _ hi _ _ => hi)
  | reload config => exact ensures_return (up.ensures_reload config (called (by simp)))
  | settled command outcome => exact ensures_return (up.ensures_settled command outcome _ _ (called (by simp)))

def full (K : Pledge Job) : Pledge Job where
  inv := K.lit.inv
  handOver c request s h := K.handOver c request s h ∧ Lit s.telemetry h

theorem kept (up : Upkeep H K loose ripe) : (full K).Kept operate H where
  meets := by
    intro call s h hc ⟨hi, lit⟩
    have lit' : Lit s.telemetry (.called call s :: h) := lit.cons (by simp)
    have hl : (operate call s).Meets H ⟨K.lit.inv, fun _ _ s h => Lit s.telemetry h⟩ call
        (fun _ s h => Lit s.telemetry h) (.called call s :: h) :=
      Logged.meets_lit up.reserved (fun _ _ hi => hi.right) _ lit'
    exact ((up.ensures_step hi lit hc).and hl).mono fun outcome s h ⟨hi, lit⟩ =>
      ⟨up.passes hi rfl, lit.cons (by simp)⟩
  opens := fun _ _ _ _ ho hh => ⟨up.opens ho hh.left, hh.right⟩
  drifts := by
    intro s ⟨m', t'⟩ h hd ⟨hi, lit⟩
    obtain ⟨rfl, hu⟩ := up.reserved.drifts _ _ hd
    exact ⟨up.drift hi hu.advances, lit.advance hu.advances⟩

end Upkeep

end Keychord.Matcher
