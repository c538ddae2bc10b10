import Keychord.Proofs.Matcher.Upkeep
import Keychord.Proofs.UnderWay

namespace Keychord.Matcher

variable {Job α : Type} {H : Host Job} {P : Matcher → Prop}

structure SamePlace (m m' : Matcher) : Prop where
  keymap : m'.keymap = m.keymap
  path   : m'.path = m.path
  typed  : m'.typed = m.typed

theorem SamePlace.refl (m : Matcher) : SamePlace m m := ⟨rfl, rfl, rfl⟩

structure Enduring (H : Host Job) (P : Matcher → Prop) : Prop extends H.Reserved where
  stays   : ∀ {m m'}, P m → SamePlace m m' → P m'
  clears  : ∀ {m}, P m → P (cleared m)
  follows : ∀ {m} {press : Press} {key node}, P m → press.toKey? = some key →
    m.keymap.root.find? (m.path ++ [key.edge]) = some node → P (advanced m key)
  reloads : ∀ {m} {config : Config} {keymap s h}, H.calls (.reload config) s h →
    Keymap.compile (.text config.leader) config.timeout config.bindings = .ok keymap → P m →
    (¬H.Opens (.reload config) (.publish .reset) → m.typed = []) → P { m with keymap := keymap, path := [] }

-- What an event says of where the matcher is. Keys that may go on are those so far, with the command and the edges of the
-- node, and a matcher does not wait where there is a command and no edge.
def Event.Tells (m : Matcher) : Event → Prop
  | .pending keys command next => keys = m.pendingDisplay ∧ m.path ≠ [] ∧ ∃ node, m.keymap.root.find? m.path = some node ∧
      command = node.command ∧ next = node.nextEdges ∧ ¬(node.command.isSome ∧ node.isLeaf)
  | _ => True

def Request.Tells (m : Matcher) : Request Job → Prop
  | .publish event => event.Tells m
  | _ => True

def placing (Job : Type) (P : Matcher → Prop) : Pledge Job where
  inv s _ := P s.matcher
  handOver _ request s _ := P s.matcher ∧ request.Tells s.matcher

namespace Enduring

variable {c : Call} {m : Matcher}

theorem drifted (enduring : Enduring H P) {s s' : Logged} (hp : P s.matcher)
    (hd : Relation.ReflTransGen H.drifts s s') : P s'.matcher := by
  have ⟨hm, _⟩ := enduring.toReserved.drifted hd
  exact hm ▸ hp

abbrev Keeps (H : Host Job) (P : Matcher → Prop) (c : Call) (step : Step Job α) : Prop :=
  Preserves H (placing Job P) c (fun s _ => P s.matcher) step

theorem ensures_ask (enduring : Enduring H P) {request : Request Job} (hr : ∀ op, request ≠ .telemetry op) {s : Logged}
    {h : Past Job} (hp : P s.matcher) (tells : request.Tells s.matcher) :
    Ensures H (placing Job P) c (ask request) (fun _ s' _ => P s'.matcher) s h := by
  refine (Matcher.ensures_ask hr).mpr ⟨⟨hp, tells⟩, fun reply s' h' _ meanwhile => ?_⟩
  by_cases opens : H.Opens c request
  case pos => exact meanwhile.opened opens
  case neg => exact enduring.drifted hp (meanwhile.closed opens).left

theorem keeps_ask (enduring : Enduring H P) {request : Request Job} (hr : ∀ op, request ≠ .telemetry op)
    (tells : ∀ m, request.Tells m) : Keeps H P c (ask request) :=
  fun _ _ hp => enduring.ensures_ask hr hp (tells _)

theorem keeps_telemetry (op : Telemetry.Op) : Keeps H P c (askTelemetry op : Step Job op.Answer) := fun _ _ hp => hp

abbrev Remains (H : Host Job) (P : Matcher → Prop) (c : Call) (m : Matcher) (step : Step Job α) : Prop :=
  Preserves H (placing Job P) c (fun s _ => SamePlace m s.matcher) step

theorem remains_ask (enduring : Enduring H P) (hp : P m) {request : Request Job} (plain : request.IsPlain) :
    Remains H P c m (ask request) := by
  intro s h same
  have shut : ¬H.Opens c request := by
    intro opens
    have shown := enduring.opens c request opens
    cases request <;> first | exact plain | exact shown
  have tells : request.Tells s.matcher := by cases request <;> first | exact plain.elim | trivial
  refine ensures_closed enduring.toReserved (by rintro op rfl; exact plain) shut ⟨enduring.stays hp same, tells⟩ ?_
  intro reply t _ _
  exact same

theorem remains_cancelTimer (enduring : Enduring H P) (hp : P m) : Remains H P c m (cancelTimer : Step Job Unit) := by
  refine .bind (fun _ _ same => ⟨same.keymap, same.path, same.typed⟩) fun _ => .bind .get fun m' => ?_
  cases m'.timer with
  | none => exact .pure ()
  | some timer =>
    exact .bind (fun _ _ same => ⟨same.keymap, same.path, same.typed⟩) fun _ => enduring.remains_ask hp trivial

theorem remains_startTimer (enduring : Enduring H P) (hp : P m) (action : Action) :
    Remains H P c m (startTimer action : Step Job Unit) :=
  .bind (enduring.remains_cancelTimer hp) fun _ => .bind .get fun _ => .bind (enduring.remains_ask hp trivial) fun _ =>
    fun _ _ same => ⟨same.keymap, same.path, same.typed⟩

variable {s : Logged} {h : Past Job}

theorem ensures_clear (enduring : Enduring H P) (hp : P s.matcher) : Ensures H (placing Job P) c clear (fun outcome s' _ =>
    P s'.matcher ∧ (outcome = .ok () → s'.matcher.typed = [])) s h := by
  refine ensures_bind.mpr ((enduring.remains_cancelTimer hp s h (.refl _)).mono fun outcome s' h' same => ?_)
  cases outcome with
  | ok _ =>
    have back : SamePlace (cleared s.matcher) { s'.matcher with path := [], typed := [] } := ⟨same.keymap, rfl, rfl⟩
    exact ⟨enduring.stays (enduring.clears hp) back, fun _ => rfl⟩
  | error f => exact ⟨enduring.stays hp same, nofun⟩

theorem ensures_reset (enduring : Enduring H P) (hp : P s.matcher) : Ensures H (placing Job P) c reset (fun outcome s' _ =>
    P s'.matcher ∧ (outcome = .ok () → ¬H.Opens c (.publish .reset) → s'.matcher.typed = [])) s h := by
  refine ensures_get_bind.mpr (ensures_bind.mpr ((enduring.ensures_clear hp).mono ?_))
  rintro (f | _) s' h' ⟨hp, none⟩
  case error => exact ⟨hp, nofun⟩
  case ok =>
    refine ensures_ite.mpr ?_
    split
    case isFalse => exact ⟨hp, fun _ _ => none rfl⟩
    case isTrue =>
      refine (Matcher.ensures_ask (by simp)).mpr ⟨⟨hp, trivial⟩, fun reply s'' h'' _ meanwhile => ⟨?_, fun _ shut => ?_⟩⟩
      case refine_1 =>
        by_cases opens : H.Opens c (.publish .reset)
        case pos => exact meanwhile.opened opens
        case neg => exact enduring.drifted hp (meanwhile.closed opens).left
      case refine_2 =>
        have ⟨hm, _⟩ := enduring.toReserved.drifted (meanwhile.closed shut).left
        rw [hm]
        exact none rfl

theorem keeps_reset (enduring : Enduring H P) : Keeps H P c (reset : Step Job Unit) :=
  fun _ _ hp => (enduring.ensures_reset hp).mono fun _ _ _ after => after.left

theorem keeps_dispatch (enduring : Enduring H P) (command : String) : Keeps H P c (dispatch command : Step Job Unit) := by
  refine .bind .get fun m => .bind (fun _ _ hp => (enduring.ensures_clear hp).mono fun _ _ _ after => after.left) fun _ => ?_
  refine .bind (keeps_telemetry _) fun _ => .bind (enduring.keeps_ask (by simp) fun _ => trivial) fun _ => ?_
  exact .carryOut keeps_telemetry (fun _ => enduring.keeps_ask (by simp) fun _ => trivial)
    (enduring.keeps_ask (by simp) fun _ => trivial) fun _ => enduring.keeps_ask (by simp) fun _ => trivial

theorem keeps_abandon (enduring : Enduring H P) : Keeps H P c (abandon : Step Job Unit) :=
  .bind .get fun _ => .bind (keeps_telemetry _) fun _ => enduring.keeps_reset

theorem keeps_expire (enduring : Enduring H P) (expiry : Expiry) : Keeps H P c (expire expiry : Step Job Unit) := by
  refine .bind .get fun m => .ite (fun _ => ?_) fun _ => .pure _
  refine .bind (fun s h hp => enduring.stays hp ⟨rfl, rfl, rfl⟩) fun _ => ?_
  cases expiry.action with
  | dispatch command => exact enduring.keeps_dispatch command
  | abandon => exact enduring.keeps_abandon

theorem ensures_arrive (enduring : Enduring H P) {node : Keymap.Node} (hp : P s.matcher) (some : s.matcher.path ≠ [])
    (hn : s.matcher.keymap.root.find? s.matcher.path = .some node) :
    Ensures H (placing Job P) c (arrive node) (fun _ s' _ => P s'.matcher) s h := by
  rw [arrive]
  split
  case h_1 command _ _ => exact enduring.keeps_dispatch command s h hp
  case h_2 command leaf other =>
    refine ensures_bind.mpr ((enduring.remains_startTimer hp _ s h (.refl _)).mono fun outcome s' h' same => ?_)
    have hp := enduring.stays hp same
    cases outcome with
    | error f => exact hp
    | ok _ =>
      refine ensures_get_bind.mpr (enduring.ensures_ask (by simp) hp ?_)
      refine ⟨rfl, by rwa [same.path], node, by rwa [same.keymap, same.path], rfl, rfl, ?_⟩
      rintro ⟨ends, last⟩
      obtain ⟨command, hc⟩ := Option.isSome_iff_exists.mp ends
      exact other command hc last

theorem keeps_followOr (enduring : Enduring H P) {press : Press} {key : Key} (hk : press.toKey? = some key)
    {otherwise : Step Job Bool} (ho : Keeps H P c otherwise) : Keeps H P c (followOr press key otherwise) := by
  intro s h hp
  refine ensures_get_bind.mpr ?_
  dsimp only
  split
  case h_1 node hn =>
    refine ensures_bind.mpr ((enduring.remains_cancelTimer hp s h (.refl _)).mono fun outcome s₁ h₁ same => ?_)
    cases outcome with
    | error f => exact enduring.stays hp same
    | ok _ =>
      have plain : (Request.consume press : Request Job).IsPlain := trivial
      refine ensures_bind.mpr ((enduring.remains_ask hp plain s₁ h₁ same).mono fun outcome s₂ h₂ same => ?_)
      cases outcome with
      | error f => exact enduring.stays hp same
      | ok _ =>
        have moved : SamePlace (advanced s.matcher key) { s₂.matcher with
            path := s.matcher.path ++ [key.edge], typed := s₂.matcher.typed ++ [key] } :=
          ⟨same.keymap, rfl, by simp [advanced, same.typed]⟩
        have hp := enduring.stays (enduring.follows hp hk hn) moved
        have found : s₂.matcher.keymap.root.find? (s.matcher.path ++ [key.edge]) = .some node := by rwa [same.keymap]
        refine ensures_bind.mpr (ensures_modify.mpr (then_ok.mpr (ensures_bind.mpr ?_)))
        refine (enduring.ensures_arrive hp (by simp) found).mono fun outcome s₃ h₃ hp => ?_
        cases outcome <;> exact hp
  case h_2 => exact Preserves.ite (fun _ => .pure _) (fun _ => .bind enduring.keeps_reset fun _ => ho) s h hp

theorem keeps_handle (enduring : Enduring H P) (press : Press) : Keeps H P c (handle press : Step Job Bool) := by
  refine .ite (fun _ => .pure _) fun _ => ?_
  cases hk : press.toKey? with
  | none => exact .pure _
  | some key =>
    have follows : Keeps H P c (follow press key) :=
      enduring.keeps_followOr hk (enduring.keeps_followOr hk (.pure _))
    exact .bind .get fun _ => .around keeps_telemetry follows

theorem ensures_reload (enduring : Enduring H P) {config : Config} {s₀ : Logged} {h₀ : Past Job} (hp : P s.matcher)
    (made : H.calls (.reload config) s₀ h₀) :
    Ensures H (placing Job P) (.reload config) (reload config) (fun _ s' _ => P s'.matcher) s h := by
  refine Matcher.ensures_reload (fun _ _ _ => hp) fun keymap t hk _ _ => ?_
  refine (enduring.ensures_reset (s := ⟨s.matcher, t⟩) hp).mono fun outcome s' h' after => ?_
  have ⟨hp, dropped⟩ := after
  cases outcome with
  | ok _ => exact fun _ _ _ => enduring.reloads made hk hp (dropped rfl)
  | error f => exact hp

theorem ensures_step (enduring : Enduring H P) (hp : P s.matcher) {s₀ : Logged} {h₀ : Past Job} (made : H.calls c s₀ h₀) :
    Ensures H (placing Job P) c c.step (fun _ s' _ => P s'.matcher) s h := by
  cases c with
  | press press => exact Preserves.bind (enduring.keeps_handle press) (fun _ => .pure _) s h hp
  | expire expiry => exact Preserves.bind (enduring.keeps_expire expiry) (fun _ => .pure _) s h hp
  | reset => exact Preserves.bind enduring.keeps_reset (fun _ => .pure _) s h hp
  | close => exact Preserves.bind enduring.keeps_reset (fun _ => .pure _) s h hp
  | reload config =>
    refine ensures_bind.mpr ((enduring.ensures_reload hp made).mono fun outcome s' h' hp => ?_)
    cases outcome <;> exact hp
  | settled command outcome =>
    have settled : Keeps H P (.settled command outcome) (settled command outcome) :=
      .settled keeps_telemetry (fun _ => enduring.keeps_ask (by simp) fun _ => trivial) outcome
    exact Preserves.bind settled (fun _ => .pure _) s h hp

theorem kept (enduring : Enduring H P) : (placing Job P).Kept operate H where
  meets := fun _ _ _ made hp => enduring.ensures_step hp made
  opens := fun _ _ _ _ _ hh => hh.left
  drifts := by
    intro s s' h hd hp
    exact enduring.drifted hp (.single hd)

variable {M : Working Job}

-- A property that endures holds at all times, also while the matcher waits for an answer.
theorem at_all_times (enduring : Enduring H P) (hp : P s.matcher) (reaches : Machine.Reaches operate H ⟨s, [], []⟩ M) :
    P M.state.matcher := by
  have sound : Machine.Sound H (placing Job P) M := reaches.sound enduring.kept (.start hp)
  cases hf : M.frames with
  | nil => exact sound.resting hf
  | cons frame rest =>
    have ⟨s, h, ready, meanwhile⟩ := sound.waiting frame (by simp [hf])
    by_cases opens : H.Opens frame.call frame.request
    case pos => exact meanwhile.opened opens
    case neg => exact enduring.drifted ready.handedOver.left (meanwhile.closed opens).left

theorem reported (enduring : Enduring H P) (hp : P s.matcher) (reaches : Machine.Reaches operate H ⟨s, [], []⟩ M)
    {request : Request Job} {s₁ : Logged} {h₁ : Past Job} (hs : .asked request s₁ :: h₁ <:+ M.history) :
    P s₁.matcher ∧ request.Tells s₁.matcher := by
  have promises : Machine.Promises (placing Job P) M := reaches.promises enduring.kept (.start hp) rfl rfl
  have ⟨_, _, _, promised⟩ := promises.kept request s₁ h₁ hs
  exact promised

end Enduring

end Keychord.Matcher
