import Keychord.Proofs.Matcher.Consumption
import Keychord.Proofs.Matcher.Upkeep

namespace Keychord.Matcher

variable {Job α : Type} {H : Host Job} {m : Matcher} {press : Press} {key : Key}

structure Taken (press : Press) (h : Past Job) : Prop where
  consumed : Past.consumed h = [press]
  kept     : ∀ s, .asked (.publish .reset) s ∉ h

-- What has become of a key that follows the keys of a matcher: the longer sequence was reported from where it leads, its
-- command was announced, or the time to wait for more was refused.
inductive Followed (m : Matcher) (key : Key) (h : Past Job) : Prop
  | reported {s : Logged} {keys : String} {command : Option String} {next : List Edge}
      (asked : .asked (.publish (.pending keys command next)) s ∈ h) (shown : keys = Notation.write (m.typed ++ [key]))
      (path : s.matcher.path = m.path ++ [key.edge])
  | announced {s : Logged} {command keys : String} {node : Keymap.Node}
      (asked : .asked (.publish (.dispatch command keys)) s ∈ h) (shown : keys = Notation.write (m.typed ++ [key]))
      (found : m.keymap.root.find? (m.path ++ [key.edge]) = some node) (bound : node.command = some command)
  | refused {delay : Int} {expiry : Expiry} {f : Failure} (answered : .answered (.arm delay expiry) (.error f) ∈ h)

structure Past.Extends (m : Matcher) (press : Press) (key : Key) (h : Past Job) : Prop where
  taken    : Taken press h
  followed : Followed m key h

def Request.IsHarmless : Request Job → Prop
  | .consume _ | .publish .reset => False
  | _ => True

section Sights

variable {request : Request Job} {s : Logged} {h h' : Past Job}

theorem Taken.asked (taken : Taken press h) (harmless : request.IsHarmless) : Taken press (.asked request s :: h) where
  consumed := by
    cases request with
    | consume => exact harmless.elim
    | _ => exact taken.consumed
  kept := by
    intro s hm
    cases List.mem_cons.mp hm
    case inl he => cases he; exact harmless
    case inr hm => exact taken.kept s hm

theorem Taken.answered {reply : Except Failure ((surroundings Job).Answer request)} (taken : Taken press h) :
    Taken press (.answered request reply :: h) :=
  ⟨taken.consumed, by simpa using taken.kept⟩

theorem Taken.disarmed (taken : Taken press h) (hd : Disarmed s h h') : Taken press h' := by
  cases hd with
  | none => exact taken
  | some timer reply => exact .answered (.asked taken trivial)

theorem Followed.mono (followed : Followed m key h) (hs : h ⊆ h') : Followed m key h' := by
  cases followed with
  | reported asked shown path => exact .reported (hs asked) shown path
  | announced asked shown found bound => exact .announced (hs asked) shown found bound
  | refused answered => exact .refused (hs answered)

namespace Past.Extends

theorem asked (longer : Extends m press key h) (harmless : request.IsHarmless) :
    Extends m press key (.asked request s :: h) :=
  ⟨longer.taken.asked harmless, longer.followed.mono (List.subset_cons_self _ _)⟩

theorem answered {reply : Except Failure ((surroundings Job).Answer request)} (longer : Extends m press key h) :
    Extends m press key (.answered request reply :: h) :=
  ⟨longer.taken.answered, longer.followed.mono (List.subset_cons_self _ _)⟩

end Past.Extends

end Sights

structure Host.Commanded (H : Host Job) : Prop extends H.Dependable where
  commands : ∀ c request, H.Opens c request → request.IsCommand

abbrev Host.extending (H : Host Job) (m : Matcher) (press : Press) (key : Key) : Pledge Job :=
  H.upholding Awake (Past.Extends m press key)

section Steps

variable {c : Call} {s : Logged} {h : Past Job}

theorem Host.Commanded.discreet (commanded : H.Commanded) : (H.extending m press key).Discreet :=
  fun c request _ _ hidden opens => absurd (commanded.opens c request opens) hidden

abbrev Lasts (H : Host Job) (m : Matcher) (press : Press) (key : Key) (c : Call) (step : Step Job α) : Prop :=
  Preserves H (H.extending m press key) c (fun s h => Awake s ∧ Past.Extends m press key h) step

theorem lasts_ask (commanded : H.Commanded) {request : Request Job} (hr : ∀ op, request ≠ .telemetry op)
    (harmless : request.IsHarmless) : Lasts H m press key c (ask request) := by
  intro s h ⟨awake, longer⟩
  refine (ensures_ask hr).mpr ⟨fun _ => ⟨awake, longer.asked harmless⟩, fun reply s' h' _ meanwhile => ?_⟩
  by_cases opens : H.Opens c request
  case pos =>
    have ⟨awake, longer⟩ := meanwhile.opened opens
    exact ⟨awake, longer.answered⟩
  case neg =>
    have ⟨hd, same⟩ := meanwhile.closed opens
    have ⟨_, ha⟩ := commanded.toReserved.drifted hd
    exact ⟨ha.active awake, same ▸ .answered (.asked longer harmless)⟩

theorem lasts_telemetry (op : Telemetry.Op) : Lasts H m press key c (askTelemetry op : Step Job op.Answer) :=
  fun _ _ ⟨awake, longer⟩ => ensures_performed fun _ _ _ ha => ⟨ha.active awake, longer⟩

theorem extends_dispatch (commanded : H.Commanded) {node : Keymap.Node} {command : String} (awake : Awake s)
    (taken : Taken press h) (typed : s.matcher.typed = m.typed ++ [key])
    (found : m.keymap.root.find? (m.path ++ [key.edge]) = some node) (bound : node.command = some command) :
    Ensures H (H.extending m press key) c (dispatch command)
      (fun _ s h => Awake s ∧ Past.Extends m press key h) s h := by
  refine ensures_get_bind.mpr (ensures_bind.mpr (ensures_clear commanded.toReserved commanded.discreet ?_ ?_))
  case refine_1 =>
    intro t h' ha hd
    refine ensures_bind.mpr (ensures_record (ha.active awake) "keys.dispatch" (by decide) (by simp) fun t' ha' => ?_)
    have shut : ¬H.Opens c (.publish (.dispatch command s.matcher.pendingDisplay)) := commanded.commands c _
    refine ensures_bind.mpr (ensures_closed commanded.toReserved (by simp) shut (fun opens => absurd opens shut) ?_)
    intro reply t'' given ha''
    obtain rfl := commanded.publish _ reply given
    have shown : s.matcher.pendingDisplay = Notation.write (m.typed ++ [key]) := by rw [pendingDisplay, typed]
    refine Preserves.carryOut lasts_telemetry (fun _ => lasts_ask commanded (by simp) trivial)
      (lasts_ask commanded (by simp) trivial) (fun _ => lasts_ask commanded (by simp) trivial) _ _ ?_
    exact ⟨ha''.active (ha'.active (ha.active awake)), .answered (.asked (taken.disarmed hd) trivial),
      .announced (List.mem_cons_of_mem _ List.mem_cons_self) shown found bound⟩
  case refine_2 =>
    intro f t h' failed
    exact absurd (commanded.disarms failed) nofun

theorem extends_arrive (commanded : H.Commanded) {node : Keymap.Node} (awake : Awake s) (taken : Taken press h)
    (path : s.matcher.path = m.path ++ [key.edge]) (typed : s.matcher.typed = m.typed ++ [key])
    (found : m.keymap.root.find? (m.path ++ [key.edge]) = some node) :
    Ensures H (H.extending m press key) c (arrive node) (fun _ s h => Awake s ∧ Past.Extends m press key h) s h := by
  rw [arrive]
  split
  case h_1 command bound _ => exact extends_dispatch commanded awake taken typed found bound
  case h_2 command leaf _ =>
    refine ensures_bind.mpr (ensures_startTimer commanded.toReserved commanded.discreet ?_ ?_)
    case refine_1 =>
      intro f t h' failed
      cases commanded.disarms failed
    case refine_2 =>
      intro reply t t' h' _ ha ha' hd
      have awake : t'.active.isSome := ha'.active (ha.active awake)
      cases reply with
      | error f => exact ⟨awake, .answered (.asked (taken.disarmed hd) trivial), .refused List.mem_cons_self⟩
      | ok timer =>
        have shut (event : Event) : ¬H.Opens c (.publish event) := commanded.commands c _
        refine ensures_get_bind.mpr (ensures_closed commanded.toReserved (by simp) (shut _)
          (fun opens => absurd opens (shut _)) fun reply t'' _ ha'' => ?_)
        have shown : Notation.write s.matcher.typed = Notation.write (m.typed ++ [key]) := by rw [typed]
        exact ⟨ha''.active awake, .answered (.asked (.answered (.asked (taken.disarmed hd) trivial)) trivial),
          .reported (List.mem_cons_of_mem _ List.mem_cons_self) shown path⟩

theorem extends_followOr (commanded : H.Commanded) {node : Keymap.Node} {otherwise : Step Job Bool} (awake : Awake s)
    (consumed : Past.consumed h = []) (kept : ∀ s, .asked (.publish .reset) s ∉ h)
    (found : s.matcher.keymap.root.find? (s.matcher.path ++ [key.edge]) = some node) :
    Ensures H (H.extending s.matcher press key) c (followOr press key otherwise) (fun outcome s' h' =>
      (Awake s' ∧ Past.Extends s.matcher press key h') ∧ ∀ handled, outcome = .ok handled → handled = true) s h := by
  refine ensures_get_bind.mpr ?_
  dsimp only
  rw [found]
  refine ensures_bind.mpr (ensures_cancelTimer commanded.toReserved commanded.discreet fun outcome t h' failed ha hd => ?_)
  obtain rfl := commanded.disarms failed
  refine ensures_bind.mpr (ensures_plain commanded.toReserved commanded.discreet (.consume press) trivial ?_)
  intro reply t' given ha'
  obtain rfl := commanded.consume press reply given
  have taken : Taken press (.asked (.consume press) ⟨released s.matcher, t⟩ :: h') := by
    cases hd with
    | none => exact ⟨congrArg (press :: ·) consumed, by simpa using kept⟩
    | some timer reply => exact ⟨congrArg (press :: ·) consumed, by simpa using kept⟩
  refine ensures_bind.mpr (ensures_modify.mpr (then_ok.mpr (ensures_bind.mpr ?_)))
  refine (extends_arrive commanded ?awake taken.answered rfl rfl found).mono ?mono
  case awake => exact ha'.active (ha.active awake)
  case mono =>
    intro outcome s' h' longer
    cases outcome with
    | ok _ => exact ⟨longer, by rintro _ ⟨⟩; rfl⟩
    | error f => exact ⟨longer, nofun⟩

theorem extends_press (commanded : H.Commanded) {node : Keymap.Node} (awake : Awake s) (filtered : ¬press.isFiltered)
    (hk : press.toKey? = some key)
    (found : s.matcher.keymap.root.find? (s.matcher.path ++ [key.edge]) = some node) :
    Ensures H (H.extending s.matcher press key) (.press press) (Call.step (.press press)) (fun outcome s' own =>
      Awake s' ∧ Past.Extends s.matcher press key own ∧ outcome ≠ .ok (some false)) s [.called (.press press) s] := by
  have handles : Ensures H (H.extending s.matcher press key) (.press press) (handle press) (fun outcome s' own =>
      (Awake s' ∧ Past.Extends s.matcher press key own) ∧ ∀ handled, outcome = .ok handled → handled = true) s
        [.called (.press press) s] := by
    rw [handle, if_neg filtered, hk]
    refine ensures_get_bind.mpr (ensures_span awake fun t ha => ?_)
    have awake : Awake ⟨s.matcher, t⟩ := ha.active awake
    refine (extends_followOr commanded awake rfl (by simp) found).mono ?_
    rintro outcome s' own ⟨⟨awake, longer⟩, handled⟩ t' ha'
    exact ⟨⟨ha'.active awake, longer⟩, handled⟩
  refine ensures_bind.mpr (handles.mono ?_)
  rintro (f | handled) s' own ⟨⟨awake, longer⟩, useful⟩
  case error => exact ⟨awake, longer, by simp⟩
  case ok => exact ⟨awake, longer, by simp [useful handled rfl]⟩

end Steps

theorem refuses_refused (H : Host Job) : H.Refuses Refused := fun delay expiry _ before _ => ⟨delay, expiry, before, rfl⟩

theorem cancels_cancelled (H : Host Job) : H.Cancels Past.Cancelled := by
  intro request f before carries hc _
  cases request with
  | execute command => exact ⟨hc, .inl ⟨command, List.mem_cons_self⟩⟩
  | settle command job => exact ⟨hc, .inr ⟨command, job, List.mem_cons_self⟩⟩
  | _ => exact carries.elim

-- A press that has led on: it was of use, unless it failed since a timer was refused or a command cancelled.
structure LedOn (m : Matcher) (press : Press) (key : Key) (outcome : Except Failure (Option Bool)) (own : Past Job) : Prop
    extends Past.Extends m press key own where
  useful : outcome = .ok (some true) ∨ ∃ f, outcome = .error f ∧ (Refused f own ∨ Past.Cancelled f own)

-- Every press whose key leads on from where the matcher is has led on by the time that it returns.
theorem undertakes_extension (commanded : H.Commanded) {s : Logged} {M : Working Job} (awake : Awake s)
    (reaches : Machine.Reaches operate H ⟨s, [], []⟩ M) :
    Machine.Undertakes H Awake (fun u outcome _ => ∀ press key, u.call = .press press → ¬press.isFiltered →
      press.toKey? = some key → (u.state.matcher.keymap.root.find? (u.state.matcher.path ++ [key.edge])).isSome →
        LedOn u.state.matcher press key outcome u.own) M := by
  have reliable : Reliable H H.account := commanded.toDependable.reliable
  refine reaches.undertakes (fun c s h _ awake => ?_) ?_ rfl rfl awake
  case refine_1 =>
    have succeeds := Run.Meets.delivers
      (ensures_call reliable (refuses_refused H) (cancels_cancelled H) (even_nil awake) c)
    by_cases leads : ∃ press key, c = .press press ∧ ¬press.isFiltered ∧ press.toKey? = some key ∧
        (s.matcher.keymap.root.find? (s.matcher.path ++ [key.edge])).isSome
    case pos =>
      have ⟨press, key, hc, filtered, hk, found⟩ := leads
      subst hc
      have ⟨node, found⟩ := Option.isSome_iff_exists.mp found
      have led := Run.Meets.delivers (extends_press commanded awake filtered hk found)
      refine (led.and succeeds).mono ?_
      intro outcome s' own ⟨⟨awake, longer, useful⟩, _, answered⟩
      refine ⟨awake, ?_⟩
      rintro _ key' ⟨⟩ _ hk' _
      obtain rfl : key = key' := Option.some.inj (hk.symm.trans hk')
      refine ⟨longer, answered.imp_left fun ⟨handled, ho⟩ => ?_⟩
      cases handled with
      | true => exact ho
      | false => exact absurd ho useful
    case neg =>
      refine succeeds.mono fun outcome s' own ⟨even, _⟩ => ⟨even.active, fun press key hc filtered hk found => ?_⟩
      exact absurd ⟨press, key, hc, filtered, hk, found⟩ leads
  case refine_2 =>
    intro s s' hd awake
    have ⟨_, used⟩ := commanded.drifts s s' hd
    exact used.advances.active awake

end Keychord.Matcher
