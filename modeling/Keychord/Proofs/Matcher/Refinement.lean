import Keychord.Proofs.Matcher.Quiet
import Keychord.Proofs.Matcher.Reference
import Mathlib.Data.List.Forall2

namespace Keychord.Matcher

open Relation (ReflTransGen)

variable {Job α : Type}

structure Along (map : Keymap) (way : List Edge) (commands : List String) (s : Logged) (h : Past Job) : Prop where
  active   : s.telemetry.active.isSome
  keymap   : s.matcher.keymap = map
  path     : s.matcher.path = way
  typed    : s.matcher.typed.map Key.edge = way
  executed : Past.executed h = commands

-- A matcher in the state of the reference. It holds a timer just while a sequence lasts, and the callback does what
-- the node is for.
structure Matches (map : Keymap) (r : Reference) (s : Logged) (h : Past Job) : Prop
    extends Along map r.path r.commands s h where
  timer : s.matcher.hasTimer ↔ r.path ≠ []
  aimed : ∀ expiry, Holds expiry s.matcher h → expiry.generation = s.matcher.generation ∧
    ∃ node, map.root.find? r.path = some node ∧ expiry.action = node.command.elim .abandon .dispatch

section

variable {keymap : Keymap} {path : List Edge} {commands more : List String} {r : Reference} {s s' : Logged}
  {h h' : Past Job} {inv : Logged → Past Job → Prop} {c : Call}

theorem Along.clears (a : Along keymap path commands s h) (hm : s'.matcher = cleared s.matcher)
    (o : Onward s h more s' h') (hr : r.path = []) (hc : r.commands = more ++ commands) : Matches keymap r s' h' where
  active := o.active a.active
  keymap := by rw [hm]; exact a.keymap
  path := by rw [hm, hr]; rfl
  typed := by rw [hm, hr]; rfl
  executed := by rw [o.executed, a.executed, hc]
  timer := by simp [hm, hr, cleared, released, hasTimer]
  aimed := by
    rintro expiry ⟨timer, ht, -⟩
    rw [hm] at ht
    cases ht

theorem quiet_wait (a : Along keymap path r.commands s h) (hp : path ≠ []) {node : Keymap.Node}
    (hn : keymap.root.find? path = some node) : Quietly inv c (do
      startTimer (node.command.elim .abandon .dispatch)
      ask (.publish (.pending (← get).pendingDisplay node.command node.nextEdges)))
      (fun outcome s' h' => outcome = .ok () ∧ Matches keymap { r with path := path } s' h' ∧ Onward s h [] s' h')
      s h := by
  refine ensures_bind.mpr ((quiet_startTimer _).mono ?_)
  rintro _ s₁ h₁ ⟨rfl, timer, hm₁, hl₁, o₁⟩
  refine ensures_get_bind.mpr ((quiet_publish _).mono ?_)
  rintro _ s₂ h₂ ⟨rfl, hm₂, hl₂, o₂⟩
  have o := o₁.trans o₂
  have hm := hm₂.trans hm₁
  refine ⟨rfl, ⟨⟨o.active a.active, ?_, ?_, ?_, o.executed.trans a.executed⟩, ?_, ?_⟩, o⟩
  · rw [hm]; exact a.keymap
  · rw [hm]; exact a.path
  · rw [hm]; exact a.typed
  · simp [hm, hasTimer, hp]
  · rintro expiry ⟨timer', -, hl⟩
    rw [hl₂, hl₁] at hl
    cases hl
    exact ⟨by rw [hm]; rfl, node, hn, rfl⟩

theorem quiet_arrive {bindings : List Keymap.Binding} (compiled : keymap.Compiled bindings)
    (a : Along keymap path r.commands s h) (hp : path ≠ []) {node : Keymap.Node}
    (hn : keymap.root.find? path = some node) :
    Quietly inv c (arrive node) (fun outcome s' h' => Ends () h' outcome ∧
      Matches keymap (r.arrive (.ofBindings bindings) path) s' h' ∧ ∃ more, Onward s h more s' h') s h := by
  have hw : Quietly inv c (do
      startTimer (node.command.elim .abandon .dispatch)
      ask (.publish (.pending (← get).pendingDisplay node.command node.nextEdges)))
      (fun outcome s' h' => Ends () h' outcome ∧ Matches keymap { r with path := path } s' h' ∧
        ∃ more, Onward s h more s' h') s h :=
    (quiet_wait a hp hn).mono (by rintro _ s' h' ⟨rfl, hm, o⟩; exact ⟨rfl, hm, [], o⟩)
  have hx := Table.extended_iff_not_isLeaf compiled hn
  rw [Reference.arrive, Table.command?_eq compiled hn, arrive]
  cases hc : node.command with
  | none => rw [hc] at hw; exact hw
  | some command =>
    cases hl : node.isLeaf with
    | false =>
      dsimp only
      rw [if_pos (hx.mpr (by simp [hl]))]
      rw [hc] at hw
      exact hw
    | true =>
      dsimp only
      rw [if_neg (mt hx.mp (by simp [hl]))]
      refine (quiet_dispatch a.active command).mono ?_
      rintro outcome s' h' ⟨e, hm, o⟩
      exact ⟨e, a.clears hm o rfl rfl, _, o⟩

theorem quiet_followOr {bindings : List Keymap.Binding} (compiled : keymap.Compiled bindings)
    (hm : Matches keymap r s h) {press : Press} {key : Key} {otherwise : Step Job Bool} {r' : Reference × Bool}
    (hb : (Table.ofBindings bindings).begins (r.path ++ [key.edge]) →
      r' = (r.arrive (.ofBindings bindings) (r.path ++ [key.edge]), true))
    (hi : ¬(Table.ofBindings bindings).begins (r.path ++ [key.edge]) → r.path = [] → r' = (r, false))
    (ho : ¬(Table.ofBindings bindings).begins (r.path ++ [key.edge]) → r.path ≠ [] →
      ∀ s' h', Matches keymap { r with path := [] } s' h' → Quietly inv c otherwise (fun outcome s'' h'' =>
        Ends r'.2 h'' outcome ∧ Matches keymap r'.1 s'' h'' ∧ ∃ more, Onward s' h' more s'' h'') s' h') :
    Quietly inv c (followOr press key otherwise) (fun outcome s' h' => Ends r'.2 h' outcome ∧
      Matches keymap r'.1 s' h' ∧ ∃ more, Onward s h more s' h') s h := by
  have hf : (Table.ofBindings bindings).begins (r.path ++ [key.edge]) ↔
      (keymap.root.find? (r.path ++ [key.edge])).isSome := Table.begins_iff_isSome compiled (by simp)
  refine ensures_get_bind.mpr ?_
  dsimp only
  rw [hm.keymap, hm.path]
  cases hn : keymap.root.find? (r.path ++ [key.edge]) with
  | some node =>
    rw [hb (hf.mpr (by simp [hn]))]
    refine ensures_bind.mpr (quiet_cancelTimer.mono ?_)
    rintro _ s₁ h₁ ⟨rfl, hm₁, o₁⟩
    refine ensures_bind.mpr ((quiet_consume press).mono ?_)
    rintro _ s₂ h₂ ⟨rfl, hm₂, o₂⟩
    have o := o₁.trans o₂
    refine ensures_bind.mpr (ensures_modify.mpr ?_)
    have a : Along keymap (r.path ++ [key.edge]) r.commands
        { s₂ with matcher := { s₂.matcher with path := r.path ++ [key.edge], typed := s₂.matcher.typed ++ [key] } } h₂ := by
      refine ⟨o.active hm.active, ?_, rfl, ?_, o.executed.trans hm.executed⟩
      · rw [hm₂, hm₁]; exact hm.keymap
      · rw [hm₂, hm₁, List.map_append]; exact congrArg (· ++ [key.edge]) hm.typed
    refine ensures_bind.mpr ((quiet_arrive compiled a (by simp) hn).mono ?_)
    rintro outcome s₃ h₃ ⟨e, hm₃, more, o₃⟩
    have o₃ : Onward s h _ s₃ h₃ := o.trans ⟨o₃.active, o₃.grown, o₃.calls, o₃.outcomes, o₃.executed⟩
    cases outcome with
    | ok _ => exact ⟨rfl, hm₃, _, o₃⟩
    | error f => exact ⟨e, hm₃, _, o₃⟩
  | none =>
    have hn : ¬(Table.ofBindings bindings).begins (r.path ++ [key.edge]) := mt hf.mp (by simp [hn])
    have hidle : s.matcher.isIdle ↔ r.path = [] := by simp [isIdle, hm.path]
    refine ensures_ite.mpr ?_
    split
    case isTrue hp =>
      rw [hi hn (hidle.mp hp)]
      exact ⟨rfl, hm, [], .drift (.refl _)⟩
    case isFalse hp =>
      -- The keys that were pending are given up before the press goes on.
      refine ensures_bind.mpr (quiet_reset.mono ?_)
      rintro _ s₁ h₁ ⟨rfl, hm₁, o₁⟩
      have hm' : Matches keymap { r with path := [] } s₁ h₁ := hm.toAlong.clears hm₁ o₁ rfl rfl
      refine (ho hn (mt hidle.mpr hp) s₁ h₁ hm').mono ?_
      rintro outcome s₂ h₂ ⟨e, hm₂, more, o₂⟩
      exact ⟨e, hm₂, _, o₁.trans o₂⟩

theorem quiet_follow {bindings : List Keymap.Binding} (compiled : keymap.Compiled bindings)
    (hm : Matches keymap r s h) (press : Press) (key : Key) :
    Quietly inv c (follow press key) (fun outcome s' h' => Ends (r.key (.ofBindings bindings) key.edge).2 h' outcome ∧
      Matches keymap (r.key (.ofBindings bindings) key.edge).1 s' h' ∧ ∃ more, Onward s h more s' h') s h := by
  refine quiet_followOr compiled hm ?_ ?_ ?_
  case refine_1 => intro hb; rw [Reference.key, if_pos hb]
  case refine_2 =>
    intro hb hp
    rw [Reference.key, if_neg hb, if_neg (by simp [hp])]
    simp [← hp]
  case refine_3 =>
    intro hb hp s₁ h₁ hm₁
    refine quiet_followOr compiled hm₁ ?_ ?_ ?_
    case refine_1 =>
      intro hb₁
      have hb₁ : (Table.ofBindings bindings).begins [key.edge] := hb₁
      rw [Reference.key, if_neg hb, if_pos (by simp [hp, hb₁])]
      rfl
    case refine_2 =>
      intro hb₁ _
      have hb₁ : ¬(Table.ofBindings bindings).begins [key.edge] := hb₁
      rw [Reference.key, if_neg hb, if_neg (by simp [hb₁])]
    case refine_3 => exact fun _ hn => absurd rfl hn

theorem Matches.drift (hm : Matches keymap r s h) {t : Telemetry} (ht : s.telemetry.Advances t) :
    Matches keymap r ⟨s.matcher, t⟩ h :=
  ⟨⟨ht.active hm.active, hm.keymap, hm.path, hm.typed, hm.executed⟩, hm.timer, hm.aimed⟩

theorem keySpan_texts (m : Matcher) (key : Key) : ∀ e ∈ (keySpan m key).metadata.entries, e.2.text?.isSome := by
  simp [keySpan]

theorem quiet_handle {bindings : List Keymap.Binding} (compiled : keymap.Compiled bindings) (hm : Matches keymap r s h)
    (press : Press) : Quietly inv c (handle press) (fun outcome s' h' =>
      Ends (r.press (.ofBindings bindings) press).2 h' outcome ∧
        Matches keymap (r.press (.ofBindings bindings) press).1 s' h' ∧ ∃ more, Onward s h more s' h') s h := by
  have hs : Onward s h [] s h := .drift (.refl _)
  rw [Reference.press]
  refine ensures_ite.mpr ?_
  split
  case isTrue => exact ⟨rfl, hm, [], hs⟩
  case isFalse =>
    cases press.toKey? with
    | none => exact ⟨rfl, hm, [], hs⟩
    | some key =>
      obtain ⟨span, t, hp, ha⟩ := Telemetry.openSpan_ok (.inl hm.active) (keySpan_texts s.matcher key)
      refine ensures_get_bind.mpr (ensures_bind.mpr (ensures_of_perform hp ?_))
      refine ensures_bind.mpr (ensures_tryCatch.mpr ((quiet_follow compiled (hm.drift ha) press key).mono ?_))
      rintro outcome s₁ h₁ ⟨e, hm₁, more, o₁⟩
      have o₁ : Onward s h more s₁ h₁ := by
        have o := (Onward.drift ha : Onward s h [] ⟨s.matcher, t⟩ h).trans o₁
        rwa [List.append_nil] at o
      -- Nothing but a cancellation leaves the span, so it is closed without a line.
      cases outcome with
      | ok handled =>
        have hf : ∀ f ∈ (none : Option Failure), f.isCancellation := by simp
        obtain ⟨t', hp', ha'⟩ := Telemetry.closeSpan_ok span hf s₁.telemetry
        exact ensures_bind.mpr (ensures_of_perform hp' ⟨e, hm₁.drift ha', _, o₁.trans (.drift ha')⟩)
      | error f =>
        have hf : ∀ f' ∈ some f, f'.isCancellation := by rintro _ ⟨⟩; exact e.left
        obtain ⟨t', hp', ha'⟩ := Telemetry.closeSpan_ok span hf s₁.telemetry
        exact ensures_bind.mpr (ensures_of_perform hp' ⟨e, hm₁.drift ha', _, o₁.trans (.drift ha')⟩)

theorem quiet_expire {bindings : List Keymap.Binding} (compiled : keymap.Compiled bindings) (hm : Matches keymap r s h)
    {expiry : Expiry} (hh : Holds expiry s.matcher h) : Quietly inv c (expire expiry) (fun outcome s' h' =>
      Ends () h' outcome ∧ Matches keymap (r.expire (.ofBindings bindings)) s' h' ∧ ∃ more, Onward s h more s' h')
      s h := by
  obtain ⟨hg, node, hn, hx⟩ := hm.aimed expiry hh
  obtain ⟨timer, ht, -⟩ := hh
  have hp : r.path ≠ [] := hm.timer.mp (by simp [hasTimer, ht])
  have hd : Due expiry s.matcher := ⟨hg, by simp [hasTimer, ht]⟩
  have a : Along keymap r.path r.commands ⟨timedOut s.matcher, s.telemetry⟩ h :=
    ⟨hm.active, hm.keymap, hm.path, hm.typed, hm.executed⟩
  rw [Reference.expire, if_neg hp, Table.command?_eq compiled hn, Quietly, Ensures, Logged.step, expire_of_due hd, hx]
  refine ensures_bind.mpr (ensures_modify.mpr ?_)
  cases node.command with
  | some command =>
    refine (quiet_dispatch a.active command).mono ?_
    rintro outcome s' h' ⟨e, hm', o⟩
    exact ⟨e, a.clears hm' o rfl rfl, _, o.active, o.grown, o.calls, o.outcomes, o.executed⟩
  | none =>
    refine (quiet_abandon a.active).mono ?_
    rintro _ s' h' ⟨rfl, hm', o⟩
    exact ⟨rfl, a.clears hm' o rfl rfl, _, o.active, o.grown, o.calls, o.outcomes, o.executed⟩

def Answered (h : Past Job) (answers : List (Option Bool)) : Prop :=
  (Past.outcomes h).Forall₂ (fun outcome answer => Ends answer h outcome) answers

theorem Answered.eq {answers : List (Option Bool)} (ha : Answered h answers) (hn : ∀ f, ¬Past.Cancelled f h) :
    Past.outcomes h = answers.map .ok := by
  have he : (Past.outcomes h).Forall₂ (fun outcome answer => outcome = .ok answer) answers := by
    refine ha.imp fun outcome answer e => ?_
    cases outcome with
    | ok a => exact congrArg Except.ok e
    | error f => exact absurd e (hn f)
  rwa [← List.forall₂_eq_eq_eq, List.forall₂_map_right_iff]

structure Tracks (map : Keymap) (table : Table) (s : Logged) (h : Past Job) : Prop where
  state    : Matches map (Reference.run table (Past.calls h)) s h
  answered : Answered h (Reference.run table (Past.calls h)).answers

theorem Tracks.returns {table : Table} {r' : Reference} {call : Call} {answer : Option Bool}
    {outcome : Except Failure (Option Bool)} (t : Tracks keymap table s h)
    (hr : (Reference.run table (Past.calls h)).step table call =
      { r' with answers := answer :: (Reference.run table (Past.calls h)).answers })
    (e : Ends answer h' outcome) (hm : Matches keymap r' s' h') (o : Onward s (.called call s :: h) more s' h') :
    Tracks keymap table s' (.returned call outcome s' :: h') := by
  have hc : Reference.run table (Past.calls (.returned call outcome s' :: h')) =
      { r' with answers := answer :: (Reference.run table (Past.calls h)).answers } := by
    rw [← hr]
    exact congrArg (Reference.run table) o.calls
  have hg : h <:+ .returned call outcome s' :: h' := ((List.suffix_cons _ _).trans o.grown).trans (List.suffix_cons _ _)
  refine ⟨?_, ?_⟩
  case refine_1 => rw [hc]; exact ⟨⟨hm.active, hm.keymap, hm.path, hm.typed, hm.executed⟩, hm.timer, hm.aimed⟩
  case refine_2 =>
    rw [hc, Answered, show Past.outcomes (.returned call outcome s' :: h') = outcome :: Past.outcomes h from
      congrArg (outcome :: ·) o.outcomes]
    exact .cons (e.mono (List.suffix_cons _ _)) (t.answered.imp fun _ _ e => e.mono hg)

end

theorem tracks_kept {keymap : Keymap} {bindings : List Keymap.Binding} (compiled : keymap.Compiled bindings) :
    (silent (Tracks keymap (.ofBindings bindings))).Kept operate (quietHost Job) where
  meets := by
    intro call s h hc t
    have hm : Matches keymap (Reference.run (.ofBindings bindings) (Past.calls h)) s (.called call s :: h) :=
      ⟨⟨t.state.active, t.state.keymap, t.state.path, t.state.typed, t.state.executed⟩, t.state.timer, t.state.aimed⟩
    cases call with
    | press p =>
      refine ensures_bind.mpr ((quiet_handle compiled hm p).mono ?_)
      rintro outcome s' h' ⟨e, hm', more, o⟩
      cases outcome with
      | ok handled => exact t.returns rfl (congrArg some e) hm' o
      | error f => exact t.returns rfl e hm' o
    | expire expiry =>
      refine ensures_bind.mpr ((quiet_expire compiled hm hc).mono ?_)
      rintro outcome s' h' ⟨e, hm', more, o⟩
      cases outcome with
      | ok _ => exact t.returns rfl rfl hm' o
      | error f => exact t.returns rfl e hm' o
    | reset =>
      refine ensures_bind.mpr (quiet_reset.mono ?_)
      rintro _ s' h' ⟨rfl, hm', o⟩
      have hr : Matches keymap { Reference.run (.ofBindings bindings) (Past.calls h) with path := [] } s' h' :=
        hm.toAlong.clears hm' o rfl rfl
      exact t.returns rfl rfl hr o
    | close | reload | settled => exact hc.elim
  opens := by rintro _ _ _ _ ⟨_, ⟨⟩⟩
  drifts := by
    rintro s ⟨m, t⟩ h ⟨rfl, hu⟩ tracks
    exact ⟨tracks.state.drift hu.advances, tracks.answered⟩

def Made (Job : Type) (config : Config) (s : Logged) : Prop :=
  ∃ env t, ReflTransGen Telemetry.Use { environment := env } t ∧
    @operate Job (.reload config) ⟨{}, t⟩ = .finished (.ok none) s

theorem coherent_of_used {env : Environment} {t : Telemetry} (used : ReflTransGen Telemetry.Use { environment := env } t) :
    t.Coherent := by
  induction used with
  | refl => exact .inr rfl
  | tail _ use ih => exact use.advances.coherent ih

theorem Made.compiles {config : Config} {s : Logged} (made : Made Job config s) :
    ∃ keymap, Keymap.compile (.text config.leader) config.timeout config.bindings = .ok keymap ∧
      Matches keymap {} s ([] : Past Job) := by
  obtain ⟨env, t, used, finished⟩ := made
  have coherent : t.Coherent := coherent_of_used used
  have starts : Quietly (fun _ _ => True) (.reload config) (Call.step (.reload config))
      (fun outcome s h => outcome = .ok none → ∃ keymap,
        Keymap.compile (.text config.leader) config.timeout config.bindings = .ok keymap ∧ Matches keymap {} s h)
      ⟨{}, t⟩ ([] : Past Job) := by
    refine ensures_bind.mpr (ensures_bind.mpr ((ensures_compileTraced _ _ _).mono ?_))
    rintro outcome s₁ _ ⟨hm₁, rfl, -, hk⟩
    cases outcome with
    | error f => rintro ⟨⟩
    | ok keymap =>
      obtain ⟨hk, ha⟩ := hk keymap rfl
      refine ensures_bind.mpr (quiet_reset.mono ?_)
      rintro _ s₂ h₂ ⟨rfl, hm₂, o⟩
      refine ensures_bind.mpr (ensures_modify.mpr (ensures_performed fun outcome t' _ hr => ?_))
      cases outcome with
      | error f => rintro ⟨⟩
      | ok _ =>
        have a : Along keymap [] [] ⟨{ s₂.matcher with keymap := keymap, path := [] }, t'⟩ h₂ :=
          ⟨hr.active (o.active (ha coherent)), rfl, rfl, by rw [hm₂]; rfl, o.executed⟩
        refine fun _ => ⟨keymap, hk, a, ?_, ?_⟩
        case refine_1 => simp [hm₂, cleared, released, hasTimer]
        case refine_2 =>
          rintro expiry ⟨timer, ht, -⟩
          rw [hm₂] at ht
          cases ht
  have ended : (operate (.reload config) ⟨{}, t⟩ : Run (surroundings Job) Logged (Option Bool)).Meets _ _ _ _ _ := starts
  rw [finished] at ended
  exact ended rfl

theorem Made.matches {config : Config} {s : Logged} (made : Made Job config s) :
    ∃ keymap bindings, keymap.Compiled bindings ∧ Table.ofConfig config = .ofBindings bindings ∧
      Matches keymap {} s ([] : Past Job) := by
  obtain ⟨keymap, hk, hm⟩ := made.compiles
  obtain ⟨bindings, compiled, he⟩ := Table.ofConfig_eq hk
  exact ⟨keymap, bindings, compiled, he, hm⟩

def mute (Job : Type) : Pledge Job := ⟨fun _ _ => True, fun _ _ _ _ => False⟩

theorem finished_of_mute {H : Host Job} {c : Call} {run : Run (surroundings Job) Logged α}
    {Q : Except Failure α → Logged → Past Job → Prop} {h : Past Job} (m : run.Meets H (mute Job) c Q h) :
    ∃ outcome s, run = .finished outcome s ∧ Q outcome s h := by
  cases run with
  | finished outcome s => exact ⟨outcome, s, rfl, m⟩
  | waiting request s resume => exact m.left.elim

theorem reset_idle {H : Host Job} {K : Pledge Job} {c : Call} {t : Telemetry} {h : Past Job}
    {Q : Except Failure Unit → Logged → Past Job → Prop} (hq : Q (.ok ()) ⟨cleared {}, t⟩ h) :
    Ensures H K c reset Q ⟨{}, t⟩ h :=
  hq

theorem made_of_compile {config : Config} {keymap : Keymap}
    (compiles : Keymap.compile (.text config.leader) config.timeout config.bindings = .ok keymap) {env : Environment}
    {t : Telemetry} (used : ReflTransGen Telemetry.Use { environment := env } t) (able : t.Able)
    (count : (Value.int config.bindings.size).text?.isSome) (timeout : (Value.int config.timeout).text?.isSome) :
    ∃ s, Made Job config s := by
  obtain ⟨hb, ht, -⟩ := Keymap.compile_ok compiles
  obtain ⟨span, t₁, h₁, -⟩ : ∃ span t₁, Telemetry.perform
      (.openSpan (Keymap.compileSpan config.timeout config.bindings)) t = (.ok span, t₁) ∧ t.Advances t₁ :=
    Telemetry.openSpan_ok able (by simp [Keymap.compileSpan, count, timeout])
  have closes : ∀ f ∈ (none : Option Failure), f.isCancellation := by simp
  obtain ⟨t₂, h₂, ha⟩ := Telemetry.closeSpan_ok span closes t₁
  have active : t₂.active.isSome := ha.active (Telemetry.active_of_openSpan (coherent_of_used used) h₁)
  have shown : ∀ e ∈ [("bindings", Value.int keymap.bindings.size), ("timeout_ms", .int keymap.timeout)],
      e.2.text?.isSome := by simp [hb, ht, count, timeout]
  have level : Telemetry.fieldLevels.contains (Text.lower "info") := by decide
  obtain ⟨t₃, h₃, -⟩ := Telemetry.record_ok active level shown "keys.compiled"
  have ends : Ensures (quietHost Job) (mute Job) (.reload config) (Call.step (.reload config))
      (fun outcome _ _ => outcome = .ok none) ⟨{}, t⟩ [] := by
    refine ensures_bind.mpr (ensures_bind.mpr (ensures_bind.mpr (ensures_of_perform h₁ ?_)))
    refine ensures_bind.mpr (ensures_tryCatch.mpr ?_)
    rw [compiles]
    refine ensures_bind.mpr (ensures_of_perform h₂ ?_)
    exact ensures_bind.mpr (reset_idle (ensures_bind.mpr (ensures_modify.mpr (ensures_of_perform h₃ rfl))))
  obtain ⟨_, s, finished, rfl⟩ := finished_of_mute ends
  exact ⟨s, env, t, used, finished⟩

structure Conforms (M : Working Job) (r : Reference) : Prop where
  name     : M.state.matcher.stateName = if r.path = [] then "idle" else "pending"
  path     : M.state.matcher.path = r.path
  typed    : M.state.matcher.typed.map Key.edge = r.path
  timer    : M.state.matcher.hasTimer ↔ r.path ≠ []
  executed : Past.executed M.history = r.commands
  answered : Answered M.history r.answers
  returned : (∀ f, ¬Past.Cancelled f M.history) → Past.outcomes M.history = r.answers.map .ok

-- Whatever has been typed, has run out and has been reset, a matcher does what the reference does that is defined by
-- the bindings alone.
theorem refines_reference {config : Config} {s : Logged} {M : Working Job} (made : Made Job config s)
    (reaches : Machine.Reaches operate (quietHost Job) ⟨s, [], []⟩ M) (rest : M.Resting) :
    Conforms M (Reference.run (.ofConfig config) (Past.calls M.history)) := by
  obtain ⟨keymap, bindings, compiled, he, hm⟩ := made.matches
  have sound := reaches.sound (tracks_kept compiled) (.start ⟨hm, .nil⟩)
  have tracks : Tracks keymap (.ofBindings bindings) M.state M.history := sound.resting rest
  rw [he]
  refine ⟨?_, tracks.state.path, tracks.state.typed, tracks.state.timer, tracks.state.executed, tracks.answered,
    tracks.answered.eq⟩
  simp [stateName, isIdle, tracks.state.path]

def configured? (Job : Type) (config : Config) : Option Logged :=
  match @operate Job (.reload config) (fresh Job {}).state with
  | .finished (.ok none) s => some s
  | _ => none

theorem made_of_configured? {config : Config} {s : Logged} (hs : configured? Job config = some s) : Made Job config s := by
  unfold configured? at hs
  split at hs
  case h_1 s' finished => cases hs; exact ⟨{}, _, .refl, finished⟩
  case h_2 => cases hs

def started? : Option Logged := configured? Unit chord

def chorded (s : Logged) : Working Unit :=
  calmly ⟨s, [], []⟩ [.press ⟨"a", {}, none⟩, .press ⟨"b", {}, none⟩]

theorem made_of_started? {s : Logged} (hs : started? = some s) : Made Unit chord s := made_of_configured? hs

theorem reaches_chorded (s : Logged) :
    Machine.Reaches operate (quietHost Unit) ⟨s, [], []⟩ (chorded s) ∧ (chorded s).Resting := by
  have rest : (⟨s, [], []⟩ : Working Unit).Resting := rfl
  exact reaches_calmly quietHost_calm rest (by simp [quietHost])

theorem chorded_commands : started?.map (fun s =>
    (Reference.run (.ofConfig chord) (Past.calls (chorded s).history)).commands) = some ["open"] := by decide +kernel

theorem refines_reference_chorded : ∃ s, Made Unit chord s ∧ Past.executed (chorded s).history = ["open"] := by
  obtain ⟨s, hs, hc⟩ := Option.map_eq_some_iff.mp chorded_commands
  have made : Made Unit chord s := made_of_started? hs
  obtain ⟨reaches, rest⟩ := reaches_chorded s
  exact ⟨s, made, (refines_reference made reaches rest).executed.trans hc⟩

end Keychord.Matcher
