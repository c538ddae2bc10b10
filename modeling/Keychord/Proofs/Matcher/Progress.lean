import Keychord.Proofs.Key.Typing
import Keychord.Proofs.Keymap.Lookup
import Keychord.Proofs.Matcher.Extension
import Keychord.Proofs.Matcher.Place
import Keychord.Proofs.Matcher.Sequence
import Keychord.Proofs.Matcher.Standing
import Keychord.Proofs.Matcher.Typing

namespace Keychord.Matcher

variable {Job : Type} {H : Host Job}

structure Exact (leader : Key) (bindings : OrderedMap String String) (m : Matcher) (presses : List Press) (keys : String)
    (command : Option String) (next : List Edge) : Prop where
  path    : m.path = m.typed.map Key.edge
  presses : presses.map Press.toKey? = m.typed.map some
  shown   : keys = String.join (m.typed.map Notation.writeKey)
  bound   : ∀ id, command = some id ↔ ∃ b : Keymap.Binding, b.IsIn leader bindings ∧ b.edges = m.path ∧ b.command = id
  sorted  : next.Pairwise (· < ·)
  edges   : ∀ edge, edge ∈ next ↔ ∃ b : Keymap.Binding, b.IsIn leader bindings ∧ m.path ++ [edge] <+: b.edges
  goesOn  : next ≠ []

section Placement

def placement (Job : Type) : Pledge Job where
  inv s h := Placed s.matcher h
  handOver _ request s h := request.IsShown → Placed s.matcher h

theorem placement_upkeep (commanded : H.Commanded) :
    Upkeep H (placement Job) (fun s h => Placed s.matcher h) (fun _ _ _ => True) where
  reserved := commanded.toReserved
  discreet := fun _ _ _ _ hidden shown => absurd shown hidden
  hands := fun _ placed _ => placed
  opens := fun opens shown => shown (commanded.opens _ _ opens)
  drift := fun placed _ => placed
  passes := fun placed passing => placed.passes passing
  loosen := id
  slack := fun placed _ => placed
  stuck := fun placed hd _ => placed.disarmed hd
  clears := fun _ _ => .start rfl rfl
  consumes := fun placed hd _ hk hn hs _ => placed.consumes hd hk hn hs
  misses := by
    intro _ _ _ _ _ _ _ _ _ given
    cases commanded.consume _ _ given
  arms := fun placed hd _ _ _ hs _ => placed.arms hd hs
  due := fun placed _ _ => placed.timesOut
  ripens := fun _ _ _ _ => trivial
  found := fun _ _ _ _ => trivial
  executes := by
    intro call command keys s s₁ s₂ h h' h₂ _ _ _ _ _ placed _
    have asked : Placed s₂.matcher (.asked (.execute command) s₂ ::
        .answered (.publish (.dispatch command keys)) (.ok ()) :: h₂) :=
      placed.congr rfl rfl rfl fun ht => Past.sequence_asked (by simp) (placed.not_idle ht)
    exact ⟨fun _ => asked, asked⟩
  unrecorded := fun placed _ _ => placed
  reloads := by
    intro s h keymap config _ _ dropped
    have ⟨typed, _⟩ := dropped (commanded.commands _ _)
    exact .start rfl typed

end Placement

def Configured (configs : Config → Prop) (m : Matcher) : Prop :=
  ∃ config, configs config ∧ Keymap.compile (.text config.leader) config.timeout config.bindings = .ok m.keymap

theorem configured_enduring {configs : Config → Prop} (reserved : H.Reserved)
    (reloads : ∀ config s h, H.calls (.reload config) s h → configs config) : Enduring H (Configured configs) where
  toReserved := reserved
  stays := fun ⟨config, one, compiles⟩ same => ⟨config, one, same.keymap ▸ compiles⟩
  clears := id
  follows := fun configured _ _ => configured
  reloads := fun made compiles _ _ => ⟨_, reloads _ _ _ made, compiles⟩

section Reports

variable {config : Config} {m : Matcher}

theorem exact_of_tells {h : Past Job} {keys : String} {command : Option String} {next : List Edge}
    (compiles : Keymap.compile (.text config.leader) config.timeout config.bindings = .ok m.keymap)
    (placed : Placed m h) (tells : Event.Tells m (.pending keys command next)) :
    Notation.leaderOfText config.leader = .ok m.keymap.leader ∧
      Exact m.keymap.leader config.bindings m ((Past.sequence h).map Prod.snd) keys command next := by
  have ⟨same, _, leader, bindings, compiled⟩ := Keymap.compile_ok compiles
  have ⟨shown, started, node, found, bound, edges, waits⟩ := tells
  have reports := compiled.reports found
  have mem : ∀ b : Keymap.Binding, b ∈ bindings ↔ b.IsIn m.keymap.leader config.bindings := by
    intro b
    rw [← same]
    exact compiled.mem_iff
  have typed : m.typed ≠ [] := by
    intro none
    exact started (by rw [placed.path, none]; rfl)
  refine ⟨leader, placed.path, ?presses, shown, ?bound, edges ▸ reports.sorted, ?edges, ?goesOn⟩
  case presses => rw [List.map_map]; exact placed.keys typed
  case bound => simpa only [mem, bound] using reports.command
  case edges => simpa only [mem, edges] using reports.next
  case goesOn =>
    intro none
    have leaf := Keymap.Node.isLeaf_of_nextEdges (edges.symm.trans none)
    exact waits ⟨compiled.command_of_isLeaf found started leaf, leaf⟩

theorem leads_of_tells {keys : String} {command : Option String} {next : List Edge}
    (compiles : Keymap.compile (.text config.leader) config.timeout config.bindings = .ok m.keymap)
    (tells : Event.Tells m (.pending keys command next)) {press : Press} {key : Key} (untargeted : ¬press.forText)
    (hk : press.toKey? = some key) (edge : key.edge ∈ next) :
    ¬press.isFiltered ∧ (m.keymap.root.find? (m.path ++ [key.edge])).isSome := by
  have ⟨_, _, leader, bindings, compiled⟩ := Keymap.compile_ok compiles
  have ⟨_, _, node, found, _, edges, _⟩ := tells
  have ⟨b, hb, begins⟩ := ((compiled.reports found).next key.edge).mp (edges ▸ edge)
  have among : key.edge ∈ b.edges := begins.subset (by simp)
  have ⟨spelled, hs, same⟩ := List.mem_map.mp among
  have legible : spelled.Spelled :=
    Notation.spelled_of_parse (Notation.spelled_of_leader leader) (compiled.parsed b hb) spelled hs
  refine ⟨Key.not_filtered untargeted hk (legible.no_modifier_alike same.symm), ?_⟩
  exact (compiled.represents.found _).mpr (.inr ⟨b, hb, begins⟩)

end Reports

-- Surroundings that take these configurations and call anything else. Only commands call the matcher while it works.
-- Timers may be refused, commands come to any end, and all others return.
def reportingHost (Job : Type) (reloads : Config → Prop) : Host Job where
  calls call _ _ := ∀ config, call = .reload config → reloads config
  during _ request _ := request.IsCommand
  answers request reply :=
    match request with
    | .telemetry _ | .arm .. | .execute _ | .settle .. => True
    | _ => ∃ answer, reply = .ok answer
  drifts s s' := s'.matcher = s.matcher ∧ s.telemetry.Use s'.telemetry

variable {reloads : Config → Prop}

theorem reportingHost_commanded : (reportingHost Job reloads).Commanded where
  opens := by
    intro _ request ⟨_, command⟩
    cases request with
    | execute | settle => trivial
    | _ => exact command.elim
  drifts := fun _ _ hd => hd
  consume := fun _ _ ⟨_, he⟩ => he
  disarm := fun _ _ ⟨_, he⟩ => he
  publish := fun _ _ ⟨_, he⟩ => he
  commands := fun _ _ ⟨_, command⟩ => command

theorem reportingHost_calm (request : Request Job) : (reportingHost Job reloads).answers request (calm request) := by
  cases request with
  | telemetry | arm | execute | settle => trivial
  | _ => exact ⟨_, rfl⟩

structure Prompted (h : Past Job) (s : Logged) (press : Press) (key : Key) : Prop where
  toKey : press.toKey? = some key
  edge  : ∃ next, Past.standing? h = some (s, next) ∧ key.edge ∈ next

section Runs

variable {config : Config} {s s₁ : Logged} {M : Working Job} {h : Past Job} {keys : String} {command : Option String}
  {next : List Edge}

theorem reported_of_made (made : Made Job config s)
    (reaches : Machine.Reaches operate (reportingHost Job reloads) ⟨s, [], []⟩ M)
    (hs : .asked (.publish (.pending keys command next)) s₁ :: h <:+ M.history) :
    Configured (fun c => c = config ∨ reloads c) s₁.matcher ∧ Event.Tells s₁.matcher (.pending keys command next) := by
  have ⟨keymap, compiles, start⟩ := made.compiles
  have enduring : Enduring (reportingHost Job reloads) (Configured fun c => c = config ∨ reloads c) :=
    configured_enduring reportingHost_commanded.toReserved fun config _ _ calls => .inr (calls config rfl)
  exact enduring.reported ⟨config, .inl rfl, start.keymap ▸ compiles⟩ reaches hs

theorem placed_of_made (made : Made Job config s)
    (reaches : Machine.Reaches operate (reportingHost Job reloads) ⟨s, [], []⟩ M) {event : Event}
    (hs : .asked (.publish event) s₁ :: h <:+ M.history) :
    Placed s₁.matcher (.asked (.publish event) s₁ :: h) := by
  have ⟨_, _, start⟩ := made.compiles
  have typed : s.matcher.typed = [] := List.map_eq_nil_iff.mp start.typed
  have kept : (Upkeep.full (placement Job)).Kept operate (reportingHost Job reloads) :=
    (placement_upkeep reportingHost_commanded).kept
  have promises := reaches.promises kept (.start ⟨.start start.path typed, made.lit⟩) rfl rfl
  have ⟨_, _, _, handed⟩ := promises.kept _ s₁ h hs
  exact handed.left trivial

theorem leads_of_made (made : Made Job config s)
    (reaches : Machine.Reaches operate (reportingHost Job reloads) ⟨s, [], []⟩ M) {c : Call} {s₂ : Logged}
    (called : .called c s₂ :: h <:+ M.history) {press : Press} {key : Key}
    (prompted : Prompted h s₁ press key) (untargeted : ¬press.forText) :
    s₂.matcher = s₁.matcher ∧ ¬press.isFiltered ∧
      (s₂.matcher.keymap.root.find? (s₂.matcher.path ++ [key.edge])).isSome := by
  have hushed : (reportingHost Job reloads).Hushed :=
    ⟨reportingHost_commanded.toReserved, fun c event opens => reportingHost_commanded.commands c _ opens⟩
  have stands : Standing s₂ h := reaches.inv_of_called (standing_kept hushed) (.start (standing_of_none rfl)) rfl called
  have ⟨hk, next, standing, edge⟩ := prompted
  have same : s₂.matcher = s₁.matcher := stands s₁ next standing
  have ⟨keys, command, before, hs⟩ := Past.exists_report standing
  have ⟨⟨_, _, compiles⟩, tells⟩ := reported_of_made made reaches (hs.trans ((List.suffix_cons _ _).trans called))
  have ⟨filtered, found⟩ := leads_of_tells compiles tells untargeted hk edge
  exact ⟨same, filtered, same ▸ found⟩

end Runs

-- What is reported of a matcher, whatever configurations it has taken.
theorem progress_exact {config : Config} {s : Logged} {reloads : Config → Prop} {M : Working Job} (made : Made Job config s)
    (reaches : Machine.Reaches operate (reportingHost Job reloads) ⟨s, [], []⟩ M) :
    (∀ keys command next s₁ h, .asked (.publish (.pending keys command next)) s₁ :: h <:+ M.history →
      ∃ config', (config' = config ∨ reloads config') ∧
        Keymap.compile (.text config'.leader) config'.timeout config'.bindings = .ok s₁.matcher.keymap ∧
        Notation.leaderOfText config'.leader = .ok s₁.matcher.keymap.leader ∧
        Exact s₁.matcher.keymap.leader config'.bindings s₁.matcher ((Past.sequence h).map Prod.snd) keys command next) ∧
    (∀ press outcome s' before, .returned (.press press) outcome s' :: before <:+ M.history →
      ∃ u rest, History.underWay before = u :: rest ∧ u.call = .press press ∧ ∀ s₁ key,
        Prompted u.before s₁ press key → ¬press.forText →
          u.state.matcher = s₁.matcher ∧ LedOn s₁.matcher press key outcome u.own) ∧
    (M.Open (reportingHost Job reloads) → ∀ press, ∃ M' outcome s' before,
      Machine.Reaches operate (reportingHost Job reloads) M M' ∧ M'.frames = M.frames ∧
        M'.history = .returned (.press press) outcome s' :: before ∧
          .called (.press press) M.state :: M.history <:+ before) := by
  refine ⟨fun keys command next s₁ h hs => ?exact, fun press outcome s' before hs => ?leads, fun opens press => ?returns⟩
  case exact =>
    obtain ⟨⟨config', one, compiles⟩, tells⟩ := reported_of_made made reaches hs
    obtain ⟨leader, exact⟩ := exact_of_tells compiles (placed_of_made made reaches hs) tells
    have started : s₁.matcher.path ≠ [] := tells.right.left
    rw [Past.sequence_asked (by simp) (by simpa [isIdle] using started)] at exact
    exact ⟨config', one, compiles, leader, exact⟩
  case leads =>
    obtain ⟨_, _, start⟩ := made.compiles
    have undertakes := undertakes_extension reportingHost_commanded start.active reaches
    obtain ⟨u, rest, hu, hc, led, _⟩ := undertakes.returned _ _ _ _ hs
    refine ⟨u, rest, hu, hc, fun s₁ key prompted untargeted => ?_⟩
    have called : .called u.call u.state :: u.before <:+ M.history :=
      (History.called_suffix (hu ▸ List.mem_cons_self)).trans ((List.suffix_cons _ _).trans hs)
    obtain ⟨same, filtered, found⟩ := leads_of_made made reaches called prompted untargeted
    exact ⟨same, same ▸ led press key hc filtered prompted.toKey found⟩
  case returns =>
    have free : ∀ frame ∈ M.frames.head?, (reportingHost Job reloads).during frame.call frame.request (.press press) := by
      intro frame hf
      obtain ⟨_, command⟩ := opens frame hf
      exact command
    exact Machine.exists_returned reportingHost_calm free (by rintro _ ⟨⟩)

def branching : Config := ⟨" ", 500, ⟨[("ab", "open"), ("ac", "close")]⟩⟩

def nextPress (target : Option Target) : Press := ⟨"b", {}, target⟩

def advancing (target : Option Target) (s : Logged) : Working Unit :=
  .serve operate calm (calmly ⟨s, [], []⟩ [.press ⟨"a", {}, none⟩]) (.press (nextPress target))

theorem reaches_advancing (target : Option Target) (s : Logged) :
    Machine.Reaches operate (reportingHost Unit fun _ => False) ⟨s, [], []⟩ (advancing target s) := by
  have start : (⟨s, [], []⟩ : Working Unit).Resting := rfl
  have ⟨first, rest⟩ : Machine.Reaches operate (reportingHost Unit fun _ => False) ⟨s, [], []⟩
      (calmly ⟨s, [], []⟩ [.press ⟨"a", {}, none⟩]) ∧ (calmly ⟨s, [], []⟩ [.press ⟨"a", {}, none⟩]).Resting :=
    reaches_calmly reportingHost_calm start (by simp [reportingHost])
  exact .serve reportingHost_calm first rest nofun

theorem toKey?_nextPress (target : Option Target) : (nextPress target).toKey? = some (Key.ofChar 'b' {}) := by
  have same : (nextPress target).toKey? = (nextPress none).toKey? := by simp only [Press.toKey?, nextPress]
  rw [same]
  decide +kernel

def Past.offered? : Past Job → Option (List Edge)
  | .returned .. :: h => (History.underWay h).head?.bind fun u => (standing? u.before).map Prod.snd
  | _ => none

def told? (target : Option Target) : Option (Option (List Edge) × List (Except Failure (Option Bool))) :=
  (configured? Unit branching).map fun s =>
    let h := (advancing target s).history
    (Past.offered? h, Past.outcomes h)

theorem prompted_of_told {target : Option Target} {outcome : Except Failure (Option Bool)}
    {more : List (Except Failure (Option Bool))} (told : told? target = some (some ["b", "c"], outcome :: more)) :
    ∃ s s' before u rest s₁, Made Unit branching s ∧
      (advancing target s).history = .returned (.press (nextPress target)) outcome s' :: before ∧
      History.underWay before = u :: rest ∧ Prompted u.before s₁ (nextPress target) (Key.ofChar 'b' {}) := by
  have ⟨s, hs, told⟩ := Option.map_eq_some_iff.mp told
  simp only [Prod.mk.injEq] at told
  have ⟨offered, outcomes⟩ := told
  have ⟨outcome', s', before, history⟩ :=
    Machine.exists_history_serve operate calm (calmly ⟨s, [], []⟩ [.press ⟨"a", {}, none⟩]) (.press (nextPress target))
  have history : (advancing target s).history = .returned (.press (nextPress target)) outcome' s' :: before := history
  rw [history] at offered outcomes
  obtain rfl : outcome' = outcome := (List.cons.inj outcomes).left
  have ⟨u, hu, stood⟩ := Option.bind_eq_some_iff.mp offered
  have ⟨rest, underWay⟩ := List.head?_eq_some_iff.mp hu
  have ⟨⟨s₁, _⟩, standing, same⟩ := Option.map_eq_some_iff.mp stood
  obtain rfl : _ = ["b", "c"] := same
  have prompted : Prompted u.before s₁ (nextPress target) (Key.ofChar 'b' {}) :=
    ⟨toKey?_nextPress target, _, standing, by decide +kernel⟩
  exact ⟨s, s', before, u, rest, s₁, made_of_configured? hs, history, underWay, prompted⟩

theorem told_none : told? none = some (some ["b", "c"], [.ok (some true), .ok (some true)]) := by decide +kernel

theorem progress_exact_branching : ∃ (s s₁ : Logged) (u : Undertaking (surroundings Unit) Logged Call (Option Bool))
    (keys : String) (command : Option String) (next : List Edge) (before : Past Unit), Made Unit branching s ∧
    Machine.Reaches operate (reportingHost Unit fun _ => False) ⟨s, [], []⟩ (advancing none s) ∧
    Exact s₁.matcher.keymap.leader branching.bindings s₁.matcher ((Past.sequence before).map Prod.snd) keys command next ∧
    Prompted u.before s₁ (nextPress none) (Key.ofChar 'b' {}) ∧
    LedOn s₁.matcher (nextPress none) (Key.ofChar 'b' {}) (.ok (some true)) u.own := by
  have ⟨s, s', before, u, rest, s₁, made, history, underWay, prompted⟩ := prompted_of_told told_none
  have ⟨exact, leads, _⟩ := progress_exact made (reaches_advancing none s)
  have ⟨u', rest', underWay', _, led⟩ := leads _ _ _ _ ⟨[], history.symm⟩
  cases underWay.symm.trans underWay'
  have ⟨_, ledOn⟩ := led s₁ _ prompted (by decide)
  have ⟨next, standing, _⟩ := prompted.edge
  have ⟨keys, command, h, hs⟩ := Past.exists_report standing
  have seen : u.before <:+ (advancing none s).history := by
    have called := History.called_suffix (h := before) (underWay ▸ List.mem_cons_self)
    exact (List.suffix_cons _ _).trans (called.trans (history ▸ List.suffix_cons _ _))
  have ⟨config, one, _, _, exact⟩ := exact _ _ _ _ _ (hs.trans seen)
  obtain rfl : config = branching := one.resolve_right id
  exact ⟨s, s₁, u, keys, command, next, h, made, reaches_advancing none s, exact, prompted, ledOn⟩

theorem told_text : told? (some (.ofTag "INPUT")) = some (some ["b", "c"], [.ok (some false), .ok (some true)]) := by
  decide +kernel

-- A key that has been reported as the next one is left to a text control that has the focus.
theorem progress_ignored : ∃ (s s' s₁ : Logged) (u : Undertaking (surroundings Unit) Logged Call (Option Bool))
    (rest : List (Undertaking (surroundings Unit) Logged Call (Option Bool))) (before : Past Unit), Made Unit branching s ∧
    Machine.Reaches operate (reportingHost Unit fun _ => False) ⟨s, [], []⟩ (advancing (some (.ofTag "INPUT")) s) ∧
    (advancing (some (.ofTag "INPUT")) s).history =
      .returned (.press (nextPress (some (.ofTag "INPUT")))) (.ok (some false)) s' :: before ∧
    History.underWay before = u :: rest ∧
    Prompted u.before s₁ (nextPress (some (.ofTag "INPUT"))) (Key.ofChar 'b' {}) := by
  have ⟨s, s', before, u, rest, s₁, made, history, underWay, prompted⟩ := prompted_of_told told_text
  exact ⟨s, s', s₁, u, rest, before, made, reaches_advancing _ s, history, underWay, prompted⟩

end Keychord.Matcher
