import Keychord.Proofs.Key.Typing
import Keychord.Proofs.Matcher.IdleOrPending
import Keychord.Proofs.Matcher.Refinement

namespace Keychord.Matcher

open Relation (ReflTransGen)

variable {Job : Type}

namespace Table

variable {keymap : Keymap} {bindings : List Keymap.Binding} {b : Keymap.Binding} {path : List Edge}

theorem begins_of_prefix (hb : b ∈ bindings) (hp : path <+: b.edges) : (ofBindings bindings).begins path :=
  begins_iff.mpr ⟨b, hb, hp⟩

theorem extended_of_prefix (hb : b ∈ bindings) {edge : Edge} (hp : path ++ [edge] <+: b.edges) :
    (ofBindings bindings).extended path :=
  extended_iff.mpr ⟨edge, begins_of_prefix hb hp⟩

theorem command?_edges (compiled : keymap.Compiled bindings) (hb : b ∈ bindings) :
    (ofBindings bindings).command? b.edges = some b.command := by
  have found : (keymap.root.find? b.edges).isSome := (compiled.represents.found _).mpr (.inr ⟨b, hb, List.prefix_rfl⟩)
  have ⟨node, hn⟩ := Option.isSome_iff_exists.mp found
  rw [command?_eq compiled hn]
  exact (compiled.command_eq_some_iff hn).mpr ⟨b, hb, rfl, rfl⟩

end Table

namespace Reference

variable {table : Table} {keymap : Keymap} {bindings : List Keymap.Binding} {b : Keymap.Binding} {r : Reference}
  {press : Press} {presses : List Press} {key : Key} {keys : List Key} {path : List Edge}

def pressed (table : Table) (presses : List Press) (r : Reference) : Reference :=
  presses.foldl (fun r press => r.step table (.press press)) r

theorem pressed_cons : r.pressed table (press :: presses) = (r.step table (.press press)).pressed table presses := rfl

theorem run_presses (table : Table) (presses : List Press) (calls : List Call) :
    run table ((presses.map Call.press).reverse ++ calls) = (run table calls).pressed table presses := by
  simp [run, pressed, List.foldl_map]

theorem press_of_types (types : press.Types key) : r.press table press = r.key table key.edge := by
  have ⟨key', hk, edge⟩ := Option.map_eq_some_iff.mp types.edge
  rw [Reference.press, if_neg types.unfiltered, hk, ← edge]

theorem step_of_types (types : press.Types key) (hb : table.begins (r.path ++ [key.edge])) :
    (r.step table (.press press)).path = (r.arrive table (r.path ++ [key.edge])).path ∧
      (r.step table (.press press)).commands = (r.arrive table (r.path ++ [key.edge])).commands := by
  rw [step, press_of_types types, Reference.key, if_pos hb]
  exact ⟨rfl, rfl⟩

theorem arrive_of_extended (h : table.extended path) :
    (r.arrive table path).path = path ∧ (r.arrive table path).commands = r.commands := by
  rw [arrive]
  cases table.command? path <;> simp [h]

theorem arrive_of_last (h : ¬table.extended path) {command : String} (hc : table.command? path = some command) :
    (r.arrive table path).path = [] ∧ (r.arrive table path).commands = command :: r.commands := by
  simp [arrive, hc, h]

-- What is left once the keys of a binding have been typed: the command has been carried out, unless a longer binding goes
-- on.
structure Completes (table : Table) (edges : List Edge) (command : String) (r r' : Reference) : Prop where
  last  : ¬table.extended edges → r'.path = [] ∧ r'.commands = command :: r.commands
  waits : table.extended edges → r'.path = edges ∧ r'.commands = r.commands

-- The keys that are left of a binding lead to its end. Those before the last one open a window, whatever is bound there.
theorem completes_pressed (compiled : keymap.Compiled bindings) (hb : b ∈ bindings)
    (types : presses.Forall₂ Press.Types keys) : ∀ {r}, keys ≠ [] → b.edges = r.path ++ keys.map Key.edge →
      Completes (.ofBindings bindings) b.edges b.command r (r.pressed (.ofBindings bindings) presses) := by
  induction types with
  | nil => intro r hn; exact absurd rfl hn
  | @cons press key presses keys type types ih =>
    intro r _ he
    have goes : r.path ++ [key.edge] <+: b.edges := ⟨keys.map Key.edge, by simp [he]⟩
    have ⟨path, commands⟩ := step_of_types type (Table.begins_of_prefix hb goes)
    cases types with
    | nil =>
      have last : b.edges = r.path ++ [key.edge] := by simp [he]
      have bound := Table.command?_edges compiled hb
      rw [last] at bound ⊢
      have one : r.pressed (.ofBindings bindings) [press] = r.step (.ofBindings bindings) (.press press) := rfl
      rw [one]
      constructor
      case last => intro hx; simp [path, commands, arrive_of_last hx bound]
      case waits => intro hx; simp [path, commands, arrive_of_extended hx]
    | @cons _ next _ _ _ _ =>
      have longer : (Table.ofBindings bindings).extended (r.path ++ [key.edge]) := by
        have goes : r.path ++ [key.edge] ++ [next.edge] <+: b.edges := ⟨_, by simp [he]; rfl⟩
        exact Table.extended_of_prefix hb goes
      have ⟨path', commands'⟩ : _ ∧ _ := arrive_of_extended (r := r) longer
      have rest := ih (r := r.step (.ofBindings bindings) (.press press)) (by simp) (by simp [path, path', he])
      rw [pressed_cons]
      constructor
      case last => intro hx; simpa [commands, commands'] using rest.last hx
      case waits => intro hx; simpa [commands, commands'] using rest.waits hx

theorem commands_expire (hn : r.path ≠ []) {command : String} (hc : table.command? r.path = some command) :
    (r.expire table).commands = command :: r.commands := by
  simp [expire, hn, hc]

end Reference

-- Calls that have been made from outside, one after the other, and have returned. Nobody has called from within, and
-- nothing but commands and telemetry can have failed.
structure Fed (calls : List Call) (M M' : Working Job) : Prop where
  reaches : Machine.Reaches operate (quietHost Job) M M'
  rest    : M'.Resting
  calls   : Past.calls M'.history = calls.reverse ++ Past.calls M.history

namespace Fed

variable {M M' M'' : Working Job} {call : Call} {calls calls' : List Call}

theorem none (rest : M.Resting) : Fed [] M M := ⟨.refl, rest, rfl⟩

theorem trans (fed : Fed calls M M') (fed' : Fed calls' M' M'') : Fed (calls ++ calls') M M'' where
  reaches := fed.reaches.trans fed'.reaches
  rest := fed'.rest
  calls := by simp [fed'.calls, fed.calls]

theorem calls_answerAll (reply : (request : Request Job) → Except Failure ((surroundings Job).Answer request))
    (run : Run (surroundings Job) Logged (Option Bool)) (h : Past Job) :
    Past.calls (run.answerAll reply h).2.2 = Past.calls h := by
  induction run generalizing h with
  | finished => rfl
  | waiting request s resume ih => exact ih _ s _

theorem serve (rest : M.Resting) (made : (quietHost Job).calls call M.state M.history) :
    Fed [call] M (Machine.serve operate calm M call) where
  reaches := Machine.Reaches.serve quietHost_calm .refl rest made
  rest := rfl
  calls := calls_answerAll calm (operate call M.state) (.called call M.state :: M.history)

theorem exists_presses (rest : M.Resting) (presses : List Press) : ∃ M', Fed (presses.map .press) M M' := by
  induction presses generalizing M with
  | nil => exact ⟨M, none rest⟩
  | cons press presses ih =>
    have first : Fed [.press press] M _ := serve rest trivial
    have ⟨M', later⟩ := ih first.rest
    exact ⟨M', first.trans later⟩

end Fed

structure Ready (map : Keymap) (s : Logged) : Prop where
  idle     : Idle s.matcher
  keymap   : s.matcher.keymap = map
  active   : s.telemetry.active.isSome
  coherent : s.telemetry.Coherent

namespace Ready

variable {keymap : Keymap} {bindings : List Keymap.Binding} {s : Logged} {M : Working Job}

theorem starts (ready : Ready keymap s) : Matches keymap {} s ([] : Past Job) := by
  have path : s.matcher.path = [] := by
    have name := ready.idle.name
    rw [stateName] at name
    split at name
    case isTrue idle => simpa [isIdle] using idle
    case isFalse => simp at name
  have typed : s.matcher.typed = [] := by simpa [pendingKeys] using ready.idle.keys
  have none : s.matcher.timer = none := by simpa [hasTimer] using ready.idle.timer
  refine ⟨⟨ready.active, ready.keymap, path, by simp [typed], rfl⟩, by simp [hasTimer, none], ?_⟩
  rintro expiry ⟨timer, ht, -⟩
  simp [none] at ht

theorem tracks (ready : Ready keymap s) (compiled : keymap.Compiled bindings)
    (reaches : Machine.Reaches operate (quietHost Job) ⟨s, [], []⟩ M) (rest : M.Resting) :
    Tracks keymap (.ofBindings bindings) M.state M.history := by
  have sound := reaches.sound (tracks_kept compiled) (.start ⟨ready.starts, .nil⟩)
  exact sound.resting rest

theorem timed (ready : Ready keymap s) (reaches : Machine.Reaches operate (quietHost Job) ⟨s, [], []⟩ M)
    (rest : M.Resting) : Timed M.state.matcher M.history := by
  have none : s.matcher.timer = none := by simpa [hasTimer] using ready.idle.timer
  have new : Timed s.matcher ([] : Past Job) := by
    constructor <;> simp [Past.armed, Past.acted, hasTimer, none]
  have sound := reaches.sound (timing_upkeep quietHost_reserved).kept (.start ⟨new, ready.coherent, by simp⟩)
  exact (sound.resting rest).left

end Ready

-- What presses do to a matcher that is not in use. The command is carried out at once, or, if the matcher waits for a
-- longer binding, at the end of the window.
structure Triggers (Job : Type) (presses : List Press) (command : String) (waits : Prop) (s : Logged) : Prop where
  typed   : ∃ M : Working Job, Fed (presses.map .press) ⟨s, [], []⟩ M
  atOnce  : ¬waits → ∀ M : Working Job, Fed (presses.map .press) ⟨s, [], []⟩ M → Past.executed M.history = [command]
  waiting : waits → ∀ M : Working Job, Fed (presses.map .press) ⟨s, [], []⟩ M → Past.executed M.history = [] ∧
    ∃ expiry M', Fed [.expire expiry] M M'
  expired : waits → ∀ (M M' : Working Job) (expiry : Expiry), Fed (presses.map .press) ⟨s, [], []⟩ M →
    Fed [.expire expiry] M M' → Past.executed M'.history = [command]

theorem Ready.triggers {keymap : Keymap} {bindings : List Keymap.Binding} {s : Logged} (ready : Ready keymap s)
    (compiled : keymap.Compiled bindings) {b : Keymap.Binding} (hb : b ∈ bindings) {presses : List Press}
    (types : presses.Forall₂ Press.Types b.keys) :
    Triggers Job presses b.command ((Table.ofBindings bindings).extended b.edges) s := by
  have some : b.keys ≠ [] := Notation.parse_ne_nil (compiled.parsed b hb)
  have completes := Reference.completes_pressed compiled hb types some (r := {}) rfl
  have reached : ∀ {M : Working Job}, Fed (presses.map .press) ⟨s, [], []⟩ M →
      Reference.run (.ofBindings bindings) (Past.calls M.history) =
        Reference.pressed (.ofBindings bindings) presses {} := by
    intro M fed
    rw [fed.calls, Reference.run_presses]
    rfl
  have follows : ∀ {M : Working Job}, Fed (presses.map .press) ⟨s, [], []⟩ M → Matches keymap
      (Reference.pressed (.ofBindings bindings) presses {}) M.state M.history := by
    intro M fed
    exact reached fed ▸ (ready.tracks compiled fed.reaches fed.rest).state
  constructor
  case typed =>
    have rest : (⟨s, [], []⟩ : Working Job).Resting := rfl
    exact Fed.exists_presses rest presses
  case atOnce =>
    intro last M fed
    rw [(follows fed).executed]
    exact (completes.last last).right
  case waiting =>
    intro waits M fed
    have ⟨path, commands⟩ := completes.waits waits
    have pending := follows fed
    have armed : M.state.matcher.hasTimer := pending.timer.mpr (by simp [path, Keymap.Binding.edges, some])
    have ⟨timer, ht⟩ := Option.isSome_iff_exists.mp armed
    have ⟨expiry, _, _, latest⟩ := (ready.timed fed.reaches fed.rest).held timer ht
    refine ⟨?_, expiry, _, Fed.serve fed.rest ⟨timer, ht, latest⟩⟩
    rw [pending.executed, commands]
  case expired =>
    intro waits M M' expiry fed fed'
    have ⟨path, commands⟩ := completes.waits waits
    have ended := (ready.tracks compiled (fed.reaches.trans fed'.reaches) fed'.rest).state.executed
    -- The callback is one step more of the reference.
    have last : Reference.run (.ofBindings bindings) (Past.calls M'.history) =
        (Reference.run (.ofBindings bindings) (Past.calls M.history)).step (.ofBindings bindings) (.expire expiry) := by
      rw [fed'.calls]
      rfl
    rw [last, reached fed] at ended
    have opened : (Reference.pressed (.ofBindings bindings) presses {}).path ≠ [] := by
      simp [path, Keymap.Binding.edges, some]
    have carried := Reference.commands_expire opened (path ▸ Table.command?_edges compiled hb)
    rw [commands] at carried
    exact ended.trans carried

section Lasting

variable {config : Config} {keymap : Keymap} {s : Logged} {M : Working Job}

def lighting (Job : Type) : Pledge Job where
  inv s _ := s.telemetry.active.isSome
  handOver _ request s _ := request.IsShown → s.telemetry.active.isSome

theorem lighting_upkeep {H : Host Job} (reserved : H.Reserved) :
    Upkeep H (lighting Job) (fun s _ => s.telemetry.active.isSome) (fun _ _ _ => True) where
  reserved := reserved
  discreet := fun _ _ _ _ hn hs => absurd hs hn
  hands := fun _ ha _ => ha
  opens := fun ho hh => hh (reserved.opens _ _ ho)
  drift := fun ha advances => advances.active ha
  passes := fun ha _ => ha
  loosen := id
  slack := fun ha advances => advances.active ha
  stuck := fun ha _ _ => ha
  clears := fun ha _ => ha
  consumes := fun ha _ _ _ _ _ _ => ha
  misses := fun ha _ _ _ => ha
  arms := fun ha _ _ _ _ _ _ => ha
  due := fun ha _ _ => ha
  ripens := fun _ _ _ _ => trivial
  found := fun _ _ _ _ => trivial
  executes := fun _ _ _ _ _ ha _ => ⟨fun _ => ha, ha⟩
  unrecorded := fun ha _ _ => ha
  reloads := fun ha _ _ => ha

theorem Made.lit (made : Made Job config s) : Lit s.telemetry ([] : Past Job) := by
  have ⟨env, t, used, finished⟩ := made
  have start : Lit t ([] : Past Job) := ⟨coherent_of_used used, by simp⟩
  have kept : (Logged.run (Call.step (.reload config) ({} : Matcher)) t).Meets (quietHost Job)
      ⟨fun s h => Lit s.telemetry h, fun _ _ s h => Lit s.telemetry h⟩ (.reload config)
      (fun _ s h => Lit s.telemetry h) [] := Logged.meets_lit quietHost_reserved (fun _ _ hi => hi) _ start
  have same : Logged.run (Call.step (.reload config) ({} : Matcher)) t = .finished (.ok none) s := finished
  rw [same] at kept
  exact kept

-- A matcher that has taken a configuration can be used again whenever it is idle, whatever has been done to it.
theorem Made.ready (made : Made Job config s) (reaches : Machine.Reaches operate (anyHost Job) ⟨s, [], []⟩ M)
    (rest : M.Resting) (idle : Idle M.state.matcher) (hk : M.state.matcher.keymap = keymap) : Ready keymap M.state := by
  have ⟨_, _, start⟩ := made.compiles
  have sound := reaches.sound (lighting_upkeep anyHost_reserved).kept (.start ⟨start.active, made.lit⟩)
  have ⟨active, lit⟩ := sound.resting rest
  exact ⟨idle, hk, active, lit.coherent⟩

end Lasting

-- A binding of a configuration that compiles can be typed if none of its keys asks for a shift that presses drop, and not
-- otherwise. However it is typed, an idle matcher with this keymap carries out the command.
theorem typed_binding {config : Config} {keymap : Keymap} {source command : String}
    (compiles : Keymap.compile (.text config.leader) config.timeout config.bindings = .ok keymap)
    (bound : (source, command) ∈ config.bindings.entries) :
    ∃ keys, Notation.parse keymap.leader source = .ok keys ∧
      ((∃ presses : List Press, presses.Forall₂ Press.Types keys) ↔ ∀ key ∈ keys, key.Typable) ∧
      ∀ presses : List Press, presses.Forall₂ Press.Types keys →
        ∀ {Job : Type} {first : Config} {s : Logged} {M : Working Job}, Made Job first s →
          Machine.Reaches operate (anyHost Job) ⟨s, [], []⟩ M → M.Resting → Idle M.state.matcher →
          M.state.matcher.keymap = keymap →
          Triggers Job presses command ((Table.ofConfig config).extended (keys.map Key.edge)) M.state := by
  have ⟨entries, _, leader, _⟩ := Keymap.compile_ok compiles
  have ⟨bindings, compiled, table⟩ := Table.ofConfig_eq compiles
  rw [← entries, ← compiled.entries] at bound
  have ⟨b, hb, row⟩ := List.mem_map.mp bound
  have named : b.source = source := congrArg Prod.fst row
  have same : b.command = command := congrArg Prod.snd row
  have parsed : Notation.parse keymap.leader source = .ok b.keys := named ▸ compiled.parsed b hb
  refine ⟨b.keys, parsed, ?_, ?_⟩
  case refine_1 => exact Key.exists_presses_iff (Notation.spelled_of_parse (Notation.spelled_of_leader leader) parsed)
  case refine_2 =>
    intro presses types Job first s M made reaches rest idle hk
    rw [table, ← same]
    exact (made.ready reaches rest idle hk).triggers compiled hb types

def extending : Config := ⟨" ", 500, ⟨[("gG", "end"), ("gGx", "cut")]⟩⟩

theorem compiles_extending : ∃ keymap,
    Keymap.compile (.text extending.leader) extending.timeout extending.bindings = .ok keymap :=
  Keymap.isOk_iff.mp (by decide +kernel)

def capitalPresses : List Press := [⟨"g", {}, none⟩, ⟨"G", {}, none⟩]

theorem parse_capital (leader : Key) :
    Notation.parse leader "gG" = .ok [Notation.literal 'g', Notation.literal 'G'] := rfl

theorem types_capital : capitalPresses.Forall₂ Press.Types [Notation.literal 'g', Notation.literal 'G'] := by
  refine .cons ⟨rfl, ?_, ?_⟩ (.cons ⟨rfl, ?_, ?_⟩ .nil)
  all_goals decide +kernel

theorem extended_capital : (Table.ofConfig extending).extended
    ([Notation.literal 'g', Notation.literal 'G'].map Key.edge) := by decide +kernel

theorem typed_binding_extending : ∃ (s : Logged) (M M' : Working Unit) (expiry : Expiry), Made Unit extending s ∧
    Fed (capitalPresses.map .press) ⟨s, [], []⟩ M ∧ Fed [.expire expiry] M M' ∧ Past.executed M'.history = ["end"] := by
  obtain ⟨keymap, compiles⟩ := compiles_extending
  have unused : ReflTransGen Telemetry.Use { environment := {} } { environment := {} } := .refl
  obtain ⟨s, made⟩ : ∃ s, Made Unit extending s :=
    made_of_compile compiles unused (.inr ⟨_, rfl⟩) (by decide +kernel) (by decide +kernel)
  obtain ⟨_, same, start⟩ := made.compiles
  cases same.symm.trans compiles
  have idle : Idle s.matcher := by
    have typed : s.matcher.typed = [] := List.map_eq_nil_iff.mp start.typed
    refine ⟨by simp [stateName, isIdle, start.path], by simp [pendingKeys, typed], mt start.timer.mp (by simp)⟩
  have bound : ("gG", "end") ∈ extending.bindings.entries := by decide
  obtain ⟨keys, parsed, _, triggers⟩ := typed_binding compiles bound
  cases parsed.symm.trans (parse_capital keymap.leader)
  have triggers := triggers capitalPresses types_capital made .refl rfl idle start.keymap
  obtain ⟨M, fed⟩ := triggers.typed
  obtain ⟨_, expiry, M', fed'⟩ := triggers.waiting extended_capital M fed
  exact ⟨s, M, M', expiry, made, fed, fed', triggers.expired extended_capital M M' expiry fed fed'⟩

def shiftedDigit : Config := ⟨" ", 500, ⟨[("<S-1>", "one")]⟩⟩

-- No press has the edge of a digit with shift.
theorem untypable_shiftedDigit : ∃ keymap keys,
    Keymap.compile (.text shiftedDigit.leader) shiftedDigit.timeout shiftedDigit.bindings = .ok keymap ∧
    ("<S-1>", "one") ∈ shiftedDigit.bindings.entries ∧ Notation.parse keymap.leader "<S-1>" = .ok keys ∧
    ¬∃ presses : List Press, presses.Forall₂ Press.Types keys := by
  have ⟨keymap, compiles⟩ : ∃ keymap,
      Keymap.compile (.text shiftedDigit.leader) shiftedDigit.timeout shiftedDigit.bindings = .ok keymap :=
    Keymap.isOk_iff.mp (by decide +kernel)
  refine ⟨keymap, [Key.ofChar '1' { shift := true }], compiles, by decide, rfl, ?_⟩
  intro ⟨presses, types⟩
  cases types with
  | cons type _ =>
    have digit : ¬('1' = ' ' ∨ Text.isLetter '1') := by decide
    exact digit (type.typable rfl '1' rfl)

end Keychord.Matcher
