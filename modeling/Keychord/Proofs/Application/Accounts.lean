import Keychord.Proofs.Application.Execution
import Mathlib.Data.List.Infix

namespace Keychord.Scenario.App

open Session

-- What is said about commands, and the lines: each command that was dispatched has a line, in the order in which they
-- were dispatched, but for the last ones that are still owed. They are all bound, each was known, and the log has been
-- shown once for each line, with the last fifty of the lines up to there.
structure Answers (config : Config) (notices : List Notice) (lines owed : List String) : Prop where
  answered : lines ++ owed.map doneLine = (notices.filterMap Notice.dispatched?).map doneLine
  bound    : ∀ command ∈ notices.filterMap Notice.dispatched?, command ∈ config.bindings.values
  found    : .missing ∉ notices
  shown    : notices.filterMap Notice.shown? = lines.inits.tail.map fun earlier =>
    "\n".intercalate (earlier.drop (earlier.length - 50))

namespace Answers

variable {config : Config} {notices : List Notice} {lines owed : List String} {command : String}

theorem nil : Answers config [] [] [] := ⟨rfl, nofun, nofun, rfl⟩

theorem dispatch (answers : Answers config notices lines owed) (bound : command ∈ config.bindings.values) :
    Answers config (notices ++ [.dispatched command]) lines (owed ++ [command]) where
  answered := by
    have same := congrArg (· ++ [doneLine command]) answers.answered
    simpa [Notice.dispatched?] using same
  bound := by simpa [Notice.dispatched?, or_imp, forall_and, bound] using answers.bound
  found := by simpa using answers.found
  shown := List.filterMap_append.trans ((List.append_nil _).trans answers.shown)

theorem carry (answers : Answers config notices lines (command :: owed)) :
    Answers config (notices ++ [.shown (logText (lines ++ [doneLine command]))]) (lines ++ [doneLine command]) owed := by
  have same : (notices ++ [Notice.shown (logText (lines ++ [doneLine command]))]).filterMap Notice.dispatched? =
    notices.filterMap Notice.dispatched? := List.filterMap_append.trans (List.append_nil _)
  refine ⟨?_, ?_, ?_, ?_⟩
  · rw [same, ← answers.answered]
    simp
  · rw [same]
    exact answers.bound
  · simpa using answers.found
  · have later : (lines ++ [doneLine command]).inits.tail = lines.inits.tail ++ [lines ++ [doneLine command]] := by
      have some : lines.inits ≠ [] := List.ne_nil_of_mem ((List.mem_inits [] lines).mpr List.nil_prefix)
      rw [List.inits_append, List.tail_append_of_ne_nil some]
      rfl
    rw [List.filterMap_append, answers.shown, later, List.map_append]
    rfl

end Answers

def awaited? : Turn → Option String
  | .step (.matcher _ command) _ _ => some command
  | _ => none

def awaited (world : Session.World) : List String := (world.loop.getD {}).queue.filterMap awaited?

inductive Ours (config : Config) : Turn → Prop
  | begins {command : String} (bound : command ∈ config.bindings.values) :
      Ours config (.step (.matcher 0 command) (.fresh (.registry command)) false)
  | ended (command : String) : Ours config (.ended (.matcher 0 command) (.ok ()))

def Bound (config : Config) : Matcher.Action → Prop
  | .dispatch command => command ∈ config.bindings.values
  | .abandon => True

structure Scene where
  config   : Config
  keymap   : Keymap
  compiles : Keymap.compile (.text config.leader) config.timeout config.bindings = .ok keymap
  looped   : Bool
  base     : List Value

structure Live (S : Scene) (world : Session.World) : Prop extends Ready S.config world where
  clockwork : world.clockwork = .hostWidget
  patience  : world.patience = 2
  seats     : ∃ m, world.seats = [⟨m, some 1⟩] ∧ m.keymap = S.keymap
  hosted    : ∀ callback ∈ world.hosted, callback.seat = 0 ∧ Bound S.config callback.expiry.action
  loop      : world.loop.isSome = S.looped
  queue     : ∀ turn ∈ (world.loop.getD {}).queue, Ours S.config turn

def Accounts (S : Scene) (owed : List String) (world : Session.World) : Prop :=
  ∃ added, world.journal.entries = S.base ++ added ∧
    Answers S.config (added.filterMap Notice.of?) world.lines (awaited world ++ owed)

structure Sound (S : Scene) (owed : List String) (world : Session.World) : Prop where
  live     : Live S world
  accounts : Accounts S owed world

variable {S : Scene} {owed : List String} {command : String} {world world' : Session.World}

theorem Live.enqueue (live : Live S world) {turn : Turn} (ours : Ours S.config turn) :
    Live S (world.enqueue turn) := by
  refine { live with loop := Option.isSome_map.trans live.loop, queue := fun turn' ht => ?_ }
  cases running : world.loop with
  | none => simp [World.enqueue, running] at ht
  | some loop =>
    have here : turn' ∈ (world.loop.getD {}).queue ∨ turn' = turn := by simpa [World.enqueue, running] using ht
    obtain ht | rfl := here
    · exact live.queue turn' ht
    · exact ours

theorem awaited_enqueue {loop : Loop} (running : world.loop = some loop) (turn : Turn) :
    awaited (world.enqueue turn) = awaited world ++ (awaited? turn).toList := by
  have queued : ((world.enqueue turn).loop.getD {}).queue = (world.loop.getD {}).queue ++ [turn] := by
    rw [World.enqueue, running]
    rfl
  rw [awaited, queued, List.filterMap_append]
  cases h : awaited? turn <;> simp [awaited, h]

namespace Sound

theorem tells (sound : Sound S owed world) (tells : world.Tells [] world') :
    Sound S owed world' := by
  obtain ⟨live, added, entries, answers⟩ := sound
  obtain ⟨journal, rfl, recording, more, entered, said⟩ := tells
  refine ⟨{ live with recording := recording }, added ++ more, ?_, ?_⟩
  · rw [entered, entries, List.append_assoc]
  · rw [List.filterMap_append, said, List.append_nil]
    exact answers

theorem dispatch (sound : Sound S owed world) (tells : world.Tells [.dispatched command] world')
    (bound : command ∈ S.config.bindings.values) : Sound S (owed ++ [command]) world' := by
  obtain ⟨live, added, entries, answers⟩ := sound
  obtain ⟨journal, rfl, recording, more, entered, said⟩ := tells
  refine ⟨{ live with recording := recording }, added ++ more, ?_, ?_⟩
  · rw [entered, entries, List.append_assoc]
  · rw [List.filterMap_append, said, ← List.append_assoc]
    exact answers.dispatch bound

theorem carries (sound : Sound S (command :: owed) world) (idle : awaited world = [])
    (carries : Carries command world world') : Sound S owed world' ∧ awaited world' = [] := by
  obtain ⟨live, added, entries, answers⟩ := sound
  obtain ⟨journal, rfl, recording, more, entered, said⟩ := carries
  rw [idle] at answers
  refine ⟨⟨{ live with recording := recording }, added ++ more, ?_, ?_⟩, idle⟩
  · rw [entered, entries, List.append_assoc]
  · have idle' : awaited { world with journal := journal, lines := world.lines ++ [doneLine command] } = [] := idle
    rw [List.filterMap_append, said, idle']
    exact answers.carry

theorem leave (sound : Sound S [command] world) {loop : Loop} (running : world.loop = some loop)
    (bound : command ∈ S.config.bindings.values) :
    Sound S [] (world.enqueue (.step (.matcher 0 command) (.fresh (.registry command)) false)) := by
  obtain ⟨live, added, entries, answers⟩ := sound
  refine ⟨live.enqueue (.begins bound), added, entries, ?_⟩
  rw [awaited_enqueue running, List.append_nil]
  exact answers

theorem report (sound : Sound S owed world) (command : String) :
    Sound S owed (world.enqueue (.ended (.matcher 0 command) (.ok ()))) ∧
      awaited (world.enqueue (.ended (.matcher 0 command) (.ok ()))) = awaited world := by
  have same : awaited (world.enqueue (.ended (.matcher 0 command) (.ok ()))) = awaited world := by
    cases running : world.loop with
    | none => rw [World.enqueue, running, Option.map_none, ← running]
    | some loop =>
      rw [awaited_enqueue running]
      exact List.append_nil _
  obtain ⟨live, added, entries, answers⟩ := sound
  refine ⟨⟨live.enqueue (.ended command), added, entries, ?_⟩, same⟩
  rw [same]
  exact answers

end Sound

theorem settle_ok (sound : Sound S [command] world) (bound : command ∈ S.config.bindings.values) :
    ∃ world', settle player 0 command (.registry command) world = (.ok (), world') ∧ Sound S [] world' ∧
      world'.seats = world.seats := by
  cases running : world.loop with
  | none =>
    have idle : awaited world = [] := by rw [awaited, running]; rfl
    have ⟨world', ended, carries⟩ := runToEnd_ok sound.live.toReady bound running sound.live.patience
    have settled : settle player 0 command (.registry command) world = runToEnd player (.registry command) world := by
      rw [settle, Action.get_bind, running]
    refine ⟨world', settled.trans ended, (sound.carries idle carries).left, ?_⟩
    obtain ⟨journal, rfl, -⟩ := carries
    rfl
  | some loop =>
    refine ⟨_, ?_, sound.leave running bound, rfl⟩
    rw [settle, Action.get_bind, running]
    rfl

theorem takeTurns_ok {turns : List Turn} (ours : ∀ turn ∈ turns, Ours S.config turn) {world : Session.World}
    (sound : Sound S (turns.filterMap awaited?) world) (idle : awaited world = []) :
    ∃ world', takeTurns player turns world = (.ok (), world') ∧ Sound S [] world' ∧ awaited world' = [] := by
  induction turns generalizing world with
  | nil => exact ⟨world, rfl, sound, idle⟩
  | cons turn rest ih =>
    have ⟨first, others⟩ := List.forall_mem_cons.mp ours
    cases first with
    | @begins command bound =>
      have ⟨world₁, taken, carries⟩ := takeTurn_step sound.live.toReady bound (.matcher 0 command)
      have ⟨sound₁, idle₁⟩ := sound.carries idle carries
      have ⟨sound₂, same⟩ := sound₁.report command
      obtain ⟨world', later, sound', idle'⟩ := ih others sound₂ (same.trans idle₁)
      exact ⟨world', (Action.bind_ok taken).trans later, sound', idle'⟩
    | ended command =>
      obtain ⟨world', later, sound', idle'⟩ := ih others sound idle
      have told : takeTurn player (.ended (.matcher 0 command) (.ok ())) world =
        (.ok (), world.setMatcher 0 (world.matcher 0)) := rfl
      rw [World.setMatcher_matcher] at told
      exact ⟨world', (Action.bind_ok told).trans later, sound', idle'⟩

theorem round_ok (sound : Sound S [] world) :
    ∃ world', round player world = (.ok (), world') ∧ Sound S [] world' ∧ awaited world' = [] := by
  cases running : world.loop with
  | none =>
    have empty : (world.loop.getD {}).queue = [] := by rw [running]; rfl
    exact ⟨world, round_idle empty, sound, congrArg (List.filterMap awaited?) empty⟩
  | some loop =>
    have here : (world.loop.getD {}).queue = loop.queue := by rw [running]; rfl
    have ours := here ▸ sound.live.queue
    have emptied : Sound S (loop.queue.filterMap awaited?) { world with loop := some { loop with queue := [] } } := by
      obtain ⟨live, added, entries, answers⟩ := sound
      have runs : true = S.looped := by rw [← live.loop, running]; rfl
      refine ⟨{ live with loop := runs, queue := nofun }, added, entries, ?_⟩
      rw [awaited, here, List.append_nil] at answers
      exact answers
    rw [round_of_loop running]
    exact takeTurns_ok ours emptied rfl

end Keychord.Scenario.App
