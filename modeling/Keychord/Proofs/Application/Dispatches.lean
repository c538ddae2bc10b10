import Keychord.Proofs.Application.Mounting

namespace Keychord.Scenario.App

open Session

-- What happens to the application: a key is typed, a timer goes off that was set, or the loop takes a round.
inductive Happening
  | key (name : String) (character : Option String) (focus : Option Terminal.Widget)
  | fire (timer : Int)
  | round

def Happening.act : Happening → Action State Value
  | key name character focus => perform (.key name character focus)
  | fire timer => perform (.fire timer)
  | round => do
    inWorld (Session.round player)
    return .null

def after (app : State) (happenings : List Happening) : State :=
  happenings.foldl (fun app happening => (happening.act app).2) app

variable {S : Scene} {journal : Journal} {config : Config} {keymap : Keymap} {app : State}
  {happening : Happening}

theorem mem_of_hosted? {world : Session.World} {timer : Int}
    {callback : Callback} (set : world.hosted? timer = some callback) :
    callback ∈ world.hosted := by
  cases timer with
  | ofNat n => exact List.mem_of_getElem? set
  | negSucc n => exact List.mem_reverse.mp (List.mem_of_getElem? set)

theorem Unmounted.act (unmounted : Unmounted app) (happening : Happening) : (happening.act app).2 = app := by
  obtain ⟨config, world, seat⟩ := app
  obtain ⟨none, timed, queue⟩ := unmounted
  obtain rfl : seat = .none := none
  cases happening with
  | key name character focus => rfl
  | fire timer =>
    cases set : world.hosted? timer with
    | some callback =>
      have set := mem_of_hosted? set
      rw [timed] at set
      cases set
    | none =>
      have refused : fire player timer world = (.error .noSuchItem, world) := by
        rw [fire, Action.get_bind, set]
        rfl
      exact congrArg Prod.snd (Action.bind_error (inWorld_ok refused))
  | round => exact congrArg Prod.snd (Action.bind_ok (inWorld_ok (round_idle queue)))

abbrev Keeps {α : Type} (S : Scene) (act : Act α) : Prop :=
  act.Moves fun world world' => Sound S [] world → Sound S [] world'

section Keeps

variable {α β : Type}

theorem Keeps.bind {first : Act α} {next : α → Act β} (h₁ : Keeps S first)
    (h₂ : ∀ a, Keeps S (next a)) : Keeps S (first >>= next) :=
  Action.Moves.bind (fun _ _ _ first second sound => second (first sound)) h₁ h₂

theorem keeps_onMatcher {step : Matcher.Step Job α} (upheld : Upheld S step) :
    Keeps S (onMatcher player 0 step) := by
  intro world sound
  have ⟨m, seats, own⟩ := sound.live.seats
  have same : (world.matcher 0).keymap = S.keymap := by
    rw [World.matcher, World.seat, seats]
    exact own
  obtain ⟨m', world', fit, left⟩ := onMatcher_leads (upheld (world.matcher 0) world ⟨same, sound⟩)
  rw [left]
  exact fit.stored.left

theorem keeps_delivery (delivery : Delivery) :
    Keeps S (modify fun world => { world with delivery := delivery }) :=
  fun _ sound => ⟨{ sound.live with }, sound.accounts⟩

theorem keeps_ofExcept (outcome : Except Failure α) : Keeps S (Action.ofExcept outcome) := fun _ => id

theorem keeps_get : Keeps S (get : Act Session.World) := fun _ => id

theorem keeps_deliver (press : Press) : Keeps S (deliver player 0 press) := by
  have handles : Keeps S (onMatcher player 0 (Matcher.handle press)).attempt :=
    keeps_onMatcher (handle_upheld press)
  exact .bind keeps_get fun _ => .bind (keeps_delivery _) fun _ => .bind handles fun _ => .bind keeps_get fun _ =>
    .bind (keeps_delivery _) fun _ => .bind (keeps_ofExcept _) fun _ => keeps_ofExcept (.ok _)

theorem keeps_terminalKey (name : String) (character : Option String) (focus : Option Terminal.Widget) :
    Keeps S (terminalKey player 0 name character focus) := by
  have shows (line : String) : Keeps S (display (.log line)) := by
    intro world sound
    rw [display, Action.get_bind, sound.live.screen]
    exact sound
  exact .bind (keeps_deliver _) fun _ => .bind keeps_get fun _ => .bind (shows _) fun _ => keeps_ofExcept (.ok _)

end Keeps

theorem keeps_fire (timer : Int) : Keeps S (fire player timer) := by
  intro world sound
  rw [fire, Action.get_bind]
  cases set : world.hosted? timer with
  | none => exact sound
  | some callback =>
    obtain ⟨seat, bound⟩ := sound.live.hosted callback (mem_of_hosted? set)
    have called : callBack player callback = onMatcher player 0 (Matcher.expire callback.expiry) := by rw [callBack, seat]
    dsimp only
    rw [called]
    exact keeps_onMatcher (expire_upheld bound) world sound

structure Running (S : Scene) (app : State) : Prop where
  seat  : app.mounted = some 0
  sound : Sound S [] app.world

theorem Running.inWorld {α β : Type} {act : Act α} {next : α → β} (running : Running S app)
    (keeps : Keeps S act) :
    Running S ((App.inWorld act >>= fun a => pure (next a) : Action State β) app).2 := by
  have sound := keeps app.world running.sound
  rcases done : act app.world with ⟨f | a, world'⟩ <;> rw [done] at sound
  case error =>
    rw [Action.bind_error (inWorld_ok done)]
    exact ⟨running.seat, sound⟩
  case ok =>
    rw [Action.bind_ok (inWorld_ok done)]
    exact ⟨running.seat, sound⟩

theorem keeps_round : Keeps S (Session.round player) := by
  intro world sound
  have ⟨world', taken, sound', _⟩ := round_ok sound
  rw [taken]
  exact sound'

theorem Running.awaited_round (running : Running S app) :
    awaited (Happening.round.act app).2.world = [] := by
  have ⟨world', taken, _, idle⟩ := round_ok running.sound
  have done : Happening.round.act app = (.ok .null, { app with world := world' }) := Action.bind_ok (inWorld_ok taken)
  rw [done]
  exact idle

theorem Running.act (running : Running S app) (happening : Happening) : Running S (happening.act app).2 := by
  cases happening with
  | key name character focus =>
    have typed : perform (.key name character focus) app = (if quitKeys.contains name then return .list [] else do
        let handled ← App.inWorld (terminalKey player 0 name character focus)
        return .list ((if handled then handledCalls else []).map .text) : Action State Value) app := by
      rw [perform, Action.get_bind, running.seat]
    rw [Happening.act, typed]
    split
    case isTrue => exact running
    case isFalse => exact running.inWorld (keeps_terminalKey name character focus)
  | fire timer => exact running.inWorld (keeps_fire timer)
  | round => exact running.inWorld keeps_round

theorem Unmounted.after (unmounted : Unmounted app) (happenings : List Happening) : App.after app happenings = app := by
  induction happenings with
  | nil => rfl
  | cons happening rest ih => rw [App.after, List.foldl_cons, unmounted.act happening, ← App.after, ih]

theorem Running.after (running : Running S app) (happenings : List Happening) :
    Running S (App.after app happenings) := by
  induction happenings generalizing app with
  | nil => exact running
  | cons happening rest ih => exact ih (running.act happening)

theorem Running.awaited_after (running : Running S app) {happenings : List Happening}
    (done : S.looped = false ∨ happenings.getLast? = some .round) : awaited (App.after app happenings).world = [] := by
  obtain still | last := done
  · have alone : (App.after app happenings).world.loop = none :=
      Option.isNone_iff_eq_none.mp (Option.isSome_eq_false_iff.mp ((running.after happenings).sound.live.loop.trans still))
    rw [awaited, alone]
    rfl
  · obtain ⟨earlier, rfl⟩ := List.getLast?_eq_some_iff.mp last
    rw [App.after, List.foldl_concat]
    exact (running.after earlier).awaited_round

-- What has been said about commands since the application was mounted, its lines, and the commands that are owed one.
theorem dispatches_answered (compiles : Keymap.compile (.text config.leader) config.timeout config.bindings = .ok keymap)
    (traced : journal.traced = true) (coherent : journal.telemetry.Coherent) :
    let known := (start journal config).world.commandRegistry.all.map CommandInfo.id
    (known.Nodup ∧ ∀ command, command ∈ known ↔ command ∈ config.bindings.values) ∧
      ∀ looped happenings, ∃ added,
        let before := mounted journal config looped
        let now := after before happenings
        now.world.journal.entries = before.world.journal.entries ++ added ∧
          Answers config (added.filterMap Notice.of?) now.world.lines (awaited now.world) ∧
          (looped = false ∨ happenings.getLast? = some .round → awaited now.world = []) := by
  refine ⟨start_registered compiles, fun looped happenings => ?_⟩
  obtain ⟨silent, idle, unmounted | ⟨seat, live⟩⟩ := mount_cases compiles traced coherent looped
  case inl =>
    refine ⟨[], ?_⟩
    dsimp only
    rw [unmounted.after happenings, silent, idle]
    exact ⟨(List.append_nil _).symm, .nil, fun _ => rfl⟩
  case inr =>
    have opened : Answers config [] (mounted journal config looped).world.lines
        (awaited (mounted journal config looped).world) := by
      rw [silent, idle]
      exact .nil
    let scene : Scene := ⟨config, keymap, compiles, looped, (mounted journal config looped).world.journal.entries⟩
    have running : Running scene (mounted journal config looped) :=
      ⟨seat, live _, [], (List.append_nil _).symm, (List.append_nil _).symm ▸ opened⟩
    obtain ⟨added, entries, answers⟩ := (running.after happenings).sound.accounts
    rw [List.append_nil] at answers
    exact ⟨added, entries, answers, running.awaited_after⟩

def chords : Config := ⟨" ", 500, ⟨[("gd", "graph.delete"), ("gdd", "graph.clear")]⟩⟩

def typing : List Happening :=
  [.key "g" (some "g") none, .key "d" (some "d") none, .fire 1, .key "g" (some "g") none, .key "d" (some "d") none,
    .key "d" (some "d") none]

theorem dispatches_answered_chords : ∃ added,
    let now := after (mounted { traced := true } chords true) (typing ++ [.round])
    now.world.journal.entries = (mounted { traced := true } chords true).world.journal.entries ++ added ∧
      (after (mounted { traced := true } chords true) typing).world.lines = [] ∧
      now.world.lines = ["graph.delete [ok]", "graph.clear [ok]"] ∧ awaited now.world = [] ∧
      Answers chords (added.filterMap Notice.of?) now.world.lines [] := by
  have ⟨keymap, compiles⟩ : ∃ keymap, Keymap.compile (.text chords.leader) chords.timeout chords.bindings = .ok keymap :=
    Keymap.isOk_iff.mp (by decide +kernel)
  have traced : ({ traced := true } : Journal).traced := rfl
  have ⟨_, answered⟩ := dispatches_answered compiles traced (.inr rfl)
  obtain ⟨added, entries, answers, done⟩ := answered true (typing ++ [.round])
  have idle := done (.inr (by simp))
  rw [idle] at answers
  have waiting : (after (mounted { traced := true } chords true) typing).world.lines = [] := by decide +kernel
  have lines : (after (mounted { traced := true } chords true) (typing ++ [.round])).world.lines =
    ["graph.delete [ok]", "graph.clear [ok]"] := by decide +kernel
  exact ⟨added, entries, waiting, lines, idle, answers⟩

end Keychord.Scenario.App
