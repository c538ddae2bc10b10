import Keychord.Proofs.Matcher.Polling
import Keychord.Proofs.Matcher.Telling
import Keychord.Proofs.Matcher.Unobserved
import Keychord.Terminal.Adapter

namespace Keychord.Terminal

open Matcher (Call Event Logged Request Stage operate operateBefore opening publish herald discreetHost telling Told)
open Relation (ReflTransGen)

variable {Job κ υ : Type}

def Display.keys? : Display → Option String
  | pending keys => some keys
  | _ => none

-- The keys that were shown last. The latest comes first.
def pendingLine : List Display → String
  | [] => ""
  | display :: shown => display.keys?.getD (pendingLine shown)

structure Screen (υ : Type) where
  shown : List Display := []
  own : υ

abbrev Lobby (κ υ : Type) := Bus.Hall (Observer ⊕ κ) (Screen υ)

def put (display : Display) : Action (Lobby κ υ) Unit :=
  modify fun hall => { hall with own := { hall.own with shown := display :: hall.own.shown } }

def Writes (change : String → String) (action : Action (Lobby κ υ) Unit) : Prop :=
  ∀ hall, ∃ outcome shown, action hall = (outcome, { hall with own := { hall.own with shown := shown } }) ∧
    pendingLine shown = change (pendingLine hall.own.shown) ∧ ∀ f, outcome = .error f → ¬f.isCancellation

section Writes

variable {change : String → String}

theorem writes_pure : Writes id (pure () : Action (Lobby κ υ) Unit) :=
  fun _ => ⟨_, _, rfl, rfl, nofun⟩

theorem writes_throw {f : Failure} (hf : ¬f.isCancellation) :
    Writes id (throwThe Failure f : Action (Lobby κ υ) Unit) :=
  fun _ => ⟨_, _, rfl, rfl, by rintro _ ⟨⟩; exact hf⟩

theorem writes_put (display : Display) : Writes display.keys?.getD (put display : Action (Lobby κ υ) Unit) :=
  fun _ => ⟨_, _, rfl, rfl, nofun⟩

theorem Writes.after {next : Action (Lobby κ υ) Unit} (writes : Writes change next) (display : Display) :
    Writes (fun line => change (display.keys?.getD line)) (do put display; next) := by
  intro hall
  obtain ⟨outcome, shown, hn, line, passes⟩ :=
    writes { hall with own := { hall.own with shown := display :: hall.own.shown } }
  exact ⟨outcome, shown, hn, line, passes⟩

end Writes

namespace Observer

def lineAfter (payload : Value) (line : String) : Observer → String
  | pending => if payload.isMap then (fieldText payload "keys" (.text "")).toOption.getD line else line
  | reset | dispatch => ""
  | failure => line

theorem fieldText_error {payload : Value} {name : String} {missing : Value} {f : Failure}
    (h : fieldText payload name missing = .error f) : ¬f.isCancellation := by
  rw [fieldText, Telemetry.textOf] at h
  split at h <;> cases h
  simp [Failure.isCancellation]

theorem writes_respond (payload : Value) (observer : Observer) :
    Writes (observer.lineAfter payload ·) (observer.respond put payload : Action (Lobby κ υ) Unit) := by
  cases observer with
  | pending =>
    cases hm : payload.isMap <;> simp only [respond, lineAfter, hm, ↓reduceIte, Bool.false_eq_true]
    case false => exact writes_pure
    case true =>
      cases hk : fieldText payload "keys" (.text "") with
      | ok keys => exact writes_put (.pending keys)
      | error f => exact writes_throw (fieldText_error hk)
  | reset => exact writes_put (.pending "")
  | dispatch =>
    cases hm : payload.isMap <;> simp only [respond, lineAfter, hm, ↓reduceIte, Bool.false_eq_true]
    case false => exact writes_pure.after (.pending "")
    case true =>
      cases hk : fieldText payload "command_id" (.text "") with
      | ok command => exact (writes_put (.status command)).after (.pending "")
      | error f => exact (writes_throw (fieldText_error hk)).after (.pending "")
  | failure =>
    cases hm : payload.isMap <;> simp only [respond, lineAfter, hm, ↓reduceIte, Bool.false_eq_true]
    case false => exact writes_pure
    case true =>
      cases hc : fieldText payload "command_id" .null with
      | error f => exact writes_throw (fieldText_error hc)
      | ok command =>
        cases he : fieldText payload "error" .null with
        | ok error => exact writes_put (.status _)
        | error f => exact writes_throw (fieldText_error he)

end Observer

def observersIn (subscribers : List (Observer ⊕ κ)) : List Observer := subscribers.filterMap Sum.getLeft?

structure Shows (bus : Bus (Observer ⊕ κ)) (screen : Screen υ) (keys : String) : Prop where
  attached : ∀ event, observersIn (bus.subscribersOf event) = Observer.all.filter (·.event == event)
  line     : pendingLine screen.shown = keys

theorem observersIn_subscribe (observers : List Observer) (bus : Bus (Observer ⊕ κ)) (event : String) :
    observersIn ((observers.foldl (fun bus o => bus.subscribe o.event (.inl o)) bus).subscribersOf event) =
      observersIn (bus.subscribersOf event) ++ observers.filter (·.event == event) := by
  induction observers generalizing bus with
  | nil => simp
  | cons observer rest ih =>
    rw [List.foldl_cons, ih, Bus.subscribersOf_subscribe]
    cases he : observer.event == event <;> simp [he, observersIn]

theorem shows_attach {bus : Bus (Observer ⊕ κ)} (unwatched : ∀ event, observersIn (bus.subscribersOf event) = [])
    (own : υ) : Shows (attach .inl bus) ⟨[], own⟩ "" where
  attached event := by rw [attach, observersIn_subscribe, unwatched, List.nil_append]
  line := rfl

-- Others who listen to a matcher. They subscribe whom they like, use telemetry and may fail, but they leave the observers
-- and the line alone.
structure Company (κ υ : Type) where
  respond : κ → Value → Action (Lobby κ υ) Unit
  uses : ∀ listener payload hall,
    ReflTransGen Telemetry.Use hall.telemetry (respond listener payload hall).2.telemetry
  uncancelled : ∀ listener payload hall f, (respond listener payload hall).1 = .error f → ¬f.isCancellation
  leaves : ∀ listener payload hall keys, Shows hall.bus hall.own keys →
    Shows (respond listener payload hall).2.bus (respond listener payload hall).2.own keys

namespace Company

variable (company : Company κ υ)

def audience : Bus.Audience (Observer ⊕ κ) (Screen υ) where
  respond
    | .inl observer => fun payload => observer.respond put payload
    | .inr listener => company.respond listener
  uses := by
    rintro (observer | listener) payload hall
    case inl =>
      obtain ⟨_, _, responds, -⟩ := observer.writes_respond payload hall
      simp only [responds]
      exact .refl
    case inr => exact company.uses listener payload hall
  uncancelled := by
    rintro (observer | listener) payload hall f failed
    case inl =>
      obtain ⟨_, _, responds, -, passes⟩ := observer.writes_respond payload hall
      exact passes f ((congrArg Prod.fst responds).symm.trans failed)
    case inr => exact company.uncancelled listener payload hall f failed

end Company

theorem lineAfter_event (event : Event) (line : String) :
    (Observer.all.filter (·.event == event.name)).foldl (fun line o => o.lineAfter event.payload line) line =
      event.line?.getD line := by
  have watched : ∀ o : Observer, event.name = o.event → Observer.all.filter (·.event == event.name) = [o] := by
    intro o same
    rw [same]
    cases o <;> decide
  cases event with
  | pending keys command next => rw [watched .pending rfl]; rfl
  | reset => rw [watched .reset rfl]; rfl
  | dispatch command keys => rw [watched .dispatch rfl]; rfl
  | failed command f => rw [watched .failure rfl]; rfl

section

variable {company : Company κ υ} {hall : Lobby κ υ} {keys : String}

theorem shows_respond (payload : Value) (listener : Observer ⊕ κ) (shows : Shows hall.bus hall.own keys) :
    let hall' := (company.audience.respond listener payload hall).2
    Shows hall'.bus hall'.own ((observersIn [listener]).foldl (fun line o => o.lineAfter payload line) keys) := by
  cases listener with
  | inl observer =>
    obtain ⟨_, shown, responds, line, -⟩ := observer.writes_respond payload hall
    simp only [Company.audience, responds]
    exact ⟨shows.attached, shows.line ▸ line⟩
  | inr other => exact company.leaves other payload hall keys shows

theorem send_shows (event : Event) (active : hall.telemetry.active.isSome) (shows : Shows hall.bus hall.own keys) :
    ∃ hall', company.audience.send event.name event.payload hall = (.ok (), hall') ∧
      Shows hall'.bus hall'.own (event.line?.getD keys) ∧ ReflTransGen Telemetry.Use hall.telemetry hall'.telemetry := by
  -- The line as it will be when the others have been told as well.
  let told (rest : List (Observer ⊕ κ)) (hall : Lobby κ υ) : Prop := ∃ keys', Shows hall.bus hall.own keys' ∧
    (observersIn rest).foldl (fun line o => o.lineAfter event.payload line) keys' = event.line?.getD keys
  have responds : ∀ listener rest hall, told (listener :: rest) hall →
      told rest (company.audience.respond listener event.payload hall).2 := by
    rintro listener rest hall ⟨keys', shows, after⟩
    refine ⟨_, shows_respond event.payload listener shows, ?_⟩
    rw [← after, ← List.foldl_append]
    exact congrArg (List.foldl _ keys') List.filterMap_append.symm
  have start : told (hall.bus.subscribersOf event.name) hall :=
    ⟨keys, shows, by rw [shows.attached]; exact lineAfter_event event keys⟩
  obtain ⟨hall', sent, ⟨_, shows', rfl⟩, uses⟩ :=
    company.audience.deliver_ok told responds (fun _ _ _ told => told) active start
  exact ⟨hall', company.audience.send_eq.trans sent, shows', uses⟩

end

def ShowsOn (stage : Stage (Observer ⊕ κ) (Screen υ)) (keys : String) : Prop :=
  ∃ bus, stage.bus = some bus ∧ Shows bus stage.own keys

abbrev Answers (Job : Type) :=
  (request : Request Job) → Except Failure ((Matcher.surroundings Job).Answer request) → Prop

-- Surroundings of a matcher with a terminal. Commands and their work call the matcher as they like, and callbacks may be
-- called whenever anybody likes. Those who listen do not call the matcher, and nobody else meddles with the line.
def terminalHost (answers : Answers Job) :
    Conduct (Matcher.surroundings Job) (Logged × Stage (Observer ⊕ κ) (Screen υ)) Call (Option Bool) where
  calls _ _ _ := True
  during _ request _ := request.IsCommand
  answers := answers
  drifts u u' := u'.1.matcher = u.1.matcher ∧ ReflTransGen Telemetry.Use u.1.telemetry u'.1.telemetry ∧
    ∀ keys, ShowsOn u.2 keys → ShowsOn u'.2 keys

theorem respected (company : Company κ υ) (answers : Answers Job) {s : Logged} (told : Told s ([] : Matcher.Past Job)) :
    Machine.Respected (herald Job company.audience) operate (terminalHost answers) (discreetHost Job)
      (fun stage h => ShowsOn stage (Matcher.Past.line h)) ⟨s, [], []⟩ where
  calls := fun _ _ _ => trivial
  during := fun _ _ _ work => work
  answers := fun _ _ _ => trivial
  drifts := by
    rintro ⟨s, stage⟩ ⟨⟨_, t⟩, stage'⟩ ⟨rfl, uses, leaves⟩
    exact ⟨Matcher.drifts_of_uses uses, fun h => leaves _⟩
  left := by
    intro sight h stage left shows
    have silent : Matcher.Silent sight := by
      rintro event s rfl
      simp [Sight.isLeft, herald] at left
    rwa [Matcher.line_cons silent]
  served := by
    intro request serve serves N reaches s h latest stage shows
    cases request with
    | publish event =>
      obtain rfl : publish company.audience event = serve := Option.some.inj serves
      obtain ⟨bus, own⟩ := stage
      obtain ⟨bus, rfl, shows⟩ := shows
      obtain ⟨_, promised⟩ := (reaches.sound Matcher.telling_kept (.start told)).promised _ _ _ latest
      have active : (⟨s.telemetry, bus, own⟩ : Lobby κ υ).telemetry.active.isSome := promised
      obtain ⟨hall, sent, shows, uses⟩ := send_shows event active shows
      have published : publish company.audience event (s, ⟨some bus, own⟩) =
          (.ok (), ⟨s.matcher, hall.telemetry⟩, ⟨some hall.bus, hall.own⟩) := by
        simp only [publish]
        rw [sent]
      rw [published]
      exact ⟨trivial, Matcher.drifts_of_uses uses, hall.bus, rfl, shows⟩
    | _ => cases serves

-- Wherever the matcher may be called, the line shows the keys that are waiting, unless they wait without a timer
-- because the timers have refused one.
theorem pendingLine_eq (company : Company κ υ) {answers : Answers Job} {s : Logged} (coherent : s.telemetry.Coherent)
    (idle : s.matcher.typed = []) {bus : Bus (Observer ⊕ κ)}
    (unwatched : ∀ event, observersIn (bus.subscribersOf event) = []) (own : υ)
    {M : Matcher.Performing Job (Observer ⊕ κ) (Screen υ)}
    (reaches : Machine.Reaches (operateBefore company.audience) (terminalHost answers)
      (opening s ⟨some (attach .inl bus), ⟨[], own⟩⟩) M) (free : M.Open (terminalHost answers)) :
    pendingLine M.state.2.own.shown = M.state.1.matcher.pendingDisplay ∨
      (M.state.1.matcher.typed ≠ [] ∧ M.state.1.matcher.timer = none ∧
        ∃ delay expiry f, .answered (.arm delay expiry) (.error f) ∈ M.history) := by
  have start : Told s ([] : Matcher.Past Job) := Matcher.told_of_nil coherent idle rfl
  have reaches : Machine.Reaches (fun call => (operate call).enclose (herald Job company.audience)) (terminalHost answers)
      (opening s ⟨some (attach .inl bus), ⟨[], own⟩⟩) M := reaches
  obtain ⟨N, reached, encloses⟩ := Machine.Reaches.disclosed (respected company answers start)
    (.start ⟨attach .inl bus, rfl, shows_attach unwatched own⟩) reaches
  have told := (reached.sound Matcher.telling_kept (.start start)).inv_of_open
    (encloses.isOpen (fun _ _ _ work => work) free)
  obtain ⟨_, _, shows⟩ := encloses.servant
  rw [shows.line, ← encloses.state]
  refine told.line.imp_right ?_
  rintro ⟨keys, timer, f, _, hs, delay, expiry, before, rfl⟩
  exact ⟨keys, timer, delay, expiry, f, encloses.answered rfl (hs.subset List.mem_cons_self)⟩

def grumblers : Company String Unit where
  respond _ _ hall := (.error (.raised "RuntimeError" ""), hall)
  uses _ _ _ := .refl
  uncancelled := by
    rintro _ _ _ _ ⟨⟩
    simp [Failure.isCancellation]
  leaves _ _ _ _ shows := shows

def crowd : Bus (Observer ⊕ String) := Matcher.eventNames.foldl (fun bus event => bus.subscribe event (.inr event)) {}

theorem unwatched_crowd (event : String) : observersIn (crowd.subscribersOf event) = [] := by
  simp only [crowd, Matcher.eventNames, List.foldl_cons, List.foldl_nil, Bus.subscribersOf_subscribe]
  split <;> split <;> split <;> split <;> rfl

def attached (s : Logged) : Matcher.Performing Unit (Observer ⊕ String) (Screen Unit) :=
  opening s ⟨some (attach .inl crowd), ⟨[], ()⟩⟩

def pressed (s : Logged) : Matcher.Performing Unit (Observer ⊕ String) (Screen Unit) :=
  .serve (operateBefore grumblers.audience) Matcher.tick (attached s) (.press ⟨"a", {}, none⟩)

theorem reaches_pressed (s : Logged) : Machine.Reaches (operateBefore grumblers.audience)
    (terminalHost (Matcher.pollingHost Unit).answers) (attached s) (pressed s) ∧ (pressed s).Resting := by
  have rest : (attached s).Resting := rfl
  exact ⟨Machine.Reaches.serve Matcher.pollingHost_tick .refl rest trivial, rfl⟩

theorem pressed_typed : Matcher.started?.map (fun s => (s.matcher.typed, (pressed s).state.1.matcher.hasTimer,
    (pressed s).state.1.matcher.pendingDisplay)) = some ([], true, "a") := by decide +kernel

theorem pendingLine_eq_pressed : ∃ s, Matcher.Made Unit Matcher.chord s ∧ s.matcher.typed = [] ∧
    (∀ event, observersIn (crowd.subscribersOf event) = []) ∧
    Machine.Reaches (operateBefore grumblers.audience) (terminalHost (Matcher.pollingHost Unit).answers) (attached s)
      (pressed s) ∧ (pressed s).Resting ∧ pendingLine (pressed s).state.2.own.shown = "a" := by
  obtain ⟨s, hs, pressed⟩ := Option.map_eq_some_iff.mp pressed_typed
  simp only [Prod.mk.injEq] at pressed
  obtain ⟨idle, timer, keys⟩ := pressed
  have made : Matcher.Made Unit Matcher.chord s := Matcher.made_of_started? hs
  have coherent : s.telemetry.Coherent := .inl made.active
  obtain ⟨reaches, rest⟩ := reaches_pressed s
  have free : (pressed s).Open (terminalHost (Matcher.pollingHost Unit).answers) :=
    fun frame hf => by simp [show (pressed s).frames = [] from rest] at hf
  have shown := pendingLine_eq grumblers coherent idle unwatched_crowd () reaches free
  refine ⟨s, made, idle, unwatched_crowd, reaches, rest, ?_⟩
  exact (shown.resolve_right fun ⟨_, unheld, _⟩ => by simp [Matcher.hasTimer, unheld] at timer).trans keys

theorem pressed_unarmed : Matcher.patient?.map (fun s => (s.matcher.typed, pendingLine (pressed s).state.2.own.shown,
    (pressed s).state.1.matcher.pendingDisplay)) = some ([], "", "a") := by decide +kernel

-- With a valid configuration whose time to wait is too long for timers that are polled, the first key of the chord is not
-- shown.
theorem pendingLine_stays :
    Config.build (.text " ") (.int (Nat.pow 10 400)) ⟨[(.text "ab", .text "open")]⟩ = .ok Matcher.patient ∧
    ∃ s, Matcher.Made Unit Matcher.patient s ∧ s.matcher.typed = [] ∧
      Machine.Reaches (operateBefore grumblers.audience) (terminalHost (Matcher.pollingHost Unit).answers) (attached s)
        (pressed s) ∧ (pressed s).Resting ∧ (pressed s).state.1.matcher.pendingDisplay = "a" ∧
      pendingLine (pressed s).state.2.own.shown = "" := by
  refine ⟨by decide +kernel, ?_⟩
  obtain ⟨s, hs, pressed⟩ := Option.map_eq_some_iff.mp pressed_unarmed
  simp only [Prod.mk.injEq] at pressed
  obtain ⟨idle, line, keys⟩ := pressed
  obtain ⟨reaches, rest⟩ := reaches_pressed s
  exact ⟨s, Matcher.made_of_patient? hs, idle, reaches, rest, keys, line⟩

end Keychord.Terminal
