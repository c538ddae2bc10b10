import Keychord.Proofs.Bus.Emission
import Keychord.Proofs.UnderWay

namespace Keychord.Bus

inductive Call (κ : Type)
  | subscribe (event : String) (subscriber : κ)
  | unsubscribe (event : String) (subscriber : κ)
  | emit (event : String) (payload : Value)

variable {κ : Type}

def Call.operate [BEq κ] : Call κ → Program (surroundings κ) (Bus κ) Unit
  | .subscribe event subscriber => modify (·.subscribe event subscriber)
  | .unsubscribe event subscriber => modify (·.unsubscribe event subscriber)
  | .emit event payload => Bus.emit event payload

def Call.applied [BEq κ] (event : String) : Call κ → List κ → List κ
  | .subscribe name subscriber, l => if name == event then l ++ [subscriber] else l
  | .unsubscribe name subscriber, l => if name == event then l.erase subscriber else l
  | .emit .., l => l

def replay [BEq κ] (event : String) (calls : List (Call κ)) (l : List κ) : List κ :=
  calls.foldl (fun l c => c.applied event l) l

abbrev Past (κ : Type) := History (surroundings κ) (Bus κ) (Call κ) Unit
abbrev Sending (κ : Type) := Machine (surroundings κ) (Bus κ) (Call κ) Unit

-- Surroundings in which subscribers may do anything with the bus and then fail or not, as long as they are not cancelled.
-- Telemetry does not fail.
def anyone (κ : Type) : Conduct (surroundings κ) (Bus κ) (Call κ) Unit where
  calls _ _ _ := True
  during _ _ _ := True
  answers
    | .call .., reply => ∀ f, reply = .error f → ¬f.isCancellation
    | .telemetry _, reply => ∃ a, reply = .ok a
  drifts _ _ := False

def calm : (request : Request κ) → Except Failure ((surroundings κ).Answer request)
  | .call .. | .telemetry (.record ..) | .telemetry (.closeSpan ..) => .ok ()
  | .telemetry (.openSpan wanted) => .ok (⟨⟨wanted.name, [], 0⟩, wanted.name, none, [], .empty⟩ : Telemetry.Span)

theorem calm_given : ∀ request : Request κ, (anyone κ).answers request (calm request)
  | .call .. => nofun
  | .telemetry (.record ..) | .telemetry (.openSpan _) | .telemetry (.closeSpan ..) => ⟨_, rfl⟩

def Request.called? : Request κ → Option (κ × Value)
  | .call subscriber payload => some (subscriber, payload)
  | .telemetry _ => none

namespace Past

def made : Past κ → List (Call κ)
  | [] => []
  | .called c _ :: h => made h ++ [c]
  | _ :: h => made h

theorem made_append (since before : Past κ) : made (since ++ before) = made before ++ made since := by
  induction since with
  | nil => simp [made]
  | cons sight since ih => cases sight <;> simp [made, ih]

def delivered (h : Past κ) : List (κ × Value) := (History.asked Request.called? h).reverse

theorem delivered_append (since before : Past κ) : delivered (since ++ before) = delivered before ++ delivered since := by
  induction since with
  | nil => simp [delivered, History.asked]
  | cons sight since ih =>
    cases sight with
    | asked request s =>
      simp only [delivered, History.asked, List.cons_append, List.reverse_append] at ih ⊢
      rw [ih, List.append_assoc]
    | _ => exact ih

end Past

section Replay

variable [BEq κ]

def Tallies (bus : Bus κ) (h : Past κ) (s : Bus κ) : Prop :=
  ∀ event, s.subscribersOf event = replay event h.made (bus.subscribersOf event)

structure Records (bus : Bus κ) (h : Past κ) (s : Bus κ) : Prop where
  now     : Tallies bus h s
  earlier : History.Always (fun before sight => ∀ c s, sight = .called c s → Tallies bus before s) h

namespace Records

variable {bus s : Bus κ} {h : Past κ}

theorem cons (records : Records bus h s) {sight : Sight (surroundings κ) (Bus κ) (Call κ) Unit}
    (other : ∀ c s, sight ≠ .called c s) : Records bus (sight :: h) s := by
  refine ⟨?now, records.earlier.cons fun c s he => absurd he (other c s)⟩
  cases sight with
  | called c s => exact absurd rfl (other c s)
  | _ => exact records.now

theorem called (records : Records bus h s) {c : Call κ} {s' : Bus κ}
    (applied : ∀ event, s'.subscribersOf event = c.applied event (s.subscribersOf event)) :
    Records bus (.called c s :: h) s' where
  now event := by simp [applied, records.now event, replay, Past.made]
  earlier := by
    refine records.earlier.cons fun c s he => ?_
    cases he
    exact records.now

end Records

def recorder (bus : Bus κ) : Contract (surroundings κ) (Bus κ) (Call κ) Unit where
  inv s h := Records bus h s
  handOver _ _ s h := Records bus h s

variable {bus : Bus κ}

theorem meets_deliverAll {c : Call κ} {event : String} {payload : Value} {subscribers : List κ} {s : Bus κ} {h : Past κ}
    (records : Records bus h s) : (deliverAll event payload subscribers s).Meets (anyone κ) (recorder bus) c
      (fun _ s h => Records bus h s) h := by
  induction subscribers generalizing s h with
  | nil => exact records
  | cons subscriber rest ih =>
    have ⟨resume, waits, goesOn, reports⟩ := Audience.deliverAll_cons event payload subscriber rest s
    rw [waits]
    refine ⟨records.cons (by simp), fun reply s' h' given meanwhile => ?_⟩
    have records : Records bus h' s' := meanwhile.opened ⟨c, trivial⟩
    have answered : Records bus (.answered (.call subscriber payload) reply :: h') s' := records.cons (by simp)
    cases reply with
    | ok a =>
      have goesOn : resume (.ok a) s' = deliverAll event payload rest s' := goesOn s'
      rw [goesOn]
      exact ih answered
    | error f =>
      have ⟨resume', waits', goesOn', _⟩ := reports f (given f rfl) s'
      rw [waits']
      refine ⟨answered.cons (by simp), fun reply s'' h'' given meanwhile => ?_⟩
      have ⟨a, he⟩ := given
      have records : Records bus h'' s'' := meanwhile.opened ⟨c, trivial⟩
      have goesOn : resume' reply s'' = deliverAll event payload rest s'' := he ▸ goesOn' s''
      rw [goesOn]
      exact ih (records.cons (by simp))

theorem recorder_kept : (recorder bus).Kept Call.operate (anyone κ) where
  meets c s h _ records := by
    cases c with
    | subscribe event subscriber =>
      exact (records.called fun other => s.subscribersOf_subscribe event other subscriber).cons (by simp)
    | unsubscribe event subscriber =>
      exact (records.called fun other => s.subscribersOf_unsubscribe event other subscriber).cons (by simp)
    | emit event payload =>
      have begun : Records bus (.called (.emit event payload) s :: h) s := records.called fun _ => rfl
      exact (meets_deliverAll begun).mono fun outcome s h records => records.cons (by simp)
  opens _ _ _ _ _ records := records
  drifts _ _ _ drifts := drifts.elim

end Replay

def Sent : Machine.Aim (surroundings κ) (Bus κ) (Call κ) Unit := fun u outcome _ => ∀ event payload,
  u.call = .emit event payload → outcome = .ok () ∧
    Past.delivered u.own = (u.state.subscribersOf event).map (·, payload) ∧ u.own.length ≤ 1 + 4 * u.state.count event

theorem delivers_deliverAll {c : Call κ} {event : String} {payload : Value} {subscribers : List κ} {s : Bus κ}
    {own : Past κ} : (deliverAll event payload subscribers s).Delivers (anyone κ) (fun _ => True) c
      (fun outcome _ own' => outcome = .ok () ∧
        Past.delivered own' = Past.delivered own ++ subscribers.map (·, payload) ∧
        own'.length ≤ own.length + 4 * subscribers.length) own := by
  induction subscribers generalizing s own with
  | nil => exact ⟨rfl, by simp, by simp⟩
  | cons subscriber rest ih =>
    -- The first subscriber has been called, with at most a report, and the others have their turn.
    have others : ∀ s (own₁ : Past κ), Past.delivered own₁ = Past.delivered own ++ [(subscriber, payload)] →
        own₁.length ≤ own.length + 4 → (deliverAll event payload rest s).Delivers (anyone κ) (fun _ => True) c
          (fun outcome _ own' => outcome = .ok () ∧
            Past.delivered own' = Past.delivered own ++ (subscriber :: rest).map (·, payload) ∧
            own'.length ≤ own.length + 4 * (subscriber :: rest).length) own₁ := by
      intro s own₁ first short₁
      refine ih.mono fun outcome s' own' ⟨ends, delivered, short⟩ => ⟨ends, ?delivered, ?short⟩
      case delivered => simp [delivered, first]
      case short =>
        rw [List.length_cons]
        omega
    have ⟨resume, waits, goesOn, reports⟩ := Audience.deliverAll_cons event payload subscriber rest s
    rw [waits]
    refine ⟨fun _ => trivial, fun reply s' given _ => ?_⟩
    cases reply with
    | ok a =>
      have goesOn : resume (.ok a) s' = deliverAll event payload rest s' := goesOn s'
      rw [goesOn]
      exact others s' _ (by simp [Past.delivered, History.asked, Request.called?]) (by simp)
    | error f =>
      have ⟨resume', waits', goesOn', _⟩ := reports f (given f rfl) s'
      rw [waits']
      refine ⟨fun _ => trivial, fun reply s'' given _ => ?_⟩
      have ⟨a, he⟩ := given
      have goesOn : resume' reply s'' = deliverAll event payload rest s'' := he ▸ goesOn' s''
      rw [goesOn]
      exact others s'' _ (by simp [Past.delivered, History.asked, Request.called?]) (by simp)

theorem delivers_operate [BEq κ] (c : Call κ) (s : Bus κ) (h : Past κ) :
    (c.operate s).Delivers (anyone κ) (fun _ => True) c
      (Machine.Fulfils (fun _ => True) Sent (.begin c s h)) [.called c s] := by
  cases c with
  | subscribe => exact ⟨trivial, fun _ _ he => nomatch he⟩
  | unsubscribe => exact ⟨trivial, fun _ _ he => nomatch he⟩
  | emit event payload =>
    refine delivers_deliverAll.mono fun outcome s' own ⟨ends, delivered, short⟩ => ⟨trivial, fun _ _ he => ?_⟩
    cases he
    exact ⟨ends, delivered, short⟩

-- Whenever an event has been sent, those who were subscribed to it at the beginning have been called with it, in their
-- order and nobody else, and nothing has gone wrong. Then every event has the subscribers that come of those at the
-- beginning by all the calls made meanwhile. While it is being sent, some of them have been called already and the
-- others follow soon; and wherever an event is sent, this comes to its end.
theorem emit_delivers [BEq κ] {bus : Bus κ} {M : Sending κ}
    (reaches : Machine.Reaches Call.operate (anyone κ) ⟨bus, [], []⟩ M) (event : String) (payload : Value) :
    (∀ outcome s h, .returned (.emit event payload) outcome s :: h <:+ M.history → ∃ u rest since,
      History.underWay h = u :: rest ∧ u.call = .emit event payload ∧
      h = since ++ .called u.call u.state :: u.before ∧ outcome = .ok () ∧
      Past.delivered u.own = (u.state.subscribersOf event).map (·, payload) ∧
      ∀ other, s.subscribersOf other = replay other (Past.made since) (u.state.subscribersOf other) ∧
        s.count other = (replay other (Past.made since) (u.state.subscribersOf other)).length) ∧
    (∀ u ∈ History.underWay M.history, u.call = .emit event payload →
      Past.delivered u.own <+: (u.state.subscribersOf event).map (·, payload) ∧
      u.own.length ≤ 1 + 4 * u.state.count event) ∧
    ∃ M' outcome s before, Machine.Reaches Call.operate (anyone κ) M M' ∧ M'.frames = M.frames ∧
      M'.history = .returned (.emit event payload) outcome s :: before ∧
      .called (.emit event payload) M.state :: M.history <:+ before := by
  have undertakes : Machine.Undertakes (anyone κ) (fun _ => True) Sent M :=
    reaches.undertakes (fun c s h _ _ => delivers_operate c s h) (fun _ _ drifts => drifts.elim) rfl rfl trivial
  have start : Machine.Sound (anyone κ) (recorder bus) ⟨bus, [], []⟩ := .start ⟨fun _ => rfl, .nil⟩
  refine ⟨?returned, ?underWay, ?ends⟩
  case returned =>
    intro outcome s h hs
    have ⟨u, rest, underWay, call, sent, _⟩ := undertakes.returned _ _ _ _ hs
    have ⟨since, begun⟩ := History.called_suffix (u := u) (h := h) (by simp [underWay])
    have ⟨now, earlier⟩ : Records bus (.returned (.emit event payload) outcome s :: h) s :=
      reaches.inv_of_returned recorder_kept start rfl hs
    have before : Tallies bus u.before u.state :=
      earlier (.called u.call u.state) u.before ((begun ▸ List.suffix_append _ _).trans (List.suffix_cons _ _)) _ _ rfl
    have left : ∀ other, s.subscribersOf other = replay other (Past.made since) (u.state.subscribersOf other) := by
      intro other
      rw [now other, before other, replay, replay, replay, ← List.foldl_append]
      -- What has been made until now is what was made before, this call, which subscribes nobody, and the calls since.
      have calls : Past.made h = Past.made u.before ++ [u.call] ++ Past.made since := by
        rw [← begun, Past.made_append, Past.made]
      have same : Past.made (.returned (.emit event payload) outcome s :: h) = Past.made h := rfl
      rw [same, calls, List.foldl_append, List.foldl_append, call]
      simp [Call.applied]
    have ⟨ends, delivered, _⟩ := sent event payload call
    exact ⟨u, rest, since, underWay, call, begun.symm, ends, delivered,
      fun other => ⟨left other, congrArg List.length (left other)⟩⟩
  case underWay =>
    intro u hu call
    -- However it goes on, all have been called in the end, and those called by now came first.
    have ⟨_, _, own, grown, sent⟩ := undertakes.exists_end (fun request => ⟨_, calm_given request⟩) hu
    have ⟨_, delivered, short⟩ := sent event payload call
    have ⟨later, ho⟩ := grown
    subst ho
    constructor
    case left =>
      rw [← delivered, Past.delivered_append]
      exact List.prefix_append _ _
    case right =>
      simp only [List.length_append] at short
      omega
  case ends =>
    exact Machine.exists_returned calm_given (fun _ _ => trivial) trivial

def stumbling : (request : Request κ) → Except Failure ((surroundings κ).Answer request)
  | .call .. => .error (.raised "ValueError" "bad subscriber")
  | .telemetry op => calm (.telemetry op)

theorem stumbling_given : ∀ request : Request κ, (anyone κ).answers request (stumbling request)
  | .call .. => fun _ he => Except.error.inj he ▸ Bool.false_ne_true
  | .telemetry op => calm_given (.telemetry op)

-- Of three subscriptions two are of the same subscriber. When it is called it takes itself off, takes off the other
-- one, so that nobody is left, subscribes a third one, sends the event again, and fails after that one has been called.
def tangled : Sending String :=
  let calls : List (Call String) := [.subscribe "tick" "a", .subscribe "tick" "b", .subscribe "tick" "a",
    .emit "tick" (.int 1), .unsubscribe "tick" "a", .unsubscribe "tick" "b", .unsubscribe "tick" "a",
    .subscribe "tick" "c", .emit "tick" (.int 2)]
  (Machine.answer calm)^[3] (((calls.foldl (Machine.enterCall Call.operate) ⟨{}, [], []⟩).answer calm).answer stumbling)

theorem reaches_tangled : Machine.Reaches Call.operate (anyone String) ⟨{}, [], []⟩ tangled :=
  .answers calm_given (.answer stumbling_given (.answer calm_given
    (Machine.reaches_enterCalls (fun _ _ _ => trivial) (fun _ _ _ => trivial) _ _))) 3

theorem emit_delivers_tangled : Machine.Reaches Call.operate (anyone String) ⟨{}, [], []⟩ tangled ∧
    ∃ s before u rest, tangled.history = .returned (.emit "tick" (.int 1)) (.ok ()) s :: before ∧
      History.underWay before = u :: rest ∧ s.count "tick" = 1 ∧
      Past.delivered u.own = [("a", .int 1), ("b", .int 1), ("a", .int 1)] := by
  have ⟨outcome, s, before, he, u, rest, hu, subscribed, left⟩ : ∃ outcome s before,
      tangled.history = .returned (.emit "tick" (.int 1)) outcome s :: before ∧ ∃ u rest,
        History.underWay before = u :: rest ∧ u.state.subscribersOf "tick" = ["a", "b", "a"] ∧ s.count "tick" = 1 :=
    ⟨_, _, _, rfl, _, _, rfl, by decide +kernel, by decide +kernel⟩
  have ⟨returned, _⟩ := emit_delivers reaches_tangled "tick" (.int 1)
  have ⟨u', _, _, same, _, _, ends, delivered, _⟩ := returned outcome s before (he ▸ List.suffix_refl _)
  cases hu.symm.trans same
  subst ends
  exact ⟨reaches_tangled, s, before, u, rest, he, hu, left, by simp [delivered, subscribed]⟩

end Keychord.Bus
