import Keychord.Bus
import Keychord.Proofs.Driving
import Keychord.Proofs.Telemetry.Concord

namespace Keychord

namespace Bus

open Relation (ReflTransGen)

structure Hall (κ υ : Type) where
  telemetry : Telemetry
  bus : Bus κ
  own : υ

-- How subscribers respond to an event. A failure that is a cancellation would not be theirs.
structure Audience (κ υ : Type) where
  respond : κ → Value → Action (Hall κ υ) Unit
  uses : ∀ subscriber payload hall,
    ReflTransGen Telemetry.Use hall.telemetry (respond subscriber payload hall).2.telemetry
  uncancelled : ∀ subscriber payload hall f, (respond subscriber payload hall).1 = .error f → ¬f.isCancellation

namespace Audience

variable {κ υ : Type} (A : Audience κ υ) {event : String} {payload : Value} {subscriber : κ} {subscribers : List κ}
  {hall hall' : Hall κ υ}

def answer : (request : (surroundings κ).Request) → Action (Hall κ υ) ((surroundings κ).Answer request)
  | .call subscriber payload => A.respond subscriber payload
  | .telemetry op => (Telemetry.perform op).onPart Hall.telemetry fun t hall => { hall with telemetry := t }

def deliver (event : String) (payload : Value) (subscribers : List κ) : Action (Hall κ υ) Unit := fun hall =>
  (deliverAll event payload subscribers hall.bus).drive Hall.bus (fun bus hall => { hall with bus := bus }) A.answer hall

def send (event : String) (payload : Value) : Action (Hall κ υ) Unit := fun hall =>
  (emit event payload hall.bus).drive Hall.bus (fun bus hall => { hall with bus := bus }) A.answer hall

theorem send_eq : A.send event payload hall = A.deliver event payload (hall.bus.subscribersOf event) hall := rfl

def reportOf (event : String) (f : Failure) : Telemetry.Op :=
  .record "bus.subscriber_failed" "error" [("bus_event", .text event), ("error", .text f.shown)]

theorem record_reportOf {t : Telemetry} (coherent : t.Coherent) (event : String) (f : Failure) :
    ∃ t', Telemetry.perform (reportOf event f) t = (t.fault?.elim (.ok ()) .error, t') ∧ t.Concordant t' := by
  have level : Telemetry.fieldLevels.contains (Text.lower "error") := by decide
  have shown : ∀ e ∈ [("bus_event", Value.text event), ("error", .text f.shown)], e.2.text?.isSome := by simp
  exact Telemetry.record_outcome coherent level shown "bus.subscriber_failed"

theorem use_of_report {t t' : Telemetry} {f : Failure} {outcome : Except Failure Unit}
    (reported : Telemetry.perform (reportOf event f) t = (outcome, t')) : t.Use t' := by
  have left : (Telemetry.perform (reportOf event f) t).2 = t' := congrArg Prod.snd reported
  rw [← left]
  exact .record _ _ _ _

-- The first subscriber is called, then the others. If it fails without being cancelled, that is reported first.
theorem deliverAll_cons (event : String) (payload : Value) (subscriber : κ) (subscribers : List κ) (bus : Bus κ) :
    ∃ resume, deliverAll event payload (subscriber :: subscribers) bus = .waiting (.call subscriber payload) bus resume ∧
      (∀ bus, resume (.ok ()) bus = deliverAll event payload subscribers bus) ∧
      ∀ f, ¬f.isCancellation → ∀ bus, ∃ resume',
        resume (.error f) bus = .waiting (.telemetry (reportOf event f)) bus resume' ∧
          (∀ bus, resume' (.ok ()) bus = deliverAll event payload subscribers bus) ∧
          ∀ g bus, resume' (.error g) bus = .finished (.error g) bus := by
  refine ⟨_, rfl, fun bus => rfl, fun f hf bus => ?_⟩
  cases f with
  | cancelled => exact absurd rfl hf
  | _ => exact ⟨_, rfl, fun bus => rfl, fun g bus => rfl⟩

theorem deliver_cons_of_ok (he : A.respond subscriber payload hall = (.ok (), hall')) :
    A.deliver event payload (subscriber :: subscribers) hall = A.deliver event payload subscribers hall' := by
  obtain ⟨resume, waits, goesOn, -⟩ := deliverAll_cons event payload subscriber subscribers hall.bus
  rw [deliver, waits]
  exact (Run.drive_waiting he).trans (congrArg (Run.drive _ _ A.answer · hall') (goesOn hall'.bus))

theorem deliver_cons_of_error {f : Failure} {t : Telemetry} (hf : ¬f.isCancellation)
    (he : A.respond subscriber payload hall = (.error f, hall'))
    (reported : Telemetry.perform (reportOf event f) hall'.telemetry = (.ok (), t)) :
    A.deliver event payload (subscriber :: subscribers) hall =
      A.deliver event payload subscribers { hall' with telemetry := t } := by
  obtain ⟨resume, waits, -, reports⟩ := deliverAll_cons event payload subscriber subscribers hall.bus
  obtain ⟨resume', waits', goesOn, -⟩ := reports f hf hall'.bus
  have answered : A.answer (.telemetry (reportOf event f)) hall' = (.ok (), { hall' with telemetry := t }) := by
    simp only [answer, Action.onPart, reported]
    rfl
  rw [deliver, waits]
  refine (Run.drive_waiting he).trans ((congrArg (Run.drive _ _ A.answer · hall') waits').trans ?_)
  exact (Run.drive_waiting answered).trans (congrArg (Run.drive _ _ A.answer · _) (goesOn hall'.bus))

theorem deliver_cons_of_unreported {f g : Failure} {t : Telemetry} (hf : ¬f.isCancellation)
    (he : A.respond subscriber payload hall = (.error f, hall'))
    (refused : Telemetry.perform (reportOf event f) hall'.telemetry = (.error g, t)) :
    A.deliver event payload (subscriber :: subscribers) hall = (.error g, { hall' with telemetry := t }) := by
  have ⟨resume, waits, _, reports⟩ := deliverAll_cons event payload subscriber subscribers hall.bus
  have ⟨resume', waits', _, breaksOff⟩ := reports f hf hall'.bus
  have answered : A.answer (.telemetry (reportOf event f)) hall' = (.error g, { hall' with telemetry := t }) := by
    simp only [answer, Action.onPart, refused]
    rfl
  rw [deliver, waits]
  refine (Run.drive_waiting he).trans ((congrArg (Run.drive _ _ A.answer · hall') waits').trans ?_)
  exact (Run.drive_waiting answered).trans (congrArg (Run.drive _ _ A.answer · _) (breaksOff g hall'.bus))

theorem advances_of_uses {t t' : Telemetry} (uses : ReflTransGen Telemetry.Use t t') : t.Advances t' := by
  induction uses with
  | refl => exact .refl _
  | tail _ use ih => exact .trans _ _ _ ih use.advances

-- An event reaches all its subscribers, whatever they do about it. What `Q` says of those that are still to be called
-- is kept up by every response and every report.
theorem deliver_ok (Q : List κ → Hall κ υ → Prop)
    (responds : ∀ subscriber rest hall, Q (subscriber :: rest) hall → Q rest (A.respond subscriber payload hall).2)
    (reports : ∀ rest hall t, Q rest hall → Q rest { hall with telemetry := t })
    (active : hall.telemetry.active.isSome) (start : Q subscribers hall) :
    ∃ hall', A.deliver event payload subscribers hall = (.ok (), hall') ∧ Q [] hall' ∧
      ReflTransGen Telemetry.Use hall.telemetry hall'.telemetry := by
  induction subscribers generalizing hall with
  | nil => exact ⟨hall, rfl, start, .refl⟩
  | cons subscriber rest ih =>
    have uses := A.uses subscriber payload hall
    have after := responds subscriber rest hall start
    have failed := A.uncancelled subscriber payload hall
    rcases he : A.respond subscriber payload hall with ⟨f | _, hall₁⟩ <;> rw [he] at uses after failed
    case ok =>
      obtain ⟨hall', hd, hq, hu⟩ := ih ((advances_of_uses uses).active active) after
      exact ⟨hall', (A.deliver_cons_of_ok he).trans hd, hq, uses.trans hu⟩
    case error =>
      have active₁ : hall₁.telemetry.active.isSome := (advances_of_uses uses).active active
      obtain ⟨t, reported⟩ : ∃ t, Telemetry.perform (reportOf event f) hall₁.telemetry = (.ok (), t) := by
        have level : Telemetry.fieldLevels.contains (Text.lower "error") := by decide
        have shown : ∀ e ∈ [("bus_event", Value.text event), ("error", .text f.shown)], e.2.text?.isSome := by simp
        obtain ⟨t, reported, -⟩ := Telemetry.record_ok active₁ level shown "bus.subscriber_failed"
        exact ⟨t, reported⟩
      have used : Telemetry.Use hall₁.telemetry t := use_of_report reported
      have active₂ : ({ hall₁ with telemetry := t } : Hall κ υ).telemetry.active.isSome := used.advances.active active₁
      obtain ⟨hall', hd, hq, hu⟩ := ih active₂ (reports rest hall₁ t after)
      exact ⟨hall', (A.deliver_cons_of_error (failed f rfl) he reported).trans hd, hq,
        (uses.tail used).trans hu⟩

theorem send_ok (event : String) (payload : Value) (hall : Hall κ υ) (active : hall.telemetry.active.isSome) :
    ∃ hall', A.send event payload hall = (.ok (), hall') ∧
      ReflTransGen Telemetry.Use hall.telemetry hall'.telemetry := by
  obtain ⟨hall', sent, -, uses⟩ := A.deliver_ok (fun _ _ => True) (fun _ _ _ _ => trivial) (fun _ _ _ _ => trivial)
    active trivial
  exact ⟨hall', A.send_eq.trans sent, uses⟩

-- Without active settings it may be that telemetry is at fault, and then the first failure of a subscriber ends the
-- delivery.
theorem deliver_outcome (coherent : hall.telemetry.Coherent) :
    ∃ outcome hall', A.deliver event payload subscribers hall = (outcome, hall') ∧
      ReflTransGen Telemetry.Use hall.telemetry hall'.telemetry ∧
      (outcome = .ok () ∨ ∃ g, hall'.telemetry.fault? = some g ∧ outcome = .error g) := by
  induction subscribers generalizing hall with
  | nil => exact ⟨.ok (), hall, rfl, .refl, .inl rfl⟩
  | cons subscriber rest ih =>
    have uses := A.uses subscriber payload hall
    have failed := A.uncancelled subscriber payload hall
    rcases he : A.respond subscriber payload hall with ⟨f | _, hall₁⟩ <;> rw [he] at uses failed
    case ok =>
      have ⟨outcome, hall', hd, hu, ends⟩ := ih ((advances_of_uses uses).coherent coherent)
      exact ⟨outcome, hall', (A.deliver_cons_of_ok he).trans hd, uses.trans hu, ends⟩
    case error =>
      have coherent₁ : hall₁.telemetry.Coherent := (advances_of_uses uses).coherent coherent
      have ⟨t, reported, after⟩ := record_reportOf coherent₁ event f
      have used : Telemetry.Use hall₁.telemetry t := use_of_report reported
      cases fault : hall₁.telemetry.fault? with
      | some g =>
        rw [fault] at reported
        exact ⟨.error g, { hall₁ with telemetry := t }, A.deliver_cons_of_unreported (failed f rfl) he reported,
          uses.tail used, .inr ⟨g, after.fault.symm.trans fault, rfl⟩⟩
      | none =>
        rw [fault] at reported
        have coherent₂ : ({ hall₁ with telemetry := t } : Hall κ υ).telemetry.Coherent := used.advances.coherent coherent₁
        have ⟨outcome, hall', hd, hu, ends⟩ := ih coherent₂
        exact ⟨outcome, hall', (A.deliver_cons_of_error (failed f rfl) he reported).trans hd,
          (uses.tail used).trans hu, ends⟩

theorem send_outcome (event : String) (payload : Value) (coherent : hall.telemetry.Coherent) :
    ∃ outcome hall', A.send event payload hall = (outcome, hall') ∧
      ReflTransGen Telemetry.Use hall.telemetry hall'.telemetry ∧
      (outcome = .ok () ∨ ∃ g, hall'.telemetry.fault? = some g ∧ outcome = .error g) :=
  A.deliver_outcome coherent

end Audience

end Bus

end Keychord
