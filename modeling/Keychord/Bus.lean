import Keychord.OrderedMap
import Keychord.Telemetry.Span

namespace Keychord

-- The subscribers of each event, in the order in which they subscribed and as often as they did.
structure Bus (κ : Type) where
  subscribers : OrderedMap String (List κ) := .empty

namespace Bus

variable {κ : Type}

def subscribersOf (bus : Bus κ) (event : String) : List κ := (bus.subscribers.get? event).getD []

def count (bus : Bus κ) (event : String) : Nat := (bus.subscribersOf event).length

def subscribe (bus : Bus κ) (event : String) (subscriber : κ) : Bus κ :=
  ⟨bus.subscribers.insert event (bus.subscribersOf event ++ [subscriber])⟩

def unsubscribe [BEq κ] (bus : Bus κ) (event : String) (subscriber : κ) : Bus κ :=
  match (bus.subscribersOf event).erase subscriber with
  | [] => ⟨bus.subscribers.erase event⟩
  | rest => ⟨bus.subscribers.insert event rest⟩

theorem subscribersOf_subscribe (bus : Bus κ) (event other : String) (subscriber : κ) :
    (bus.subscribe event subscriber).subscribersOf other =
      if event == other then bus.subscribersOf other ++ [subscriber] else bus.subscribersOf other := by
  simp only [subscribersOf, subscribe, OrderedMap.get?_insert]
  by_cases h : event = other
  · subst h
    simp
  · simp [h]

theorem subscribersOf_unsubscribe [BEq κ] (bus : Bus κ) (event other : String) (subscriber : κ) :
    (bus.unsubscribe event subscriber).subscribersOf other =
      if event == other then (bus.subscribersOf other).erase subscriber else bus.subscribersOf other := by
  unfold unsubscribe
  by_cases h : event = other
  · subst h
    split
    · next heq =>
      simp only [subscribersOf] at heq
      simp [subscribersOf, OrderedMap.get?_erase, heq]
    · next heq =>
      simp only [subscribersOf] at heq
      simp [subscribersOf, OrderedMap.get?_insert]
  · split <;> simp [subscribersOf, OrderedMap.get?_insert, OrderedMap.get?_erase, h]

inductive Request (κ : Type)
  | call (subscriber : κ) (payload : Value)
  | telemetry (op : Telemetry.Op)

def surroundings (κ : Type) : Interface where
  Request := Request κ
  Answer
    | .call .. => Unit
    | .telemetry op => op.Answer

def deliver (event : String) (payload : Value) (subscriber : κ) : Program (surroundings κ) (Bus κ) Unit := do
  let outcome ← (Program.request (I := surroundings κ) (.call subscriber payload)).attempt
  match outcome with
  | .ok _ => pure ()
  | .error failure =>
    if failure.isCancellation then throw failure
    Program.request (I := surroundings κ) <| .telemetry <|
      .record "bus.subscriber_failed" "error" [("bus_event", .text event), ("error", .text failure.shown)]

def deliverAll (event : String) (payload : Value) : List κ → Program (surroundings κ) (Bus κ) Unit
  | [] => pure ()
  | subscriber :: rest => do
    deliver event payload subscriber
    deliverAll event payload rest

def emit (event : String) (payload : Value) : Program (surroundings κ) (Bus κ) Unit := do
  deliverAll event payload ((← get).subscribersOf event)

end Bus

end Keychord
