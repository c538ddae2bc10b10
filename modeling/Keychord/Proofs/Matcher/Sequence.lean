import Keychord.Proofs.Matcher.Upkeep

namespace Keychord.Matcher

variable {Job : Type}

namespace Past

-- The presses of the sequence that lasts, each with the number of presses that had been consumed before it. A
-- sequence is over where the matcher is seen to be at the start.
def sequence : Past Job → List (Nat × Press)
  | [] => []
  | .asked (.consume press) s :: h =>
    (if s.matcher.isIdle then [] else sequence h) ++ [((consumed h).length, press)]
  | .asked _ s :: h | .called _ s :: h | .returned _ _ s :: h => if s.matcher.isIdle then [] else sequence h
  | .answered .. :: h => sequence h

variable {h h' : Past Job} {s : Logged}

@[simp]
theorem sequence_answered (request : Request Job) (reply : Except Failure ((surroundings Job).Answer request)) :
    sequence (.answered request reply :: h) = sequence h := rfl

theorem sequence_called (c : Call) (hi : ¬s.matcher.isIdle) : sequence (.called c s :: h) = sequence h := if_neg hi

theorem sequence_returned (c : Call) (outcome : Except Failure (Option Bool)) (hi : ¬s.matcher.isIdle) :
    sequence (.returned c outcome s :: h) = sequence h := if_neg hi

theorem sequence_asked {request : Request Job} (hr : ∀ press, request ≠ .consume press) (hi : ¬s.matcher.isIdle) :
    sequence (.asked request s :: h) = sequence h := by
  cases request with
  | consume press => exact absurd rfl (hr press)
  | _ => exact if_neg hi

end Past

structure Placed (m : Matcher) (h : Past Job) : Prop where
  path : m.path = m.typed.map Key.edge
  node : (m.keymap.root.find? m.path).isSome
  keys : m.typed ≠ [] → (Past.sequence h).map (·.2.toKey?) = m.typed.map some

namespace Placed

variable {m m' : Matcher} {s s₁ : Logged} {h h' : Past Job}

theorem idle_iff (p : Placed m h) : m.isIdle ↔ m.typed = [] := by
  rw [isIdle, p.path]
  simp

theorem not_idle (p : Placed m h) (ht : m.typed ≠ []) : ¬m.isIdle := mt p.idle_iff.mp ht

theorem congr (p : Placed m h) (hk : m'.keymap = m.keymap) (hp : m'.path = m.path) (ht : m'.typed = m.typed)
    (hs : m.typed ≠ [] → Past.sequence h' = Past.sequence h) : Placed m' h' where
  path := by rw [hp, ht, p.path]
  node := by rw [hk, hp]; exact p.node
  keys := by
    intro hn
    rw [ht] at hn ⊢
    rw [hs hn, p.keys hn]

theorem start (hp : m.path = []) (ht : m.typed = []) : Placed m h where
  path := by rw [hp, ht]; rfl
  node := by rw [hp]; rfl
  keys := fun hn => absurd ht hn

theorem sequence_disarmed (p : Placed s.matcher h) (hd : Disarmed s h h') (ht : s.matcher.typed ≠ []) :
    Past.sequence h' = Past.sequence h := by
  cases hd with
  | none => rfl
  | some timer reply => exact if_neg (p.not_idle ht)

theorem disarmed (p : Placed s.matcher h) (hd : Disarmed s h h') : Placed (released s.matcher) h' :=
  p.congr rfl rfl rfl fun ht => p.sequence_disarmed hd ht

theorem sequence_passes (p : Placed s.matcher h) {sight : Sight (surroundings Job) Logged Call (Option Bool)}
    (hp : Passing s sight) (ht : s.matcher.typed ≠ []) : Past.sequence (sight :: h) = Past.sequence h := by
  have hi := p.not_idle ht
  cases sight with
  | called call s' => obtain ⟨rfl, -⟩ := hp; exact Past.sequence_called call hi
  | asked request s' =>
    obtain ⟨rfl, ht⟩ := hp
    exact Past.sequence_asked (by rintro press rfl; exact ht) hi
  | answered request reply => rfl
  | returned call outcome s' => obtain rfl := hp; exact Past.sequence_returned call outcome hi

theorem passes (p : Placed s.matcher h) {sight : Sight (surroundings Job) Logged Call (Option Bool)}
    (hp : Passing s sight) : Placed s.matcher (sight :: h) :=
  p.congr rfl rfl rfl fun ht => p.sequence_passes hp ht

theorem sequence_consume (p : Placed s.matcher h) (hd : Disarmed s h h') (hs : s₁.matcher = released s.matcher)
    (press : Press) {reply : Except Failure Unit} :
    Past.sequence (.answered (.consume press) reply :: .asked (.consume press) s₁ :: h') =
      (if s.matcher.typed = [] then [] else Past.sequence h) ++ [((Past.consumed h').length, press)] := by
  have hi : s₁.matcher.isIdle = s.matcher.isIdle := by rw [hs]; rfl
  rw [Past.sequence_answered, Past.sequence, hi]
  by_cases ht : s.matcher.typed = []
  case pos => rw [if_pos (p.idle_iff.mpr ht), if_pos ht]
  case neg => rw [if_neg (p.not_idle ht), if_neg ht, p.sequence_disarmed hd ht]

theorem consumes (p : Placed s.matcher h) (hd : Disarmed s h h') {press : Press} {key : Key} {node : Keymap.Node}
    (hk : press.toKey? = some key)
    (hn : s.matcher.keymap.root.find? (s.matcher.path ++ [key.edge]) = some node)
    (hs : s₁.matcher = released s.matcher) {reply : Except Failure Unit} :
    Placed (advanced s.matcher key) (.answered (.consume press) reply :: .asked (.consume press) s₁ :: h') where
  path := by simp [advanced, p.path]
  node := Option.isSome_iff_exists.mpr ⟨node, hn⟩
  keys := by
    intro _
    rw [p.sequence_consume hd hs]
    by_cases ht : s.matcher.typed = []
    case pos => simp [advanced, ht, hk]
    case neg => simp [advanced, ht, hk, p.keys ht]

theorem sequence_arm (p : Placed s.matcher h) (hd : Disarmed s h h') (hs : s₁.matcher = released s.matcher)
    {delay : Int} {expiry : Expiry} {reply : Except Failure Nat} (ht : s.matcher.typed ≠ []) :
    Past.sequence (.answered (.arm delay expiry) reply :: .asked (.arm delay expiry) s₁ :: h') = Past.sequence h := by
  have hi : ¬s₁.matcher.isIdle := by rw [hs]; exact p.not_idle ht
  exact (if_neg hi).trans (p.sequence_disarmed hd ht)

theorem arms (p : Placed s.matcher h) (hd : Disarmed s h h') (hs : s₁.matcher = released s.matcher) {delay : Int}
    {expiry : Expiry} {reply : Except Failure Nat} : Placed { released s.matcher with timer := reply.toOption }
      (.answered (.arm delay expiry) reply :: .asked (.arm delay expiry) s₁ :: h') :=
  p.congr rfl rfl rfl fun ht => p.sequence_arm hd hs ht

theorem sequence_called (p : Placed s.matcher h) (ht : s.matcher.typed ≠ []) (c : Call) :
    Past.sequence (.called c s :: h) = Past.sequence h := if_neg (p.not_idle ht)

theorem timesOut (p : Placed s.matcher h) {c : Call} : Placed (timedOut s.matcher) (.called c s :: h) :=
  p.congr rfl rfl rfl fun ht => p.sequence_called ht c

end Placed

end Keychord.Matcher
