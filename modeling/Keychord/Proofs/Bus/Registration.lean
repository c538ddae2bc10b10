import Keychord.Bus
import Mathlib.Data.List.Basic

namespace Keychord.Bus

-- What is done with a bus: someone subscribes, or the subscription that was made as this one, counted from zero, is
-- given up.
inductive Act (κ : Type)
  | subscribe (event : String) (subscriber : κ)
  | release (number : Nat)

structure Desk (κ : Type) where
  bus : Bus κ := {}
  given : List (String × κ) := []

-- A subscription with its number. To a bus it is the subscriber that counts.
structure Registration (κ : Type) where
  number : Nat
  subscriber : κ
  deriving DecidableEq

variable {κ : Type}

section Numbers

variable {p : Registration κ → Bool} {l : List (Registration κ)}

theorem eraseP_eq_filter_iff {number : Nat}
    (ordered : l.Pairwise fun r r' => r.number < r'.number) (own : ∀ r ∈ l, r.number = number → p r) :
    l.eraseP p = l.filter (·.number ≠ number) ↔ ∀ r, l.find? p = some r → r.number = number := by
  cases hf : l.find? p with
  | none =>
    have others : ∀ r ∈ l, ¬p r := by simpa using hf
    have apart : ∀ r ∈ l, r.number ≠ number := fun r hr same => others r hr (own r hr same)
    have all : l.filter (·.number ≠ number) = l := List.filter_eq_self.mpr fun r hr => decide_eq_true (apart r hr)
    rw [List.eraseP_of_forall_not others, all]
    simp
  | some first =>
    have ⟨hp, earlier, later, hl, before⟩ := List.find?_eq_some_iff_append.mp hf
    subst hl
    have left : (earlier ++ first :: later).eraseP p = earlier ++ later := by
      rw [List.eraseP_append_right _ (by simpa using before), List.eraseP_cons_of_pos hp]
    have apart : ∀ r ∈ earlier ++ later, r.number ≠ first.number := by
      have ⟨_, rest, across⟩ := List.pairwise_append.mp ordered
      intro r hr
      cases List.mem_append.mp hr with
      | inl hr => exact Nat.ne_of_lt (across r hr first List.mem_cons_self)
      | inr hr => exact Nat.ne_of_gt (List.rel_of_pairwise_cons rest hr)
    rw [left]
    constructor
    case mp =>
      intro taken r he
      cases he
      by_contra other
      -- The filter takes away only the number, so the first one would still be there.
      have still : first ∈ earlier ++ later := by
        rw [taken]
        simp [other]
      exact apart first still rfl
    case mpr =>
      intro same
      have kept : (earlier ++ later).filter (·.number ≠ first.number) = earlier ++ later :=
        List.filter_eq_self.mpr fun r hr => decide_eq_true (apart r hr)
      rw [← same first rfl, List.filter_append, List.filter_cons_of_neg (by simp), ← List.filter_append, kept]

end Numbers

variable [BEq κ]

instance : BEq (Registration κ) := ⟨fun r r' => r.subscriber == r'.subscriber⟩

namespace Desk

def operate (desk : Desk κ) : Act κ → Desk κ
  | .subscribe event subscriber => ⟨desk.bus.subscribe event subscriber, desk.given ++ [(event, subscriber)]⟩
  | .release number =>
    match desk.given[number]? with
    | none => desk
    | some (event, subscriber) => { desk with bus := desk.bus.unsubscribe event subscriber }

theorem operate_release_of_none {desk : Desk κ} {number : Nat} (unknown : desk.given[number]? = none) :
    desk.operate (.release number) = desk := by
  rw [operate, unknown]

theorem operate_release_of_some {desk : Desk κ} {number : Nat} {event : String} {subscriber : κ}
    (own : desk.given[number]? = some (event, subscriber)) :
    desk.operate (.release number) = ⟨desk.bus.unsubscribe event subscriber, desk.given⟩ := by
  rw [operate, own]

def after (acts : List (Act κ)) : Desk κ := acts.foldl operate {}

def enroll (desk : Desk (Registration κ)) : Act κ → Desk (Registration κ)
  | .subscribe event subscriber => desk.operate (.subscribe event ⟨desk.given.length, subscriber⟩)
  | .release number => desk.operate (.release number)

def enrolled (acts : List (Act κ)) : Desk (Registration κ) := acts.foldl enroll {}

def registrations (acts : List (Act κ)) (event : String) : List (Registration κ) := (enrolled acts).bus.subscribersOf event

structure Shows (desk : Desk (Registration κ)) (plain : Desk κ) : Prop where
  given       : plain.given = desk.given.map (Prod.map id Registration.subscriber)
  subscribers : ∀ event, plain.bus.subscribersOf event = (desk.bus.subscribersOf event).map Registration.subscriber

structure Filed (desk : Desk (Registration κ)) : Prop where
  given   : ∀ event, ∀ r ∈ desk.bus.subscribersOf event, desk.given[r.number]? = some (event, r)
  numbers : ∀ number event (r : Registration κ), desk.given[number]? = some (event, r) → r.number = number
  ordered : ∀ event, (desk.bus.subscribersOf event).Pairwise fun r r' => r.number < r'.number

theorem map_erase (r : Registration κ) (l : List (Registration κ)) :
    (l.erase r).map Registration.subscriber = (l.map Registration.subscriber).erase r.subscriber := by
  simp only [List.erase_eq_eraseP', List.eraseP_map]
  rfl

theorem Shows.enroll {desk : Desk (Registration κ)} {plain : Desk κ} (shows : Shows desk plain) (act : Act κ) :
    Shows (desk.enroll act) (plain.operate act) := by
  cases act with
  | subscribe event subscriber =>
    constructor
    case given => simp [Desk.enroll, operate, shows.given]
    case subscribers =>
      intro other
      simp only [Desk.enroll, operate, subscribersOf_subscribe, shows.subscribers]
      split <;> simp
  | release number =>
    rw [Desk.enroll]
    cases hd : desk.given[number]? with
    | none =>
      have unknown : plain.given[number]? = none := by simp [shows.given, hd]
      rw [operate_release_of_none hd, operate_release_of_none unknown]
      exact shows
    | some entry =>
      have ⟨event, r⟩ := entry
      have own : plain.given[number]? = some (event, r.subscriber) := by simp [shows.given, hd]
      rw [operate_release_of_some hd, operate_release_of_some own]
      constructor
      case given => exact shows.given
      case subscribers =>
        intro other
        simp only [subscribersOf_unsubscribe, shows.subscribers]
        split <;> simp [map_erase]

omit [BEq κ] in
theorem Filed.number_lt {desk : Desk (Registration κ)} (filed : Filed desk) {event : String} {r : Registration κ}
    (hr : r ∈ desk.bus.subscribersOf event) : r.number < desk.given.length :=
  (List.getElem?_eq_some_iff.mp (filed.given event r hr)).choose

theorem Filed.enroll {desk : Desk (Registration κ)} (filed : Filed desk) (act : Act κ) : Filed (desk.enroll act) := by
  cases act with
  | subscribe event subscriber =>
    have subscribed : ∀ other, (desk.enroll (.subscribe event subscriber)).bus.subscribersOf other =
        if event == other then desk.bus.subscribersOf other ++ [⟨desk.given.length, subscriber⟩]
        else desk.bus.subscribersOf other := fun other => desk.bus.subscribersOf_subscribe event other _
    have given : (desk.enroll (.subscribe event subscriber)).given =
        desk.given ++ [(event, ⟨desk.given.length, subscriber⟩)] :=
      rfl
    have kept : ∀ other, ∀ r ∈ desk.bus.subscribersOf other,
        (desk.given ++ [(event, (⟨desk.given.length, subscriber⟩ : Registration κ))])[r.number]? = some (other, r) := by
      intro other r hr
      rw [List.getElem?_append_left (filed.number_lt hr), filed.given other r hr]
    constructor
    case given =>
      intro other r hr
      rw [subscribed] at hr
      rw [given]
      split at hr
      case isTrue same =>
        cases List.mem_append.mp hr
        case inl hr => exact kept other r hr
        case inr hr => simp_all
      case isFalse => exact kept other r hr
    case numbers =>
      intro number other r hr
      rw [given] at hr
      by_cases old : number < desk.given.length
      case pos => exact filed.numbers number other r (by rwa [List.getElem?_append_left old] at hr)
      case neg =>
        -- The number is that of the subscription just made.
        have last : number = desk.given.length := by
          have ⟨new, _⟩ := List.getElem?_eq_some_iff.mp hr
          simp at new
          omega
        subst last
        simp at hr
        rw [← hr.right]
    case ordered =>
      intro other
      rw [subscribed]
      split
      case isTrue =>
        refine List.pairwise_append.mpr ⟨filed.ordered other, List.pairwise_singleton _ _, fun r hr r' hr' => ?_⟩
        rw [List.mem_singleton.mp hr']
        exact filed.number_lt hr
      case isFalse => exact filed.ordered other
  | release number =>
    rw [Desk.enroll]
    cases hd : desk.given[number]? with
    | none =>
      rw [operate_release_of_none hd]
      exact filed
    | some entry =>
      have ⟨event, r⟩ := entry
      -- One subscriber is taken off at most, and only of this event.
      have left : ∀ other, ((desk.bus.unsubscribe event r).subscribersOf other).Sublist (desk.bus.subscribersOf other) := by
        intro other
        rw [subscribersOf_unsubscribe]
        split
        case isTrue => exact List.erase_sublist
        case isFalse => exact .refl _
      rw [operate_release_of_some hd]
      exact ⟨fun other r hr => filed.given other r ((left other).subset hr), filed.numbers,
        fun other => (filed.ordered other).sublist (left other)⟩

theorem shows_enrolled (acts : List (Act κ)) : Shows (enrolled acts) (after acts) := by
  have start : Shows ({} : Desk (Registration κ)) {} := ⟨rfl, fun _ => rfl⟩
  rw [enrolled, after]
  generalize ({} : Desk (Registration κ)) = desk, ({} : Desk κ) = plain at start ⊢
  induction acts generalizing desk plain with
  | nil => exact start
  | cons act acts ih => exact ih _ _ (start.enroll act)

theorem filed_enrolled (acts : List (Act κ)) : Filed (enrolled acts) := by
  have nobody : ∀ event, ({} : Desk (Registration κ)).bus.subscribersOf event = [] := fun _ => rfl
  have start : Filed ({} : Desk (Registration κ)) := ⟨by simp [nobody], by simp, by simp [nobody]⟩
  rw [enrolled]
  generalize ({} : Desk (Registration κ)) = desk at start ⊢
  induction acts generalizing desk with
  | nil => exact start
  | cons act acts ih => exact ih _ (start.enroll act)

section Release

variable {acts : List (Act κ)} {number : Nat} {event : String} {subscriber : κ}

theorem given_enrolled (own : (after acts).given[number]? = some (event, subscriber)) :
    (enrolled acts).given[number]? = some (event, ⟨number, subscriber⟩) := by
  have shown := own
  rw [(shows_enrolled acts).given, List.getElem?_map] at shown
  have ⟨entry, enrolled, same⟩ := Option.map_eq_some_iff.mp shown
  have ⟨name, r⟩ := entry
  cases same
  have numbered : r.number = number := (filed_enrolled acts).numbers number name r enrolled
  rw [enrolled, ← numbered]
  rfl

theorem given_release (acts : List (Act κ)) (number : Nat) :
    (after (acts ++ [.release number])).given = (after acts).given := by
  have last : after (acts ++ [.release number]) = (after acts).operate (.release number) := List.foldl_concat ..
  rw [last, operate]
  split <;> rfl

theorem registrations_release (own : (after acts).given[number]? = some (event, subscriber)) (other : String) :
    registrations (acts ++ [.release number]) other =
      if event == other then (registrations acts other).eraseP (·.subscriber == subscriber)
      else registrations acts other := by
  have last : enrolled (acts ++ [.release number]) = (enrolled acts).enroll (.release number) := List.foldl_concat ..
  rw [registrations, last, enroll, operate_release_of_some (given_enrolled own), subscribersOf_unsubscribe,
    List.erase_eq_eraseP']
  rfl

theorem registrations_release_self [ReflBEq κ] (own : (after acts).given[number]? = some (event, subscriber)) :
    registrations (acts ++ [.release number]) event = (registrations acts event).eraseP (·.subscriber == subscriber) := by
  rw [registrations_release own, if_pos (beq_self_eq_true event)]

theorem release_takes_own_iff [ReflBEq κ] (own : (after acts).given[number]? = some (event, subscriber)) :
    registrations (acts ++ [.release number]) event = (registrations acts event).filter (·.number ≠ number) ↔
      ∀ r, (registrations acts event).find? (·.subscriber == subscriber) = some r → r.number = number := by
  have filed := filed_enrolled acts
  have mine : ∀ r ∈ registrations acts event, r.number = number → r.subscriber == subscriber := by
    intro r hr same
    have given := filed.given event r hr
    rw [same, given_enrolled own] at given
    cases given
    exact ReflBEq.rfl
  exact registrations_release_self own ▸ eraseP_eq_filter_iff (filed.ordered event) mine

theorem release_takes_only [ReflBEq κ] (own : (after acts).given[number]? = some (event, subscriber))
    (once : ∀ n s, (after acts).given[n]? = some (event, s) → s == subscriber → n = number) :
    registrations (acts ++ [.release number]) event = (registrations acts event).filter (·.number ≠ number) ∧
    ∀ r ∈ registrations (acts ++ [.release number]) event, ¬r.subscriber == subscriber := by
  have only : ∀ r ∈ registrations acts event, r.subscriber == subscriber → r.number = number := by
    intro r hr equal
    refine once r.number r.subscriber ?_ equal
    rw [(shows_enrolled acts).given, List.getElem?_map, (filed_enrolled acts).given event r hr]
    rfl
  have first := (release_takes_own_iff own).mpr fun r found =>
    only r (List.mem_of_find?_eq_some found) (List.find?_some found : _)
  refine ⟨first, fun r hr equal => ?_⟩
  rw [first] at hr
  have ⟨hr, other⟩ := List.mem_filter.mp hr
  exact of_decide_eq_true other (only r hr equal)

-- The subscribers of an event are the subscriptions to it that are left, in their order. To give up a subscription
-- takes away the first one that is equal, and nothing else. This is the one that was to be given up just if no other
-- one comes first, and there is none just if nothing changes. So whoever subscribed to an event once gives up this
-- subscription and nothing else, and nothing more when it is given up again.
theorem release_first_equal [ReflBEq κ] (own : (after acts).given[number]? = some (event, subscriber)) :
    (∀ other, (after acts).bus.subscribersOf other = (registrations acts other).map Registration.subscriber) ∧
    (∀ other, (registrations acts other).Pairwise fun r r' => r.number < r'.number) ∧
    (∀ other, registrations (acts ++ [.release number]) other =
      if event == other then (registrations acts other).eraseP (·.subscriber == subscriber) else registrations acts other) ∧
    (registrations (acts ++ [.release number]) event = (registrations acts event).filter (·.number ≠ number) ↔
      ∀ r, (registrations acts event).find? (·.subscriber == subscriber) = some r → r.number = number) ∧
    (registrations (acts ++ [.release number]) event = registrations acts event ↔
      ∀ r ∈ registrations acts event, ¬r.subscriber == subscriber) ∧
    ((∀ n s, (after acts).given[n]? = some (event, s) → s == subscriber → n = number) →
      registrations (acts ++ [.release number]) event = (registrations acts event).filter (·.number ≠ number) ∧
      registrations (acts ++ [.release number, .release number]) event =
        registrations (acts ++ [.release number]) event) := by
  have unchanged {acts : List (Act κ)} (own : (after acts).given[number]? = some (event, subscriber)) :
      registrations (acts ++ [.release number]) event = registrations acts event ↔
        ∀ r ∈ registrations acts event, ¬r.subscriber == subscriber :=
    registrations_release_self own ▸ List.eraseP_eq_self_iff
  refine ⟨(shows_enrolled acts).subscribers, (filed_enrolled acts).ordered, registrations_release own,
    release_takes_own_iff own, unchanged own, fun once => ?once⟩
  case once =>
    have ⟨first, left⟩ := release_takes_only own once
    have kept : (after (acts ++ [.release number])).given[number]? = some (event, subscriber) := by rw [given_release, own]
    have again := (unchanged kept).mpr left
    rw [List.append_assoc] at again
    exact ⟨first, again⟩

end Release

def doubled : List (Act String) := [.subscribe "tick" "a", .subscribe "tick" "b", .subscribe "tick" "a"]

theorem release_first_equal_doubled : (after doubled).given[2]? = some ("tick", "a") ∧
    registrations (doubled ++ [.release 2]) "tick" = [⟨1, "b"⟩, ⟨2, "a"⟩] := by
  have own : (after doubled).given[2]? = some ("tick", "a") := by decide +kernel
  have ⟨_, _, released, _⟩ := release_first_equal own
  refine ⟨own, (released "tick").trans ?_⟩
  decide +kernel

-- Giving up the second subscription of a subscriber takes away the first one, and then the second.
theorem release_takes_another :
    (after doubled).given[2]? = some ("tick", "a") ∧
    registrations (doubled ++ [.release 2]) "tick" ≠ (registrations doubled "tick").filter (·.number ≠ 2) ∧
    (after (doubled ++ [.release 2])).bus.subscribersOf "tick" = ["b", "a"] ∧
    registrations (doubled ++ [.release 2, .release 2]) "tick" ≠ registrations (doubled ++ [.release 2]) "tick" ∧
    (after (doubled ++ [.release 2, .release 2])).bus.subscribersOf "tick" = ["b"] := by
  decide +kernel

end Desk

end Keychord.Bus
