import Keychord.Config.Basic
import Keychord.Proofs.OrderedMap

namespace Keychord

namespace Config

section Checks

variable {value leader timeout : Value} {bindings : OrderedMap Scalar Value} {config : Config}

theorem nonempty?_eq_some_iff {s : String} : nonempty? value = some s ↔ value = .text s ∧ s ≠ "" := by
  rw [nonempty?, Option.filter_eq_some_iff]
  constructor
  · intro ⟨text, filled⟩
    unfold Value.asText? at text
    split at text
    case h_1 => cases text; exact ⟨rfl, by simpa using filled⟩
    case h_2 => cases text
  · rintro ⟨rfl, filled⟩
    exact ⟨rfl, by simpa using filled⟩

theorem checkTimeout_eq_ok_iff {n : Int} : checkTimeout value = .ok n ↔ value = .int n ∧ 0 < n := by
  constructor
  · intro h
    unfold checkTimeout at h
    split at h
    case h_1 =>
      split at h
      case isTrue => cases h
      case isFalse positive => cases h; exact ⟨rfl, Int.not_le.mp positive⟩
    case h_2 => cases h
  · rintro ⟨rfl, positive⟩
    exact if_neg (Int.not_le.mpr positive)

theorem checkBinding_eq_ok_iff {key : Scalar} {source command : String} : checkBinding key value = .ok (source, command) ↔
    (key = .text source ∧ value = .text command) ∧ source ≠ "" ∧ command ≠ "" := by
  constructor
  · intro h
    unfold checkBinding at h
    split at h
    case h_1 => cases h
    case h_2 hs =>
      split at h
      case h_1 => cases h
      case h_2 hc =>
        cases h
        obtain ⟨text, filled⟩ := nonempty?_eq_some_iff.mp hs
        obtain ⟨rfl, filled'⟩ := nonempty?_eq_some_iff.mp hc
        exact ⟨⟨Value.scalar.inj text, rfl⟩, filled, filled'⟩
  · rintro ⟨⟨rfl, rfl⟩, filled, filled'⟩
    have hs : nonempty? (.scalar (.text source)) = some source := nonempty?_eq_some_iff.mpr ⟨rfl, filled⟩
    have hc : nonempty? (.text command) = some command := nonempty?_eq_some_iff.mpr ⟨rfl, filled'⟩
    rw [checkBinding, hs, hc]

theorem checkBindings_eq_ok_iff {entries : List (Scalar × Value)} {checked : List (String × String)} :
    checkBindings entries = .ok checked ↔
      entries = checked.map (fun (source, command) => (.text source, .text command)) ∧
        ∀ entry ∈ checked, entry.1 ≠ "" ∧ entry.2 ≠ "" := by
  induction entries generalizing checked with
  | nil => cases checked <;> simp [checkBindings]
  | cons entry rest ih =>
    obtain ⟨key, value⟩ := entry
    have step : checkBindings ((key, value) :: rest) = .ok checked ↔
        ∃ b more, checkBinding key value = .ok b ∧ checkBindings rest = .ok more ∧ checked = b :: more := by
      rw [checkBindings]
      cases checkBinding key value with
      | error fault => simp [bind, Except.bind]
      | ok b => cases checkBindings rest <;> simp [bind, Except.bind, pure, Except.pure, eq_comm]
    simp only [step, ih, Prod.exists, checkBinding_eq_ok_iff]
    constructor
    · rintro ⟨source, command, more, ⟨⟨rfl, rfl⟩, filled⟩, ⟨rfl, others⟩, rfl⟩
      exact ⟨rfl, List.forall_mem_cons.mpr ⟨filled, others⟩⟩
    · rintro ⟨same, filled⟩
      cases checked with
      | nil => cases same
      | cons b more =>
        obtain ⟨first, rest⟩ := List.cons.inj same
        obtain ⟨here, others⟩ := List.forall_mem_cons.mp filled
        exact ⟨b.1, b.2, more, ⟨Prod.mk.inj first, here⟩, ⟨rest, others⟩, rfl⟩

theorem build_eq_ok_iff : build leader timeout bindings = .ok config ↔
    (leader = .text config.leader ∧ timeout = .int config.timeout ∧ bindings = looseBindings config.bindings) ∧
      config.leader ≠ "" ∧ 0 < config.timeout ∧ ∀ entry ∈ config.bindings.entries, entry.1 ≠ "" ∧ entry.2 ≠ "" := by
  constructor
  · intro h
    rw [build] at h
    split at h
    case h_1 => cases h
    case h_2 leader hl =>
      cases ht : checkTimeout timeout with
      | error fault => rw [ht] at h; cases h
      | ok n =>
        cases hb : checkBindings bindings.entries with
        | error fault => rw [ht, hb] at h; cases h
        | ok entries =>
          rw [ht, hb] at h
          cases h
          obtain ⟨rfl, filled⟩ := nonempty?_eq_some_iff.mp hl
          obtain ⟨rfl, positive⟩ := checkTimeout_eq_ok_iff.mp ht
          obtain ⟨texts, others⟩ := checkBindings_eq_ok_iff.mp hb
          exact ⟨⟨rfl, rfl, congrArg OrderedMap.mk texts⟩, filled, positive, others⟩
  · rintro ⟨⟨rfl, rfl, rfl⟩, filled, positive, others⟩
    rw [build, nonempty?_eq_some_iff.mpr ⟨rfl, filled⟩]
    simp only [checkTimeout_eq_ok_iff.mpr ⟨rfl, positive⟩, looseBindings, checkBindings_eq_ok_iff.mpr ⟨rfl, others⟩]
    rfl

end Checks

structure Sound (config : Config) : Prop where
  leader   : config.leader ≠ ""
  timeout  : 0 < config.timeout
  filled   : ∀ entry ∈ config.bindings.entries, entry.1 ≠ "" ∧ entry.2 ≠ ""
  distinct : config.bindings.Distinct

theorem distinct_looseBindings {bindings : OrderedMap String String} :
    (looseBindings bindings).Distinct ↔ bindings.Distinct := by
  rw [OrderedMap.Distinct, OrderedMap.Distinct, OrderedMap.keys, looseBindings, OrderedMap.keys, List.map_map,
    List.pairwise_map, List.pairwise_map]
  exact Iff.rfl

theorem sound_of_build {leader timeout : Value} {bindings : OrderedMap Scalar Value} {config : Config}
    (distinct : bindings.Distinct) (h : build leader timeout bindings = .ok config) : config.Sound := by
  obtain ⟨⟨-, -, rfl⟩, leader, positive, filled⟩ := build_eq_ok_iff.mp h
  exact ⟨leader, positive, filled, distinct_looseBindings.mp distinct⟩

def Keyed : Value → Prop
  | .map entries => (⟨entries⟩ : OrderedMap Scalar Value).Distinct
  | _ => True

theorem distinct_mappingOf {value : Value} {bindings : OrderedMap Scalar Value} (keyed : Keyed value)
    (h : mappingOf value = .ok bindings) : bindings.Distinct := by
  unfold mappingOf at h
  split at h
  case isTrue => cases h; exact OrderedMap.distinct_empty
  case isFalse =>
    split at h
    case h_1 => cases h; exact keyed
    case h_2 =>
      split at h
      case h_1 => cases h
      case h_2 items _ =>
        cases hp : pairsFrom 0 items with
        | error fault => rw [hp] at h; cases h
        | ok pairs => rw [hp] at h; cases h; exact OrderedMap.distinct_ofList pairs

-- A configuration, whichever way it has been come by: made of what is given, read from loose data, taken from the
-- stock, or extended. A map that is given has no key twice.
inductive Obtained : Config → Prop
  | made {leader timeout : Value} {bindings : OrderedMap Scalar Value} {config : Config} (distinct : bindings.Distinct)
      (made : build leader timeout bindings = .ok config) : Obtained config
  | read {env : Environment} {data : OrderedMap Scalar Value} {config : Config}
      (keyed : ∀ bindings ∈ data.get? (.text "bindings"), Keyed bindings) (read : ofData env data = .ok config) :
      Obtained config
  | stock {env : Environment} {changes : Changes} {config : Config} (taken : stock env changes = .ok config) :
      Obtained config
  | extended {config config' : Config} {more : OrderedMap Scalar Value} (obtained : Obtained config)
      (extended : config.withBindings more = .ok config') : Obtained config'

theorem sound_of_ofData {env : Environment} {data : OrderedMap Scalar Value} {config : Config}
    (keyed : ∀ bindings ∈ data.get? (.text "bindings"), Keyed bindings) (h : ofData env data = .ok config) :
    config.Sound := by
  have keyed : Keyed ((data.get? (.text "bindings")).getD .null) := by
    cases given : data.get? (.text "bindings") with
    | none => trivial
    | some bindings => exact keyed bindings given
  unfold ofData at h
  dsimp only at h
  cases hm : mappingOf ((data.get? (.text "bindings")).getD .null) with
  | error fault => rw [hm] at h; cases h
  | ok bindings =>
    rw [hm] at h
    exact sound_of_build (distinct_mappingOf keyed hm) h

theorem distinct_selected {changes : Changes} {bindings : OrderedMap String String}
    (h : selected changes = .ok bindings) : bindings.Distinct := by
  unfold selected at h
  cases hi : changes.included.mapM searchable with
  | error fault => rw [hi] at h; cases h
  | ok included =>
    cases he : searchable changes.excluded with
    | error fault => rw [hi, he] at h; cases h
    | ok excluded =>
      rw [hi, he] at h
      cases h
      have stock : stockBindings.keys.Pairwise (· != ·) := by decide
      exact stock.sublist (List.filter_sublist.map _)

theorem sound_of_stock {env : Environment} {changes : Changes} {config : Config} (h : stock env changes = .ok config) :
    config.Sound := by
  unfold stock at h
  cases hs : selected changes with
  | error fault => rw [hs] at h; cases h
  | ok bindings =>
    rw [hs] at h
    exact sound_of_build ((distinct_looseBindings.mpr (distinct_selected hs)).insertAll _) h

theorem sound_of_withBindings {config config' : Config} {more : OrderedMap Scalar Value} (sound : config.Sound)
    (h : config.withBindings more = .ok config') : config'.Sound :=
  sound_of_build ((distinct_looseBindings.mpr sound.distinct).insertAll _) h

-- A configuration is sound, whichever way it has been come by.
theorem Obtained.sound {config : Config} (obtained : config.Obtained) : config.Sound := by
  induction obtained with
  | made distinct made => exact sound_of_build distinct made
  | read keyed read => exact sound_of_ofData keyed read
  | stock taken => exact sound_of_stock taken
  | extended _ extended sound => exact sound_of_withBindings sound extended

end Config

end Keychord
