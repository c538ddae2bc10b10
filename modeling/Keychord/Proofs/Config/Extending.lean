import Keychord.Proofs.Config.Sound

namespace Keychord

open OrderedMap (Exact)

namespace Scalar

theorem beq_text_iff {key : Scalar} {s : String} : key == text s ↔ key = text s := by
  rw [BEq.beq, instBEq]
  cases key <;> simp [same, whole?]

theorem text_beq_iff {key : Scalar} {s : String} : text s == key ↔ text s = key := by
  rw [BEq.beq, instBEq]
  cases key <;> simp [same, whole?]

theorem exact_text (s : String) : Exact (text s) := ⟨beq_text_iff.mpr rfl, fun _ => beq_text_iff.mp⟩

end Scalar

namespace Config

section Stock

variable {leader timeout : Value} {bindings : OrderedMap String String} {fault : Fault}

theorem build_error_of_filled (filled : ∀ entry ∈ bindings.entries, entry.1 ≠ "" ∧ entry.2 ≠ "")
    (h : build leader timeout (looseBindings bindings) = .error fault) (others : OrderedMap Scalar Value) :
    build leader timeout others = .error fault := by
  rw [build] at h ⊢
  split at h
  case h_1 => exact h
  case h_2 leader' _ =>
    have passed : checkBindings (looseBindings bindings).entries = .ok bindings.entries :=
      checkBindings_eq_ok_iff.mpr ⟨rfl, filled⟩
    cases ht : checkTimeout timeout with
    | error fault' => rw [ht] at h; exact h
    | ok n => rw [ht, passed] at h; cases h

theorem filled_of_selected {changes : Changes} (h : selected changes = .ok bindings) :
    ∀ entry ∈ bindings.entries, entry.1 ≠ "" ∧ entry.2 ≠ "" := by
  have stock : ∀ entry ∈ stockBindings.entries, entry.1 ≠ "" ∧ entry.2 ≠ "" := by decide
  unfold selected at h
  cases hi : changes.included.mapM searchable with
  | error fault => rw [hi] at h; cases h
  | ok included =>
    cases he : searchable changes.excluded with
    | error fault => rw [hi, he] at h; cases h
    | ok excluded =>
      rw [hi, he] at h
      cases h
      exact fun entry among => stock entry ((List.mem_filter.mp among).left)

theorem stock_eq_extended (env : Environment) (changes : Changes) : stock env changes =
    stock env { changes with extra := .empty } >>= fun config => config.withBindings changes.extra := by
  have same : selected { changes with extra := .empty } = selected changes := rfl
  rw [stock, stock, same]
  cases chosen : selected changes with
  | error fault => rfl
  | ok bindings =>
    have unchanged : (looseBindings bindings).update .empty = looseBindings bindings := rfl
    dsimp only [bind, Except.bind]
    rw [unchanged]
    cases built : build (orElse changes.leader (.text (defaultLeader env)))
        (orElse changes.timeout (.int (defaultTimeout env))) (looseBindings bindings) with
    | error fault => exact build_error_of_filled (filled_of_selected chosen) built _
    | ok config =>
      obtain ⟨⟨leader, timeout, taken⟩, -⟩ := build_eq_ok_iff.mp built
      rw [leader, timeout, taken]
      rfl

end Stock

section Twice

variable {config config' : Config} {first more : OrderedMap Scalar Value}

theorem exists_text_of_extended (h : config.withBindings first = .ok config') : ∀ key ∈ first.keys, ∃ s, key = .text s := by
  obtain ⟨⟨-, -, merged⟩, -⟩ := build_eq_ok_iff.mp h
  intro key hk
  obtain ⟨entry, he, rfl⟩ := List.mem_map.mp hk
  obtain ⟨k, among, same⟩ := OrderedMap.exists_key_insertAll (m := looseBindings config.bindings) he
  have text : ∃ s, k = .text s := by
    have among : k ∈ (looseBindings config'.bindings).keys := merged ▸ among
    rw [OrderedMap.keys, looseBindings, List.map_map] at among
    obtain ⟨binding, -, rfl⟩ := List.mem_map.mp among
    exact ⟨binding.1, rfl⟩
  obtain ⟨s, rfl⟩ := text
  exact ⟨s, (same.elim id Scalar.text_beq_iff.mp).symm⟩

theorem withBindings_withBindings (distinct : first.Distinct) (distinct' : more.Distinct)
    (valid : config.withBindings first = .ok config') :
    config'.withBindings more = config.withBindings (first.update more) := by
  have texts := exists_text_of_extended valid
  obtain ⟨⟨leader, timeout, merged⟩, -⟩ := build_eq_ok_iff.mp valid
  have exact : ∀ k ∈ first.keys, ∀ key ∈ more.keys, k == key → Exact key := by
    intro k hk key _ same
    obtain ⟨s, rfl⟩ := texts k hk
    exact Scalar.text_beq_iff.mp same ▸ Scalar.exact_text s
  rw [withBindings, withBindings, ← leader, ← timeout, ← merged, OrderedMap.update_update distinct distinct' exact]

end Twice

abbrev Store := List (OrderedMap Scalar Value)

namespace Store

def read (store : Store) (n : Nat) : OrderedMap Scalar Value := store.getD n .empty

def copy (store : Store) (n : Nat) : Nat × Store := (store.length, store ++ [store.read n])

def merge (store : Store) (n more : Nat) : Store := store.set n ((store.read n).update (store.read more))

theorem read_concat (store : Store) (m : OrderedMap Scalar Value) : read (store ++ [m]) store.length = m := by simp [read]

theorem read_of_lt {store : Store} {n : Nat} (there : n < store.length) (m : OrderedMap Scalar Value) :
    read (store ++ [m]) n = store.read n := by
  simp only [read, List.getD_eq_getElem?_getD, List.getElem?_append_left there]

theorem merge_concat {store : Store} {more : Nat} (there : more < store.length) (m : OrderedMap Scalar Value) :
    merge (store ++ [m]) store.length more = store ++ [m.update (store.read more)] := by
  rw [merge, read_concat, read_of_lt there]
  simp

end Store

structure Stored where
  leader : String
  timeout : Int
  bindings : Nat

namespace Stored

-- Extends a configuration: what is given goes into a copy of its bindings. If the copy passes the checks it is copied
-- once more, for the new configuration alone.
def extend (stored : Stored) (more : Nat) (store : Store) : Except Fault Stored × Store :=
  let (merged, store) := store.copy stored.bindings
  let store := store.merge merged more
  match build (.text stored.leader) (.int stored.timeout) (store.read merged) with
  | .error fault => (.error fault, store)
  | .ok config =>
    let (own, store) := store.copy merged
    (.ok ⟨config.leader, config.timeout, own⟩, store)

structure Holds (stored : Stored) (store : Store) (config : Config) : Prop where
  leader   : stored.leader = config.leader
  timeout  : stored.timeout = config.timeout
  bindings : store[stored.bindings]? = some (looseBindings config.bindings)

def Answers (store : Store) : Except Fault Stored → Except Fault Config → Prop
  | .ok stored, .ok config => stored.Holds store config
  | .error fault, .error fault' => fault = fault'
  | _, _ => False

variable {stored : Stored} {store store' : Store} {config : Config}

theorem Holds.of_prefix (holds : stored.Holds store config) (grown : store <+: store') : stored.Holds store' config := by
  obtain ⟨new, rfl⟩ := grown
  obtain ⟨inside, -⟩ := List.getElem?_eq_some_iff.mp holds.bindings
  exact ⟨holds.leader, holds.timeout, by rw [List.getElem?_append_left inside, holds.bindings]⟩

theorem extend_spec {number : Nat} {more : OrderedMap Scalar Value} (holds : stored.Holds store config)
    (given : store[number]? = some more) :
    ∃ outcome store', stored.extend number store = (outcome, store') ∧ store <+: store' ∧
      Answers store' outcome (config.withBindings more) := by
  obtain ⟨there, -⟩ := List.getElem?_eq_some_iff.mp given
  have own : store.read stored.bindings = looseBindings config.bindings := by simp [Store.read, holds.bindings]
  have new : store.read number = more := by simp [Store.read, given]
  rw [extend]
  simp only [Store.copy, own, Store.merge_concat there, new, Store.read_concat, holds.leader, holds.timeout]
  cases built : config.withBindings more with
  | error fault =>
    rw [withBindings] at built
    rw [built]
    exact ⟨_, _, rfl, List.prefix_append _ _, rfl⟩
  | ok config' =>
    obtain ⟨⟨-, -, merged⟩, -⟩ := build_eq_ok_iff.mp built
    rw [withBindings] at built
    rw [built]
    refine ⟨_, _, rfl, (List.prefix_append _ _).trans (List.prefix_append _ _), rfl, rfl, ?_⟩
    simp [merged]

end Stored

-- Bindings that are asked for with the stock configuration are those that extend it; a configuration that is extended
-- twice is extended once, by the first bindings extended by the others; and a configuration that has been extended is
-- what it was.
theorem extensions_agree :
    (∀ (env : Environment) (changes : Changes), stock env changes =
      stock env { changes with extra := .empty } >>= fun config => config.withBindings changes.extra) ∧
    (∀ (config config' : Config) (first more : OrderedMap Scalar Value), first.Distinct → more.Distinct →
      config.withBindings first = .ok config' → config'.withBindings more = config.withBindings (first.update more)) ∧
    ∀ (store : Store) (stored : Stored) (config : Config) (number : Nat) (more : OrderedMap Scalar Value),
      stored.Holds store config → store[number]? = some more →
      ∃ outcome store', stored.extend number store = (outcome, store') ∧
        Stored.Answers store' outcome (config.withBindings more) ∧
        ∀ (kept : Stored) (known : Config), kept.Holds store known → kept.Holds store' known := by
  refine ⟨stock_eq_extended, fun _ _ _ _ => withBindings_withBindings, fun store stored config number more holds given => ?_⟩
  obtain ⟨outcome, store', extended, grown, answers⟩ := Stored.extend_spec holds given
  exact ⟨outcome, store', extended, answers, fun _ _ kept => kept.of_prefix grown⟩

theorem extensions_agree_overriding :
    let config : Config := ⟨" ", 300, ⟨[("j", "down"), ("h", "left")]⟩⟩
    let first : OrderedMap Scalar Value := ⟨[(.text "k", .text "up"), (.text "j", .text "bottom")]⟩
    let more : OrderedMap Scalar Value := ⟨[(.text "j", .text "end"), (.text "l", .text "right"), (.text "k", .text "top")]⟩
    first.Distinct ∧ more.Distinct ∧
      config.withBindings first = .ok ⟨" ", 300, ⟨[("j", "bottom"), ("h", "left"), ("k", "up")]⟩⟩ ∧
      config.withBindings (first.update more) =
        .ok ⟨" ", 300, ⟨[("j", "end"), ("h", "left"), ("k", "top"), ("l", "right")]⟩⟩ := by
  intro config first more
  have distinct : first.Distinct := by decide +kernel
  have distinct' : more.Distinct := by decide +kernel
  have valid : config.withBindings first = .ok ⟨" ", 300, ⟨[("j", "bottom"), ("h", "left"), ("k", "up")]⟩⟩ := by
    decide +kernel
  obtain ⟨-, twice, -⟩ := extensions_agree
  refine ⟨distinct, distinct', valid, ?_⟩
  rw [← twice config _ first more distinct distinct' valid]
  decide +kernel

end Config

end Keychord
