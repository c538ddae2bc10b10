import Keychord.Proofs.Keymap.Conflict
import Mathlib.Data.List.Nodup
import Mathlib.Data.List.Perm.Basic

namespace Keychord.Keymap

variable {parsed parsed' : List Binding} {b other : Binding}

section Read

variable {key : Key} {bindings bindings' : OrderedMap String String}

theorem exists_perm_read (hr : readBindings key bindings.entries = .ok parsed)
    (hp : bindings'.entries.Perm bindings.entries) :
    ∃ parsed', parsed'.Perm parsed ∧ readBindings key bindings'.entries = .ok parsed' := by
  obtain ⟨he, hk⟩ := readBindings_eq_ok_iff.mp hr
  rw [← he] at hp
  obtain ⟨parsed', he', hp'⟩ := (congrFun₂ (List.eq_map_comp_perm fun b : Binding => (b.source, b.command)) _ _).mpr hp
  exact ⟨parsed', hp', readBindings_eq_ok_iff.mpr ⟨he'.symm, fun b hb => hk b (hp'.mem_iff.mp hb)⟩⟩

theorem exists_perm_entries (hr : readBindings key bindings.entries = .ok parsed) (hp : parsed'.Perm parsed) :
    ∃ bindings' : OrderedMap String String, bindings'.entries.Perm bindings.entries ∧
      readBindings key bindings'.entries = .ok parsed' := by
  obtain ⟨he, hk⟩ := readBindings_eq_ok_iff.mp hr
  refine ⟨⟨parsed'.map fun b => (b.source, b.command)⟩, he ▸ hp.map _, ?_⟩
  exact readBindings_eq_ok_iff.mpr ⟨rfl, fun b hb => hk b (hp.mem_iff.mp hb)⟩

end Read

theorem exists_conflict_of_perm (hp : parsed'.Perm parsed) (h : ∃ c, firstConflict? parsed = some c) :
    ∃ c, firstConflict? parsed' = some c := by
  obtain ⟨c, hc⟩ := h
  obtain ⟨b, hb, other, ho, clash, -⟩ := clashes_of_firstConflict? hc
  cases hc' : firstConflict? parsed' with
  | some c' => exact ⟨c', rfl⟩
  | none =>
    have apart := firstConflict?_eq_none_iff.mp hc' b (hp.mem_iff.mpr hb) other (hp.mem_iff.mpr ho) c.clash
    exact absurd clash apart

-- Two bindings that come first, in the order in which they are found to clash.
section First

theorem exists_perm_first (hb : b ∈ parsed) (ho : other ∈ parsed) (hne : b ≠ other) :
    ∃ rest, (other :: b :: rest).Perm parsed := by
  have later : b ∈ parsed.erase other := (List.mem_erase_of_ne hne).mpr hb
  refine ⟨(parsed.erase other).erase b, ?_⟩
  exact ((List.perm_cons_erase later).symm.cons other).trans (List.perm_cons_erase ho).symm

theorem firstConflict?_startsChord (hc : b.Clashes .startsChord other) (rest : List Binding) :
    firstConflict? (other :: b :: rest) = some ⟨b.source, .startsChord, other.source⟩ := by
  obtain ⟨hb, ho, he⟩ := hc
  have unstarted : startedChord? (other :: b :: rest) other = none := by
    rw [startedChord?_eq, if_neg (by omega)]
  have started : startedChord? (other :: b :: rest) b = some other := by
    rw [startedChord?_eq, if_pos hb]
    simp [Binding.isChord, ho, he]
  simp [firstConflict?, firstConflict?.go, conflictOf?, unstarted, started, sameKeys?]

theorem length_eq_of_edges (h : b.edges = other.edges) : b.keys.length = other.keys.length := by
  simpa [Binding.edges] using congrArg List.length h

theorem firstConflict?_sameKeys (hc : b.Clashes .sameKeys other) {rest : List Binding}
    (ho : startedChord? (other :: b :: rest) other = none) :
    firstConflict? (other :: b :: rest) = some ⟨b.source, .sameKeys, other.source⟩ := by
  obtain ⟨he, hc⟩ := hc
  have unstarted : startedChord? (other :: b :: rest) b = none := by
    rwa [startedChord?_eq, length_eq_of_edges he, he, ← startedChord?_eq]
  have same : sameKeys? [other] b = some other := by simp [sameKeys?, he, hc.symm, Option.filter]
  have first : conflictOf? (other :: b :: rest) [] other = none := by simp [conflictOf?, ho, sameKeys?]
  have second : conflictOf? (other :: b :: rest) [other] b = some ⟨b.source, .sameKeys, other.source⟩ := by
    simp [conflictOf?, unstarted, same]
  simp [firstConflict?, firstConflict?.go, first, second]

end First

def Steady (parsed : List Binding) (source target : String) : Prop :=
  ∀ parsed' : List Binding, parsed'.Perm parsed → ∀ c, firstConflict? parsed' = some c →
    c.source = source ∧ c.other = target

-- Bindings of which no two have the same keys and two commands, and of which at most one is the first key of at most one
-- chord.
structure ClashOnce (bound : Binding → Prop) : Prop where
  keys   : ∀ b other, bound b → bound other → ¬b.Clashes .sameKeys other
  chords : ∀ b other b' other', bound b → bound other → bound b' → bound other' →
    b.Clashes .startsChord other → b'.Clashes .startsChord other' → b = b' ∧ other = other'

theorem Binding.Clashes.symm (hc : b.Clashes .sameKeys other) : other.Clashes .sameKeys b :=
  ⟨hc.left.symm, hc.right.symm⟩

theorem Binding.Clashes.congr {chord : Binding} (hs : b.Clashes .startsChord chord) (he : b.edges = other.edges) :
    other.Clashes .startsChord chord :=
  ⟨length_eq_of_edges he ▸ hs.left, hs.right.left, he ▸ hs.right.right⟩

namespace Steady

variable {source target : String}

theorem startsChord (steady : Steady parsed source target) (hb : b ∈ parsed) (ho : other ∈ parsed)
    (hc : b.Clashes .startsChord other) : b.source = source ∧ other.source = target := by
  have hne : b ≠ other := by
    rintro rfl
    obtain ⟨single, chord, -⟩ := hc
    omega
  obtain ⟨rest, hp⟩ := exists_perm_first hb ho hne
  exact steady _ hp _ (firstConflict?_startsChord hc rest)

theorem sameKeys (steady : Steady parsed source target) (hb : b ∈ parsed) (ho : other ∈ parsed) (hne : b ≠ other)
    (hc : b.Clashes .sameKeys other) (unstarted : ∀ chord ∈ parsed, ¬other.Clashes .startsChord chord) :
    b.source = source := by
  obtain ⟨rest, hp⟩ := exists_perm_first hb ho hne
  have none : startedChord? (other :: b :: rest) other = none :=
    startedChord?_eq_none_iff.mpr fun chord hm => unstarted chord (hp.mem_iff.mp hm)
  exact (steady _ hp _ (firstConflict?_sameKeys hc none)).left

-- Each of two bindings with the same keys would be named first in some order: it comes after the other one, or after
-- a chord that both of them start.
theorem not_sameKeys (steady : Steady parsed source target) (hb : b ∈ parsed) (ho : other ∈ parsed)
    (hn : b.source ≠ other.source) : ¬b.Clashes .sameKeys other := by
  intro hc
  have hne : b ≠ other := by rintro rfl; exact hn rfl
  by_cases started : ∃ chord ∈ parsed, b.Clashes .startsChord chord
  case pos =>
    obtain ⟨chord, hm, hs⟩ := started
    have named := steady.startsChord hb hm hs
    have named' := steady.startsChord ho hm (hs.congr hc.left)
    exact hn (named.left.trans named'.left.symm)
  case neg =>
    push Not at started
    have unstarted : ∀ chord ∈ parsed, ¬other.Clashes .startsChord chord :=
      fun chord hm hs => started chord hm (hs.congr hc.left.symm)
    have named := steady.sameKeys hb ho hne hc unstarted
    have named' := steady.sameKeys ho hb hne.symm hc.symm started
    exact hn (named.trans named'.symm)

theorem clashOnce (steady : Steady parsed source target) (distinct : (parsed.map Binding.source).Nodup) :
    ClashOnce (· ∈ parsed) where
  keys b other hb ho hc := by
    have hn : b.source ≠ other.source := by
      intro hs
      have same := List.inj_on_of_nodup_map distinct hb ho hs
      exact hc.right (congrArg _ same)
    exact steady.not_sameKeys hb ho hn hc
  chords b other b' other' hb ho hb' ho' hc hc' := by
    obtain ⟨hs, ht⟩ := steady.startsChord hb ho hc
    obtain ⟨hs', ht'⟩ := steady.startsChord hb' ho' hc'
    exact ⟨List.inj_on_of_nodup_map distinct hb hb' (hs.trans hs'.symm),
      List.inj_on_of_nodup_map distinct ho ho' (ht.trans ht'.symm)⟩

end Steady

namespace ClashOnce

theorem startsChord (once : ClashOnce (· ∈ parsed)) (hb : b ∈ parsed) (ho : other ∈ parsed) {clash : Clash}
    (hc : b.Clashes clash other) : b.Clashes .startsChord other := by
  cases clash with
  | startsChord => exact hc
  | sameKeys => exact absurd hc (once.keys b other hb ho)

theorem of_none (h : firstConflict? parsed = none) : ClashOnce (· ∈ parsed) where
  keys b other hb ho := firstConflict?_eq_none_iff.mp h b hb other ho .sameKeys
  chords b other _ _ hb ho _ _ hc _ := absurd hc (firstConflict?_eq_none_iff.mp h b hb other ho .startsChord)

theorem firstConflict?_perm (once : ClashOnce (· ∈ parsed)) (hp : parsed'.Perm parsed) {c : Conflict}
    (hc : firstConflict? parsed = some c) :
    ∃ c', firstConflict? parsed' = some c' ∧ c'.source = c.source ∧ c'.other = c.other := by
  obtain ⟨c', hc'⟩ := exists_conflict_of_perm hp ⟨c, hc⟩
  obtain ⟨b, hb, other, ho, clash, hs, ht⟩ := clashes_of_firstConflict? hc
  obtain ⟨b', hb', other', ho', clash', hs', ht'⟩ := clashes_of_firstConflict? hc'
  rw [hp.mem_iff] at hb' ho'
  obtain ⟨rfl, rfl⟩ := once.chords b other b' other' hb ho hb' ho' (once.startsChord hb ho clash)
    (once.startsChord hb' ho' clash')
  exact ⟨c', hc', hs'.trans hs.symm, ht'.trans ht.symm⟩

end ClashOnce

def SameReport (leader : Notation.Leader) (timeout : Int) (bindings bindings' : OrderedMap String String) : Prop :=
  ∀ c, compile leader timeout bindings = .error (.conflict c) →
    ∃ c', compile leader timeout bindings' = .error (.conflict c') ∧ c'.source = c.source ∧ c'.other = c.other

theorem sameReport_iff_clashOnce {leader : Notation.Leader} {timeout : Int} {key : Key}
    {bindings : OrderedMap String String} (hl : leader.toKey = .ok key) (hr : Readable key bindings)
    (hd : bindings.keys.Nodup) :
    (∀ bindings', bindings'.entries.Perm bindings.entries → SameReport leader timeout bindings bindings') ↔
      ClashOnce (·.IsIn key bindings) := by
  obtain ⟨parsed, hp⟩ := hr.exists_readBindings
  have mem : (fun b : Binding => b.IsIn key bindings) = (· ∈ parsed) := by
    funext b
    exact propext (mem_iff_of_readBindings hp).symm
  have distinct : (parsed.map Binding.source).Nodup := by
    rw [OrderedMap.keys, ← (readBindings_eq_ok_iff.mp hp).left, List.map_map] at hd
    exact hd
  rw [mem]
  constructor
  · intro same
    cases hc : firstConflict? parsed with
    | none => exact .of_none hc
    | some c =>
      have steady : Steady parsed c.source c.other := by
        intro parsed' hp' c' hc'
        obtain ⟨bindings', hb, hr'⟩ := exists_perm_entries hp hp'
        obtain ⟨c'', hc'', named⟩ := same bindings' hb c ((compile_eq_conflict_iff hl hp).mpr hc)
        rw [compile_eq_conflict_iff hl hr', hc'] at hc''
        cases hc''
        exact named
      exact steady.clashOnce distinct
  · intro once bindings' hb c hc
    obtain ⟨parsed', hp', hr'⟩ := exists_perm_read hp hb
    rw [compile_eq_conflict_iff hl hp] at hc
    simp only [compile_eq_conflict_iff hl hr']
    exact once.firstConflict?_perm hp' hc

def started : OrderedMap String String := ⟨[("gg", "end"), ("x", "cut"), ("g", "top")]⟩

def startedBindings : List Binding :=
  [⟨"gg", [.ofChar 'g' .none, .ofChar 'g' .none], "end"⟩, ⟨"x", [.ofChar 'x' .none], "cut"⟩,
    ⟨"g", [.ofChar 'g' .none], "top"⟩]

theorem clashOnce_started : ClashOnce (·.IsIn Notation.defaultLeader started) := by
  have read : readBindings Notation.defaultLeader started.entries = .ok startedBindings := by decide +kernel
  have mem : ∀ {b : Binding}, b.IsIn Notation.defaultLeader started → b ∈ startedBindings :=
    (mem_iff_of_readBindings read).mpr
  have keys : ∀ b ∈ startedBindings, ∀ other ∈ startedBindings, ¬b.Clashes .sameKeys other := by decide +kernel
  have chords : ∀ b ∈ startedBindings, ∀ other ∈ startedBindings, b.Clashes .startsChord other →
      b.source = "g" ∧ other.source = "gg" := by decide +kernel
  have sources : ∀ b ∈ startedBindings, ∀ b' ∈ startedBindings, b.source = b'.source → b = b' := by decide +kernel
  refine ⟨fun b other hb ho => keys b (mem hb) other (mem ho), fun b other b' other' hb ho hb' ho' hc hc' => ?_⟩
  obtain ⟨hs, ht⟩ := chords b (mem hb) other (mem ho) hc
  obtain ⟨hs', ht'⟩ := chords b' (mem hb') other' (mem ho') hc'
  exact ⟨sources b (mem hb) b' (mem hb') (hs.trans hs'.symm), sources other (mem ho) other' (mem ho') (ht.trans ht'.symm)⟩

theorem sameReport_iff_clashOnce_started : Readable Notation.defaultLeader started ∧ started.keys.Nodup ∧
    compile (.key Notation.defaultLeader) 500 started = .error (.conflict ⟨"g", .startsChord, "gg"⟩) ∧
      ∀ bindings', bindings'.entries.Perm started.entries →
        SameReport (.key Notation.defaultLeader) 500 started bindings' := by
  have readable : Readable Notation.defaultLeader started := by decide +kernel
  have distinct : started.keys.Nodup := by decide +kernel
  exact ⟨readable, distinct, rfl, (sameReport_iff_clashOnce rfl readable distinct).mpr clashOnce_started⟩

def forked : OrderedMap String String := ⟨[("g", "top"), ("ga", "align"), ("gb", "bold")]⟩

def forkedBack : OrderedMap String String := ⟨[("g", "top"), ("gb", "bold"), ("ga", "align")]⟩

theorem report_depends_on_order : ¬∀ (leader : Notation.Leader) (timeout : Int) (key : Key)
    (bindings bindings' : OrderedMap String String), leader.toKey = .ok key →
      (∀ source ∈ bindings.keys, ∃ keys, Notation.parse key source = .ok keys) → bindings.keys.Nodup →
        bindings'.entries.Perm bindings.entries → SameReport leader timeout bindings bindings' := by
  intro same
  have readable : Readable Notation.defaultLeader forked := by decide +kernel
  have parses : ∀ source ∈ forked.keys, ∃ keys, Notation.parse Notation.defaultLeader source = .ok keys := by
    intro source hs
    obtain ⟨entry, he, rfl⟩ := List.mem_map.mp hs
    exact (readable entry he).right
  have distinct : forked.keys.Nodup := by decide +kernel
  have reordered : forkedBack.entries.Perm forked.entries := .cons _ (.swap _ _ _)
  have first : compile (.key Notation.defaultLeader) 500 forked = .error (.conflict ⟨"g", .startsChord, "ga"⟩) := rfl
  have second : compile (.key Notation.defaultLeader) 500 forkedBack = .error (.conflict ⟨"g", .startsChord, "gb"⟩) := rfl
  obtain ⟨c, hc, -, target⟩ := same _ 500 _ forked forkedBack rfl parses distinct reordered _ first
  rw [second] at hc
  cases hc
  revert target
  decide

end Keychord.Keymap
