import Keychord.CommandLine.Basic
import Keychord.Notation.Reading
import Keychord.Proofs.OrderedMap

namespace Keychord

namespace Text

variable {mark : Char} {before cs : List Char}

theorem cut_append (first : mark ∉ before) (after : List Char) :
    cut mark (before ++ mark :: after) = (before, some after) := by
  induction before with
  | nil => simp [cut]
  | cons c before ih =>
    have ⟨other, first⟩ : mark ≠ c ∧ mark ∉ before := by simpa using first
    simp [cut, ih first, other.symm]

theorem exists_cut (h : mark ∈ cs) :
    ∃ before after, cs = before ++ mark :: after ∧ mark ∉ before ∧ cut mark cs = (before, some after) := by
  obtain ⟨before, after, rfl, first⟩ := List.eq_append_cons_of_mem h
  exact ⟨before, after, rfl, first, cut_append first after⟩

end Text

namespace CommandLine

def wordOf (b : String × String) : String := b.1 ++ "=" ++ b.2

-- The binding that is read from the word of one that was meant. There is but one, and it is the one that was meant if the
-- notation of that has no equals sign.
structure ReadFrom (meant read : String × String) : Prop where
  word  : wordOf read = wordOf meant
  whole : '=' ∉ read.1.toList

-- The bindings of a list in their order: each notation stands where it came first, with the command that came last.
structure BuiltOf (pairs : List (String × String)) (m : OrderedMap String String) : Prop where
  keys : m.keys = (pairs.map (·.1)).eraseDups
  last : ∀ source, m.get? source = pairs.reverse.lookup source

variable {meant read b : String × String} {pairs reads : List (String × String)}

theorem toList_wordOf (b : String × String) : (wordOf b).toList = b.1.toList ++ '=' :: b.2.toList := by
  simp [wordOf, String.toList_append]

theorem ReadFrom.eq_of_whole (h : ReadFrom meant read) (whole : '=' ∉ meant.1.toList) : read = meant := by
  have halves := congrArg (fun word => Text.cut '=' word.toList) h.word
  simp only [toList_wordOf, Text.cut_append h.whole, Text.cut_append whole, Prod.mk.injEq, Option.some.injEq] at halves
  exact Prod.ext (String.toList_inj.mp halves.1) (String.toList_inj.mp halves.2)

theorem exists_bindingOf (meant : String × String) :
    ∃ read, bindingOf (.text (wordOf meant)) = pure read ∧ ReadFrom meant read := by
  have marked : '=' ∈ (wordOf meant).toList := by simp [toList_wordOf]
  obtain ⟨before, after, word, first, cut⟩ := Text.exists_cut marked
  refine ⟨(String.ofList before, String.ofList after), ?_, ?_, ?_⟩
  · rw [Value.text, bindingOf, cut]
  · apply String.toList_inj.mp
    rw [toList_wordOf, word, String.toList_ofList, String.toList_ofList]
  · rwa [String.toList_ofList]

theorem exists_bindingsOf (pairs : List (String × String)) :
    ∃ reads, bindingsOf (pairs.map fun b => .text (wordOf b)) = pure reads ∧ List.Forall₂ ReadFrom pairs reads := by
  induction pairs with
  | nil => exact ⟨[], rfl, .nil⟩
  | cons b pairs ih =>
    obtain ⟨read, here, first⟩ := exists_bindingOf b
    obtain ⟨reads, later, others⟩ := ih
    refine ⟨read :: reads, ?_, .cons first others⟩
    rw [List.map_cons, bindingsOf, here, later, pure_bind, pure_bind]

theorem whole_of_mem (h : List.Forall₂ ReadFrom pairs reads) : ∀ read ∈ reads, '=' ∉ read.1.toList := by
  induction h with
  | nil => exact fun read among => nomatch among
  | cons head _ ih => exact List.forall_mem_cons.mpr ⟨head.whole, ih⟩

theorem eq_of_all_whole (h : List.Forall₂ ReadFrom pairs reads) (whole : ∀ b ∈ pairs, '=' ∉ b.1.toList) : reads = pairs := by
  induction h with
  | nil => rfl
  | cons head _ ih =>
    obtain ⟨first, others⟩ := List.forall_mem_cons.mp whole
    rw [head.eq_of_whole first, ih others]

-- Every list of notations and commands is read from its words, but what is read has no equals sign in a notation.
theorem bindings_of_words (pairs : List (String × String)) : ∃ reads m,
    (bindingsOf (pairs.map fun b => .text (wordOf b))).run = .ok (.ok reads) ∧
    (∀ request : Request, (request.changes reads).extra = Config.looseBindings m) ∧
    List.Forall₂ ReadFrom pairs reads ∧ BuiltOf reads m ∧
    (BuiltOf pairs m ↔ ∀ b ∈ pairs, '=' ∉ b.1.toList) := by
  obtain ⟨reads, read, each⟩ := exists_bindingsOf pairs
  have built : BuiltOf reads (.ofList reads) := ⟨OrderedMap.keys_ofList reads, OrderedMap.get?_ofList reads⟩
  refine ⟨reads, .ofList reads, by rw [read]; rfl, fun _ => rfl, each, built, ?_⟩
  constructor
  · intro same b hb
    have key : b.1 ∈ (reads.map (·.1)).eraseDups := by
      rw [← built.keys, same.keys]
      exact List.mem_eraseDups.mpr (List.mem_map_of_mem hb)
    obtain ⟨read, among, same⟩ := List.mem_map.mp (List.mem_eraseDups.mp key)
    exact same ▸ whole_of_mem each read among
  · intro whole
    have same := eq_of_all_whole each whole
    rwa [same] at built ⊢

-- The equals sign is a key, and a word that asks for it is taken to ask for no key at all.
theorem equals_misread : Notation.parse Notation.defaultLeader "=" = .ok [Key.ofChar '=' .none] ∧
    (bindingsOf [.text (wordOf ("=", "graph.zoomIn"))]).run = .ok (.ok [("", "=graph.zoomIn")]) ∧
    ¬BuiltOf [("=", "graph.zoomIn")] (.ofList [("", "=graph.zoomIn")]) := by
  refine ⟨by decide +kernel, by decide +kernel, ?_⟩
  intro built
  exact absurd built.keys (by decide)

end CommandLine

end Keychord
