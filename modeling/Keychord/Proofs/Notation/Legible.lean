import Keychord.Proofs.Key.Typing

namespace Keychord

namespace Key

variable {key spelled : Key}

def unreadable : List String := ["arrowup", "arrowdown", "arrowleft", "arrowright", "i\u0307"]

structure Misspelt (key : Key) : Prop where
  long    : 1 < key.name.length
  unshown : shown? key.name = none
  name    : Text.lower key.name ∈ unreadable

instance (key : Key) : Decidable key.Misspelt :=
  decidable_of_iff (1 < key.name.length ∧ shown? key.name = none ∧ Text.lower key.name ∈ unreadable)
    ⟨fun ⟨long, unshown, name⟩ => ⟨long, unshown, name⟩, fun ⟨long, unshown, name⟩ => ⟨long, unshown, name⟩⟩

structure Resembles (key spelled : Key) : Prop where
  edge     : key.edge = spelled.edge
  spelled  : spelled.Spelled
  no_upper : ∀ c, key.name = String.singleton c → ¬Text.isAsciiUpper c

theorem shownNames_lower : ∀ row ∈ shownNames, (Text.lower row.1).toList.length = 1 ∨
    (Text.lower row.1, row.1) ∈ spellings ∨ Text.lower row.1 ∈ unreadable := by decide +kernel

theorem length_eq_one_of_lower {name : String} (hn : name ≠ "") (h : (Text.lower name).toList.length = 1) :
    name.length = 1 := by
  have ⟨d, hd⟩ := List.length_eq_one_iff.mp h
  have ⟨c, single, _⟩ := Text.singleton_of_lower hn hd
  simp [single]

theorem Spelled.lower_cases (known : spelled.Spelled) : (Text.lower spelled.name).toList.length = 1 ∨
    (Text.lower spelled.name, spelled.name) ∈ spellings ∨ Text.lower spelled.name ∈ unreadable := by
  cases known
  case inl shown =>
    obtain ⟨shownAs, row⟩ := exists_shownName shown
    exact shownNames_lower (spelled.name, shownAs) row
  case inr character =>
    obtain ⟨c, _, hc⟩ := character
    have lowers := Text.lower_singleton c
    rw [← hc] at lowers
    generalize hl : (Text.lower spelled.name).toList = lowered at lowers
    cases lowers with
    | one => exact .inl rfl
    | two =>
      have dotted : Text.lower spelled.name = "i\u0307" := String.toList_injective hl
      exact .inr (.inr (by simp [dotted, unreadable]))

-- What a key that looks like one of a notation can be written as: itself, a spelling of another key, or nothing that is
-- read.
theorem Resembles.cases (resembles : key.Resembles spelled) : key.Spelled ∨
    (1 < key.name.length ∧ shown? key.name = none ∧ Notation.Named key.name.toList spelled.name) ∨ key.Misspelt := by
  obtain ⟨_, name⟩ := edge_eq_iff.mp resembles.edge
  by_cases shown : (shown? key.name).isSome
  case pos => exact .inl (.inl shown)
  case neg =>
    have unshown : shown? key.name = none := by simpa using shown
    by_cases single : key.name.length = 1
    case pos =>
      obtain ⟨c, hc⟩ := List.length_eq_one_iff.mp (String.length_toList.trans single)
      have named : key.name = String.singleton c := String.toList_injective (by simp [hc])
      exact .inl (.inr ⟨c, by simpa using resembles.no_upper c named, named⟩)
    case neg =>
      have long : 1 < key.name.length := by
        have some : key.name.length ≠ 0 := by simpa using key.name_ne
        omega
      right
      rcases resembles.spelled.lower_cases with one | spelling | unread
      case inl => exact absurd (length_eq_one_of_lower key.name_ne (name ▸ one)) single
      case inr.inl => exact .inl ⟨long, unshown, by simpa [Notation.Named, name] using spelling⟩
      case inr.inr => exact .inr ⟨long, unshown, name ▸ unread⟩

theorem unreadable_plain : ∀ name ∈ unreadable, name ≠ "leader" ∧ '-' ∉ name.toList ∧ '>' ∉ name.toList ∧
    ∀ row ∈ spellings, row.1 ≠ name := by decide +kernel

namespace Misspelt

theorem unnamed (misspelt : key.Misspelt) (name : String) : ¬Notation.Named key.name.toList name := by
  intro named
  have ⟨_, _, _, unspelled⟩ := unreadable_plain _ misspelt.name
  exact unspelled _ named (by simp)

theorem not_spelled (misspelt : key.Misspelt) : ¬key.Spelled := by
  intro spelled
  cases spelled
  case inl shown => simp [misspelt.unshown] at shown
  case inr single =>
    have ⟨c, _, hc⟩ := single
    have long := misspelt.long
    simp [hc] at long

theorem no_dash (misspelt : key.Misspelt) : '-' ∉ key.name.toList := by
  intro hd
  have ⟨_, plain, _, _⟩ := unreadable_plain _ misspelt.name
  exact plain (Text.mem_lower (by decide) (by decide) hd)

theorem unclosed (misspelt : key.Misspelt) : '>' ∉ key.name.toList := by
  intro hm
  have ⟨_, _, open_, _⟩ := unreadable_plain _ misspelt.name
  exact open_ (Text.mem_lower (by decide) (by decide) hm)

theorem no_names (misspelt : key.Misspelt) (name : String) : ¬Notation.Names key.name.toList name := by
  intro names
  have long : 1 < key.name.toList.length := String.length_toList.symm ▸ misspelt.long
  generalize hs : key.name.toList = spelling at names long
  cases names with
  | char => simp at long
  | named named => exact misspelt.unnamed name (hs ▸ named)

end Misspelt

end Key

namespace Notation

variable {key spelled : Key}

def bracketed (key : Key) : Token :=
  match key.mods.letters with
  | [] => .bracket key.name.toList
  | letters => .bracket (joinLetters letters ++ '-' :: key.name.toList)

theorem bracketed_written (long : 1 < key.name.length) (unshown : Key.shown? key.name = none) :
    (bracketed key).text = writeKey key := by
  apply String.toList_injective
  rw [bracketed]
  split
  case h_1 plain => simp [Token.text, Token.written, writeKey, plain, unshown, long]
  case h_2 modified => simp [Token.text, Token.written, writeKey_of_modified modified, shownName, unshown]

theorem letters_no_dash (mods : Modifiers) : ∀ piece ∈ mods.letters.map ([·]), '-' ∉ piece := by
  intro piece hp hd
  have ⟨c, hc, single⟩ := List.mem_map.mp hp
  obtain rfl : '-' = c := by simpa [← single] using hd
  exact absurd (Modifiers.upper_of_mem_letters hc) (by decide)

theorem bracketed_closed (unclosed : '>' ∉ key.name.toList) : (bracketed key).Closed := by
  rw [bracketed]
  split
  case h_1 => exact unclosed
  case h_2 => simp [Token.Closed, gt_not_mem_joinLetters, unclosed]

theorem bracketed_key (named : Named key.name.toList spelled.name) (mods : key.mods = spelled.mods) (leader : Key) :
    (bracketed key).key leader = .ok spelled := by
  rw [bracketed, mods]
  split
  case h_1 plain => exact bracketKey_eq_ok_iff.mpr (.named named (Modifiers.eq_none_of_letters plain))
  case h_2 modified => exact bracketKey_eq_ok_iff.mpr (content_letters leader modified (.named named))

theorem plain_unread (misspelt : key.Misspelt) (leader read : Key) :
    (Token.bracket key.name.toList).key leader ≠ .ok read := by
  intro h
  have content := bracketKey_eq_ok_iff.mp h
  have plain := misspelt.no_dash
  generalize hs : key.name.toList = spelling at content plain
  cases content with
  | leader name =>
    have ⟨other, _⟩ := Key.unreadable_plain _ misspelt.name
    exact other (by simpa [← hs] using name)
  | named named => exact misspelt.unnamed _ (hs ▸ named)
  | chord => exact plain (dash_mem_chordContent _ _)

theorem modified_unread (misspelt : key.Misspelt) (modified : key.mods.letters ≠ []) (leader read : Key) :
    (Token.bracket (joinLetters key.mods.letters ++ '-' :: key.name.toList)).key leader ≠ .ok read := by
  intro h
  have dash : '-' ∈ joinLetters key.mods.letters ++ '-' :: key.name.toList := by simp
  have some : key.name.toList ≠ [] := by simpa using key.name_ne
  have parts : splitChord (joinLetters key.mods.letters ++ '-' :: key.name.toList) =
      (key.mods.letters.map ([·]), key.name.toList) := by
    rw [joinLetters_eq]
    exact splitChord_chordContent (by simpa using modified) (letters_no_dash key.mods) (.inr ⟨some, misspelt.no_dash⟩)
  rw [Token.key, bracketKey_of_dash dash, parts] at h
  cases held : holdAll .none (key.mods.letters.map ([·])) with
  | error => simp [held, Except.bind] at h
  | ok mods =>
    have names := chordKey_eq_ok_iff.mp (by simpa [held, Except.bind] using h)
    exact misspelt.no_names _ names.left

theorem bracketed_unread (misspelt : key.Misspelt) (leader read : Key) : (bracketed key).key leader ≠ .ok read := by
  rw [bracketed]
  split
  case h_1 => exact plain_unread misspelt leader read
  case h_2 modified => exact modified_unread misspelt modified leader read

structure Token.Shows (token : Token) (key : Key) : Prop where
  closed  : token.Closed
  written : token.text = writeKey key
  edge    : ∀ {leader read}, token.key leader = .ok read → read.edge = key.edge
  read    : ∀ leader, (∃ read, token.key leader = .ok read) ↔ ¬key.Misspelt

theorem Named.unclosed {spelling : List Char} {name : String} (h : Named spelling name) : '>' ∉ spelling := by
  intro hm
  have none : ∀ row ∈ Key.spellings, '>' ∉ row.1.toList := by decide +kernel
  exact none _ h (Text.mem_lower (by decide) (by decide) (by simpa using hm))

theorem exists_shows (resembles : key.Resembles spelled) : ∃ token : Token, token.Shows key := by
  rcases resembles.cases with itself | ⟨long, unshown, named⟩ | misspelt
  case inl =>
    have ⟨token, spells⟩ := exists_spells itself
    have spelt : ¬key.Misspelt := fun misspelt => misspelt.not_spelled itself
    have read leader : ∃ read, token.key leader = .ok read := ⟨key, spells.read leader⟩
    refine ⟨token, spells.closed, spells.written, ?edge, fun leader => by simp [spelt, read]⟩
    case edge =>
      intro leader read h
      rw [spells.read leader] at h
      cases h
      rfl
  case inr.inl =>
    have ⟨mods, _⟩ := Key.edge_eq_iff.mp resembles.edge
    have spelt : ¬key.Misspelt := fun misspelt => misspelt.unnamed _ named
    have reads := bracketed_key named mods
    have read leader : ∃ read, (bracketed key).key leader = .ok read := ⟨spelled, reads leader⟩
    refine ⟨bracketed key, bracketed_closed named.unclosed, bracketed_written long unshown, ?edge,
      fun leader => by simp [spelt, read]⟩
    case edge =>
      intro leader read h
      rw [reads leader] at h
      cases h
      exact resembles.edge.symm
  case inr.inr =>
    have unread := bracketed_unread misspelt
    exact ⟨bracketed key, bracketed_closed misspelt.unclosed, bracketed_written misspelt.long misspelt.unshown,
      fun h => absurd h (unread _ _), fun leader => by simp [unread, misspelt]⟩

section Write

variable {leader : Key} {ts : List Token} {keys read : List Key}

theorem exists_all_show (resembles : ∀ key ∈ keys, ∃ spelled, key.Resembles spelled) :
    ∃ ts, List.Forall₂ Token.Shows ts keys := by
  induction keys with
  | nil => exact ⟨[], .nil⟩
  | cons key keys ih =>
    have ⟨⟨_, first⟩, rest⟩ := List.forall_mem_cons.mp resembles
    have ⟨token, shows⟩ := exists_shows first
    have ⟨ts, all⟩ := ih rest
    exact ⟨token :: ts, .cons shows all⟩

theorem exists_read_iff (shows : List.Forall₂ Token.Shows ts keys) :
    (∃ read, ts.Forall₂ (fun token key => token.key leader = .ok key) read) ↔ ∀ key ∈ keys, ¬key.Misspelt := by
  induction shows with
  | nil => simp
  | cons first _ ih =>
    rw [List.forall_mem_cons, ← ih, ← first.read leader]
    constructor
    case mp =>
      intro ⟨read, h⟩
      cases h with
      | cons one rest => exact ⟨⟨_, one⟩, _, rest⟩
    case mpr => intro ⟨⟨_, one⟩, _, rest⟩; exact ⟨_, .cons one rest⟩

theorem map_edge_of_read (shows : List.Forall₂ Token.Shows ts keys)
    (h : ts.Forall₂ (fun token key => token.key leader = .ok key) read) : read.map Key.edge = keys.map Key.edge := by
  induction shows generalizing read with
  | nil => cases h; rfl
  | cons first _ ih =>
    cases h with
    | cons one rest => rw [List.map_cons, List.map_cons, first.edge one, ih rest]

-- Keys that look like those of a notation are read again just if none of them is misspelt, and then as keys that look the
-- same.
theorem parse_write_iff (leader : Key) (some : keys ≠ [])
    (resembles : ∀ key ∈ keys, ∃ spelled, key.Resembles spelled) :
    ((∃ read, parse leader (write keys) = .ok read) ↔ ∀ key ∈ keys, ¬key.Misspelt) ∧
      ∀ read, parse leader (write keys) = .ok read → read.map Key.edge = keys.map Key.edge := by
  have ⟨ts, shows⟩ := exists_all_show resembles
  have written := tokens_write_of_closed (shows.imp fun _ _ shows => ⟨shows.closed, shows.written⟩)
  have source : write keys ≠ "" := by
    intro none
    have empty : ts = [] := by simpa [none, tokens, scan] using written.symm
    rw [empty] at shows
    exact some (List.forall₂_nil_left_iff.mp shows)
  have reads read : parse leader (write keys) = .ok read ↔
      ts.Forall₂ (fun token key => token.key leader = .ok key) read := by
    rw [parse_eq_ok_iff, written]
    simp [source]
  constructor
  case left => simp only [reads, exists_read_iff shows]
  case right => intro read h; exact map_edge_of_read shows ((reads read).mp h)

end Write

end Notation

end Keychord
