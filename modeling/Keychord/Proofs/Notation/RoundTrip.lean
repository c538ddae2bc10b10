import Keychord.Notation.Writing
import Keychord.Proofs.Notation.Grammar

namespace Keychord

namespace Key

def Spelled (key : Key) : Prop :=
  (shown? key.name).isSome ∨ ∃ c, Text.isAsciiUpper c = false ∧ key.name = String.singleton c

theorem shownNames_read : ∀ row ∈ shownNames, nameOf? row.2 = some row.1 ∧ '>' ∉ row.2.toList := by decide +kernel

theorem spellings_shown : ∀ row ∈ spellings, (shown? row.2).isSome := by decide +kernel

theorem Spelled.ofChar (c : Char) (mods : Modifiers) : (Key.ofChar c.toLower mods).Spelled :=
  .inr ⟨c.toLower, Text.isAsciiUpper_toLower c, rfl⟩

end Key

namespace Notation

section Spelled

variable {leader key : Key} {spelling : List Char}

theorem Named.spelled (h : Named spelling key.name) : key.Spelled := .inl (Key.spellings_shown _ h)

theorem Names.spelled (h : Names spelling key.name) : key.Spelled := by
  generalize hn : key.name = name at h
  cases h with
  | char c => exact .inr ⟨c.toLower, Text.isAsciiUpper_toLower c, hn⟩
  | named h =>
    rw [← hn] at h
    exact h.spelled

theorem Token.Stands.spelled (hl : leader.Spelled) {token : Token} (h : token.Stands leader key) : key.Spelled := by
  cases h with
  | char => exact .ofChar _ _
  | bracket _ h =>
    cases h with
    | leader => exact hl
    | named h => exact h.spelled
    | chord h => exact h.names.spelled

theorem spelled_of_parse (hl : leader.Spelled) {source : String} {keys : List Key} (h : parse leader source = .ok keys) :
    ∀ key ∈ keys, key.Spelled := by
  obtain ⟨ts, -, -, hk⟩ := parse_eq_ok_iff_denotes.mp h
  clear h
  induction hk with
  | nil => nofun
  | cons ht _ ih => exact List.forall_mem_cons.mpr ⟨ht.spelled hl, ih⟩

theorem spelled_of_leader {source : String} (h : leaderOfText source = .ok leader) : leader.Spelled := by
  have default_spelled : defaultLeader.Spelled := .ofChar ' ' .none
  rw [leaderOfText] at h
  split at h
  case h_1 c _ => cases h; exact .ofChar c _
  case h_2 =>
    cases hp : parse defaultLeader source with
    | error e => simp [hp, bind, Except.bind] at h
    | ok keys =>
      have spelled := spelled_of_parse default_spelled hp
      rw [hp] at h
      dsimp only [bind, Except.bind] at h
      split at h
      case h_1 key => cases h; exact spelled leader (by simp)
      case h_2 => cases h

end Spelled

section Chord

variable {mods : Modifiers} {spelling : List Char} {name : String}

theorem joinLetters_eq (letters : List Char) : joinLetters letters = ['-'].intercalate (letters.map ([·])) := by
  induction letters with
  | nil => rfl
  | cons c letters ih =>
    cases letters with
    | nil => rfl
    | cons d letters =>
      rw [joinLetters, ih, List.map_cons, List.map_cons, List.map_cons, List.intercalate_cons_cons]
      · rfl
      · simp

theorem gt_not_mem_joinLetters (mods : Modifiers) : '>' ∉ joinLetters mods.letters := by
  obtain ⟨ctrl, shift, alt, super⟩ := mods
  cases ctrl <;> cases shift <;> cases alt <;> cases super <;> decide

theorem isChord_letters (hm : mods.letters ≠ []) (h : Names spelling name) :
    IsChord (mods.letters.map ([·])) mods.toList spelling name := by
  refine ⟨by simpa using hm, ?_, h⟩
  have each : ∀ m : Modifier, Modifies [m.letter] m := by
    intro m
    cases m <;> decide +kernel
  simp [Modifiers.letters, List.forall₂_map_left_iff, List.forall₂_same, each]

theorem content_letters (leader : Key) {key : Key} (hm : key.mods.letters ≠ []) (h : Names spelling key.name) :
    Content leader (joinLetters key.mods.letters ++ '-' :: spelling) key := by
  rw [joinLetters_eq]
  exact .chord (isChord_letters hm h) fun m => key.mods.mem_toList.symm

end Chord

structure Token.Spells (token : Token) (key : Key) : Prop where
  closed  : token.Closed
  written : token.text = writeKey key
  read    : ∀ leader, token.key leader = .ok key

section Spells

variable {key : Key}

theorem writeKey_of_modified (hm : key.mods.letters ≠ []) :
    writeKey key = "<" ++ String.ofList (joinLetters key.mods.letters) ++ "-" ++ shownName key.name ++ ">" := by
  rw [writeKey]
  split
  case h_1 hl => exact absurd hl hm
  case h_2 => rfl

theorem exists_spells_of_shown {name : String} (hs : Key.shown? key.name = some name) :
    ∃ token : Token, token.Spells key := by
  have row : (key.name, name) ∈ Key.shownNames := (lookup_eq_some_iff (by decide)).mp hs
  obtain ⟨hr, hg⟩ := Key.shownNames_read _ row
  have named : Named name.toList key.name := nameOf?_eq_some_iff.mp (by simpa using hr)
  by_cases hm : key.mods.letters = []
  case pos =>
    refine ⟨.bracket name.toList, hg, ?written, ?read⟩
    case written =>
      apply String.toList_injective
      simp [writeKey, hm, hs, Token.text, Token.written]
    case read => exact fun _ => bracketKey_eq_ok_iff.mpr (.named named (Modifiers.eq_none_of_letters hm))
  case neg =>
    refine ⟨.bracket (joinLetters key.mods.letters ++ '-' :: name.toList), ?closed, ?written, ?read⟩
    case closed => simp [Token.Closed, gt_not_mem_joinLetters, hg]
    case written =>
      apply String.toList_injective
      simp [writeKey_of_modified hm, Token.text, Token.written, shownName, hs]
    case read => exact fun leader => bracketKey_eq_ok_iff.mpr (content_letters leader hm (.named named))

theorem exists_spells_of_char {c : Char} (hc : Text.isAsciiUpper c = false) (hk : key.name = String.singleton c)
    (hs : Key.shown? key.name = none) : ∃ token : Token, token.Spells key := by
  rw [hk] at hs
  have hlt : c ≠ '<' := by rintro rfl; revert hs; decide
  have hgt : c ≠ '>' := by rintro rfl; revert hs; decide
  have same : c.toLower = c := Text.toLower_of_not_upper hc
  by_cases hm : key.mods.letters = []
  case pos =>
    refine ⟨.char c, hlt, ?written, ?read⟩
    case written =>
      apply String.toList_injective
      simp [writeKey, hm, hk, hs, Token.text, Token.written]
    case read =>
      intro leader
      obtain ⟨name, mods, hn⟩ := key
      obtain rfl : mods = .none := Modifiers.eq_none_of_letters hm
      simp_all [Token.key, literal, Key.ofChar, Modifiers.none]
  case neg =>
    have names : Names [c] key.name := by
      rw [hk]
      nth_rewrite 2 [← same]
      exact .char c
    refine ⟨.bracket (joinLetters key.mods.letters ++ '-' :: [c]), ?closed, ?written, ?read⟩
    case closed => simp [Token.Closed, gt_not_mem_joinLetters, hgt.symm]
    case written =>
      apply String.toList_injective
      simp [writeKey_of_modified hm, Token.text, Token.written, shownName, hk, hs]
    case read => exact fun leader => bracketKey_eq_ok_iff.mpr (content_letters leader hm names)

theorem exists_spells (h : key.Spelled) : ∃ token : Token, token.Spells key := by
  cases hs : Key.shown? key.name with
  | some name => exact exists_spells_of_shown hs
  | none =>
    obtain ⟨c, hc, hk⟩ := h.resolve_left (by simp [hs])
    exact exists_spells_of_char hc hk hs

end Spells

section Write

variable {ts : List Token} {keys : List Key}

theorem exists_all_spell (h : ∀ key ∈ keys, key.Spelled) : ∃ ts, List.Forall₂ Token.Spells ts keys := by
  induction keys with
  | nil => exact ⟨[], .nil⟩
  | cons key keys ih =>
    obtain ⟨hk, hr⟩ := List.forall_mem_cons.mp h
    obtain ⟨token, ht⟩ := exists_spells hk
    obtain ⟨ts, hts⟩ := ih hr
    exact ⟨token :: ts, .cons ht hts⟩

theorem tokens_write_of_closed (h : ts.Forall₂ (fun token key => token.Closed ∧ token.text = writeKey key) keys) :
    tokens (write keys).toList = ts := by
  have written : (write keys).toList = ts.flatMap Token.written := by
    induction h with
    | nil => rfl
    | cons ht _ ih =>
      have ⟨_, text⟩ := ht
      simp_all [write, ← text, Token.text]
  have closed : ∀ token ∈ ts, token.Closed := by
    clear written
    induction h with
    | nil => exact List.forall_mem_nil _
    | cons ht _ ih => exact List.forall_mem_cons.mpr ⟨ht.left, ih⟩
  rw [written, tokens_flatMap_written closed]

theorem tokens_write (h : List.Forall₂ Token.Spells ts keys) : tokens (write keys).toList = ts :=
  tokens_write_of_closed (h.imp fun _ _ spells => ⟨spells.closed, spells.written⟩)

theorem parse_write_of_spelled (leader : Key) (hn : keys ≠ []) (h : ∀ key ∈ keys, key.Spelled) :
    parse leader (write keys) = .ok keys := by
  obtain ⟨ts, spell⟩ := exists_all_spell h
  have written := tokens_write spell
  rw [parse_eq_ok_iff, written]
  refine ⟨?_, spell.imp fun token key ht => ht.read leader⟩
  intro empty
  have no_tokens : ts = [] := by simpa [empty, tokens, scan] using written.symm
  rw [no_tokens] at spell
  exact hn (List.forall₂_nil_left_iff.mp spell)

end Write

theorem parse_write {leaderSource source : String} {leader : Key} {keys : List Key}
    (hl : leaderOfText leaderSource = .ok leader) (hk : parse leader source = .ok keys) :
    parse leader (write keys) = .ok keys :=
  parse_write_of_spelled leader (parse_ne_nil hk) (spelled_of_parse (spelled_of_leader hl) hk)

theorem parse_write_modified : ∃ leader keys, leaderOfText "<c-s-lt>" = .ok leader ∧
    parse leader "<LEADER>G<m-->-<D-ſ-esc>>" = .ok keys ∧ write keys = "<C-S-lt><S-g><A-->-<S-D-Esc><gt>" ∧
      parse leader (write keys) = .ok keys := by
  have hl : leaderOfText "<c-s-lt>" = .ok ⟨"<", { ctrl := true, shift := true }, by decide⟩ := by decide +kernel
  have hk : parse ⟨"<", { ctrl := true, shift := true }, by decide⟩ "<LEADER>G<m-->-<D-ſ-esc>>" =
      .ok [⟨"<", { ctrl := true, shift := true }, by decide⟩, ⟨"g", { shift := true }, by decide⟩,
        ⟨"-", { alt := true }, by decide⟩, ⟨"-", {}, by decide⟩,
        ⟨"Escape", { shift := true, super := true }, by decide⟩, ⟨">", {}, by decide⟩] := by decide +kernel
  exact ⟨_, _, hl, hk, by decide +kernel, parse_write hl hk⟩

end Notation

end Keychord
