import Keychord.Proofs.Notation.Reading
import Keychord.Proofs.Text.LowerCase

namespace Keychord.Notation

def Modifies (piece : List Char) (m : Modifier) : Prop := (Text.upper (String.ofList piece), m) ∈ modifierLetters

def Named (spelling : List Char) (name : String) : Prop := (Text.lower (String.ofList spelling), name) ∈ Key.spellings

instance (piece : List Char) (m : Modifier) : Decidable (Modifies piece m) :=
  inferInstanceAs (Decidable ((Text.upper (String.ofList piece), m) ∈ modifierLetters))

instance (spelling : List Char) (name : String) : Decidable (Named spelling name) :=
  inferInstanceAs (Decidable ((Text.lower (String.ofList spelling), name) ∈ Key.spellings))

inductive Names : List Char → String → Prop
  | char (c : Char) : Names [c] (String.singleton c.toLower)
  | named {spelling : List Char} {name : String} (h : Named spelling name) : Names spelling name

def chordContent (pieces : List (List Char)) (spelling : List Char) : List Char :=
  ['-'].intercalate pieces ++ '-' :: spelling

-- The parts of a chord: pieces that name modifiers, and what stands for its key.
structure IsChord (pieces : List (List Char)) (ms : List Modifier) (spelling : List Char) (name : String) : Prop where
  modified : pieces ≠ []
  modifies : pieces.Forall₂ Modifies ms
  names    : Names spelling name

inductive Content (leader : Key) : List Char → Key → Prop
  | leader {content : List Char} (h : Text.lower (String.ofList content) = "leader") : Content leader content leader
  | named {content : List Char} {key : Key} (h : Named content key.name) (plain : key.mods = .none) :
      Content leader content key
  | chord {pieces : List (List Char)} {ms : List Modifier} {spelling : List Char} {key : Key}
      (h : IsChord pieces ms spelling key.name) (held : ∀ m, key.mods.has m ↔ m ∈ ms) :
      Content leader (chordContent pieces spelling) key

inductive Token.Stands (leader : Key) : Token → Key → Prop
  | char {c : Char} (h : c ≠ '<') : Stands leader (.char c) (literal c)
  | bracket {content : List Char} {key : Key} (closed : '>' ∉ content) (h : Content leader content key) :
      Stands leader (.bracket content) key

def Denotes (leader : Key) (source : String) (keys : List Key) : Prop :=
  ∃ ts : List Token, ts ≠ [] ∧ source.toList = ts.flatMap Token.written ∧ ts.Forall₂ (Token.Stands leader) keys

section Tables

variable {α β : Type} [BEq α] [LawfulBEq α]

theorem lookup_eq_some_iff {table : List (α × β)} (distinct : (table.map Prod.fst).Nodup) {a : α} {b : β} :
    table.lookup a = some b ↔ (a, b) ∈ table := by
  induction table with
  | nil => simp
  | cons row table ih =>
    obtain ⟨hn, hd⟩ := List.nodup_cons.mp distinct
    rw [List.lookup_cons, List.mem_cons]
    cases he : a == row.1 with
    | true =>
      obtain rfl : a = row.1 := eq_of_beq he
      have later : (row.1, b) ∉ table := fun hm => hn (List.mem_map.mpr ⟨_, hm, rfl⟩)
      simp [later, Prod.ext_iff, eq_comm]
    | false =>
      have other : (a, b) ≠ row := by rintro rfl; simp at he
      simp [ih hd, other]

end Tables

theorem modifier?_eq_some_iff {piece : List Char} {m : Modifier} : modifier? piece = some m ↔ Modifies piece m :=
  lookup_eq_some_iff (by decide)

theorem nameOf?_eq_some_iff {spelling : List Char} {name : String} :
    Key.nameOf? (String.ofList spelling) = some name ↔ Named spelling name :=
  lookup_eq_some_iff (by decide)

theorem ofName?_eq_some_iff {name : String} {mods : Modifiers} {key : Key} :
    Key.ofName? name mods = some key ↔ key.name = name ∧ key.mods = mods := by
  constructor
  · intro h
    rw [Key.ofName?] at h
    split at h
    case isTrue => cases h
    case isFalse => cases h; exact ⟨rfl, rfl⟩
  · rintro ⟨rfl, rfl⟩
    exact key.ofName?_self

theorem named?_eq_some_iff {spelling : List Char} {mods : Modifiers} {key : Key} :
    named? spelling mods = some key ↔ Named spelling key.name ∧ key.mods = mods := by
  simp only [named?, Option.bind_eq_some_iff, nameOf?_eq_some_iff, ofName?_eq_some_iff]
  constructor
  · rintro ⟨_, hn, rfl, hm⟩
    exact ⟨hn, hm⟩
  · rintro ⟨hn, hm⟩
    exact ⟨_, hn, rfl, hm⟩

theorem holdAll_eq_ok_iff {pieces : List (List Char)} {held mods : Modifiers} : holdAll held pieces = .ok mods ↔
    ∃ ms, pieces.Forall₂ Modifies ms ∧ mods = ms.foldl Modifiers.hold held := by
  induction pieces generalizing held with
  | nil => simp [holdAll, eq_comm]
  | cons piece pieces ih =>
    rw [holdAll]
    simp only [List.forall₂_cons_left_iff, ← modifier?_eq_some_iff]
    cases modifier? piece with
    | none => simp
    | some m =>
      simp only [ih, Option.some.injEq]
      constructor
      · rintro ⟨ms, hp, rfl⟩
        exact ⟨m :: ms, ⟨m, ms, rfl, hp, rfl⟩, rfl⟩
      · rintro ⟨_, ⟨_, ms, rfl, hp, rfl⟩, rfl⟩
        exact ⟨ms, hp, rfl⟩

-- A text of one character or more without a dash, as every name is. Lower case keeps a dash.
theorem Named.ne_nil {spelling : List Char} {name : String} (h : Named spelling name) : spelling ≠ [] := by
  rintro rfl
  have some : ∀ row ∈ Key.spellings, row.1 ≠ "" := by decide
  exact some _ h rfl

theorem Named.no_dash {spelling : List Char} {name : String} (h : Named spelling name) : '-' ∉ spelling := by
  intro hd
  have none : ∀ row ∈ Key.spellings, '-' ∉ row.1.toList := by decide
  exact none _ h (Text.mem_lower (by decide) (by decide) (by simpa using hd))

theorem not_named_singleton {c : Char} {name : String} : ¬Named [c] name := by
  intro h
  have long : ∀ row ∈ Key.spellings, row.1.toList.length ≠ 1 ∧ row.1.toList ≠ ['i', '\u0307'] := by decide
  obtain ⟨h₁, h₂⟩ := long _ h
  have lowered : Text.LowersTo c (Text.lower (String.ofList [c])).toList := Text.lower_singleton c
  generalize (Text.lower (String.ofList [c])).toList = cs at lowered h₁ h₂
  cases lowered with
  | one => exact h₁ rfl
  | two => exact h₂ rfl

theorem chordKey_eq_ok_iff {mods : Modifiers} {spelling : List Char} {key : Key} :
    chordKey mods spelling = .ok key ↔ Names spelling key.name ∧ key.mods = mods := by
  have long : ∀ {name}, spelling.length ≠ 1 → (Names spelling name ↔ Named spelling name) := by
    intro name hl
    refine ⟨fun h => ?_, .named⟩
    cases h with
    | char c => exact absurd rfl hl
    | named h => exact h
  rw [chordKey.eq_def]
  split
  case h_1 =>
    have unnamed : ¬Named [] key.name := fun h => h.ne_nil rfl
    simp [long, unnamed]
  case h_2 c =>
    constructor
    · intro h
      cases h
      exact ⟨.char c, rfl⟩
    · rintro ⟨h, rfl⟩
      obtain ⟨name, mods, hn⟩ := key
      cases h with
      | char => rfl
      | named h => exact absurd h not_named_singleton
  case h_3 hn ho =>
    have hl : spelling.length ≠ 1 := fun hl => by
      obtain ⟨c, rfl⟩ := List.length_eq_one_iff.mp hl
      exact ho c rfl
    rw [long hl, ← named?_eq_some_iff]
    cases named? spelling mods <;> simp

section Chords

variable {pieces : List (List Char)} {ms : List Modifier} {spelling : List Char} {name : String}

theorem Modifies.no_dash {piece : List Char} {m : Modifier} (h : Modifies piece m) : '-' ∉ piece := by
  intro hd
  have letters : ∀ row ∈ modifierLetters, '-' ∉ row.1.toList := by decide
  refine letters _ h ?_
  rw [Text.upper, String.toList_ofList]
  exact List.mem_flatMap.mpr ⟨'-', by simpa using hd, by decide⟩

theorem forall_no_dash (h : pieces.Forall₂ Modifies ms) : ∀ piece ∈ pieces, '-' ∉ piece := by
  induction h with
  | nil => nofun
  | cons hp _ ih => exact List.forall_mem_cons.mpr ⟨hp.no_dash, ih⟩

theorem Names.dash_or_none (h : Names spelling name) : spelling = ['-'] ∨ spelling ≠ [] ∧ '-' ∉ spelling := by
  cases h with
  | char c => by_cases hc : c = '-' <;> simp [hc, eq_comm]
  | named h => exact .inr ⟨h.ne_nil, h.no_dash⟩

theorem splitChord_chordContent (hn : pieces ≠ []) (hd : ∀ piece ∈ pieces, '-' ∉ piece)
    (hs : spelling = ['-'] ∨ spelling ≠ [] ∧ '-' ∉ spelling) :
    splitChord (chordContent pieces spelling) = (pieces, spelling) := by
  rw [splitChord, chordContent, Text.split_intercalate_append hn hd]
  obtain rfl | ⟨hne, hd⟩ := hs
  · obtain ⟨before, last, rfl⟩ := (List.eq_nil_or_concat pieces).resolve_left hn
    simp [Text.split]
  · obtain ⟨c, rest, rfl⟩ := List.exists_cons_of_ne_nil hne
    simp [Text.split_of_not_mem hd]

theorem chordContent_splitChord {content : List Char} (hd : '-' ∈ content) :
    (splitChord content).1 ≠ [] ∧ chordContent (splitChord content).1 (splitChord content).2 = content := by
  have several : ∀ part, Text.split '-' content ≠ [part] := by
    obtain ⟨before, after, rfl, hb⟩ := List.eq_append_cons_of_mem hd
    simp [Text.split_append_mark hb, Text.split_ne_nil]
  have joined := Text.intercalate_split '-' content
  rw [splitChord]
  split
  case h_1 m ms hr =>
    have parts : Text.split '-' content = (m :: ms).reverse ++ [[]] ++ [[]] := by
      simpa using congrArg List.reverse hr
    rw [parts, Text.intercalate_concat (by simp), Text.intercalate_concat (by simp)] at joined
    exact ⟨by simp, by simpa [chordContent] using joined⟩
  case h_2 key ms _ hr =>
    have parts : Text.split '-' content = ms.reverse ++ [key] := by simpa using congrArg List.reverse hr
    have some : ms.reverse ≠ [] := by
      intro hm
      exact several key (by simpa [hm] using parts)
    rw [parts, Text.intercalate_concat some] at joined
    exact ⟨some, joined⟩
  case h_3 hr => exact absurd (List.reverse_eq_nil_iff.mp hr) (Text.split_ne_nil '-' content)

theorem IsChord.splitChord (h : IsChord pieces ms spelling name) :
    splitChord (chordContent pieces spelling) = (pieces, spelling) :=
  splitChord_chordContent h.modified (forall_no_dash h.modifies) h.names.dash_or_none

theorem dash_mem_chordContent (pieces : List (List Char)) (spelling : List Char) :
    '-' ∈ chordContent pieces spelling := by simp [chordContent]

end Chords

section Brackets

variable {leader key : Key} {content : List Char}

theorem not_leader_of_dash (hd : '-' ∈ content) : Text.lower (String.ofList content) ≠ "leader" := by
  intro h
  have kept : '-' ∈ (Text.lower (String.ofList content)).toList :=
    Text.mem_lower (by decide) (by decide) (by simpa using hd)
  rw [h] at kept
  revert kept
  decide

theorem bracketKey_of_dash (hd : '-' ∈ content) : bracketKey leader content =
    (holdAll .none (splitChord content).1).bind fun mods => chordKey mods (splitChord content).2 := by
  have unnamed : named? content .none = none := by
    rw [Option.eq_none_iff_forall_ne_some]
    intro key h
    exact (named?_eq_some_iff.mp h).left.no_dash hd
  rw [bracketKey, if_neg (List.ne_nil_of_mem hd), if_neg (not_leader_of_dash hd), unnamed]
  simp [hd]
  rfl

theorem bracketKey_of_no_dash (hd : '-' ∉ content) : bracketKey leader content = .ok key ↔
    content ≠ [] ∧ if Text.lower (String.ofList content) = "leader" then leader = key
      else named? content .none = some key := by
  rw [bracketKey]
  by_cases hn : content = []
  case pos => simp [hn]
  case neg =>
    by_cases hl : Text.lower (String.ofList content) = "leader"
    case pos => simp [hn, hl]
    case neg => cases named? content .none <;> simp [hn, hl, hd]

theorem IsChord.bracketKey {pieces : List (List Char)} {ms : List Modifier} {spelling : List Char} {name : String}
    (h : IsChord pieces ms spelling name) :
    bracketKey leader (chordContent pieces spelling) = chordKey (ms.foldl Modifiers.hold .none) spelling := by
  rw [bracketKey_of_dash (dash_mem_chordContent pieces spelling), h.splitChord,
    holdAll_eq_ok_iff.mpr ⟨ms, h.modifies, rfl⟩]
  rfl

theorem eq_foldl_hold_iff {mods : Modifiers} {ms : List Modifier} :
    mods = ms.foldl Modifiers.hold .none ↔ ∀ m, mods.has m ↔ m ∈ ms := by
  constructor
  · rintro rfl m
    simp [Modifiers.has_foldl_hold, Modifiers.has_none]
  · intro h
    exact Modifiers.eq_of_has fun m => by simp [h, Modifiers.has_foldl_hold, Modifiers.has_none]

theorem bracketKey_eq_ok_iff : bracketKey leader content = .ok key ↔ Content leader content key := by
  -- Only a dash makes a chord. Without one the content names a key or the leader.
  by_cases hd : '-' ∈ content
  case pos =>
    constructor
    · intro h
      rw [bracketKey_of_dash hd] at h
      cases held : holdAll .none (splitChord content).1 with
      | error fault => simp [held, Except.bind] at h
      | ok mods =>
        have read : chordKey mods (splitChord content).2 = .ok key := by simpa [held, Except.bind] using h
        obtain ⟨hn, rfl⟩ := chordKey_eq_ok_iff.mp read
        obtain ⟨ms, hm, hk⟩ := holdAll_eq_ok_iff.mp held
        obtain ⟨some, joined⟩ := chordContent_splitChord hd
        have chord : IsChord (splitChord content).1 ms (splitChord content).2 key.name := ⟨some, hm, hn⟩
        rw [← joined]
        exact .chord chord (eq_foldl_hold_iff.mp hk)
    · intro h
      cases h with
      | leader h => exact absurd h (not_leader_of_dash hd)
      | named h => exact absurd hd h.no_dash
      | chord h held =>
        rw [h.bracketKey]
        exact chordKey_eq_ok_iff.mpr ⟨h.names, eq_foldl_hold_iff.mpr held⟩
  case neg =>
    rw [bracketKey_of_no_dash hd]
    constructor
    · rintro ⟨hn, h⟩
      split at h
      case isTrue hl => exact h ▸ .leader hl
      case isFalse =>
        obtain ⟨h, plain⟩ := named?_eq_some_iff.mp h
        exact .named h plain
    · intro h
      cases h with
      | leader h =>
        refine ⟨?_, by simp [h]⟩
        rintro rfl
        revert h
        decide
      | named h plain =>
        have other : Text.lower (String.ofList content) ≠ "leader" := by
          have none : ∀ row ∈ Key.spellings, row.1 ≠ "leader" := by decide
          exact none _ h
        exact ⟨h.ne_nil, by simp [other, named?_eq_some_iff, h, plain]⟩
      | chord => exact absurd (dash_mem_chordContent _ _) hd

end Brackets

section Tokens

variable {leader key : Key} {token : Token} {ts : List Token} {keys : List Key}

theorem Token.Stands.closed (h : token.Stands leader key) : token.Closed := by
  cases h with
  | char h => exact h
  | bracket closed => exact closed

theorem key_eq_ok_iff (closed : token.Closed) : token.key leader = .ok key ↔ token.Stands leader key := by
  cases token with
  | char c =>
    constructor
    · intro h
      cases h
      exact .char closed
    · intro h
      cases h
      rfl
  | bracket content =>
    rw [Token.key, bracketKey_eq_ok_iff]
    constructor
    · exact .bracket closed
    · intro h
      cases h with
      | bracket _ h => exact h
  | unclosed content => cases closed

theorem Scanned.forall₂_iff (scanned : Scanned ts) :
    ts.Forall₂ (fun token key => token.key leader = .ok key) keys ↔ ts.Forall₂ (Token.Stands leader) keys := by
  induction scanned generalizing keys with
  | nil => simp
  | @unclosed content h =>
    have none : ∀ key, ¬(Token.unclosed content).Stands leader key := fun key h => h.closed
    simp [List.forall₂_cons_left_iff, Token.key, none]
  | cons closed _ ih => simp [List.forall₂_cons_left_iff, key_eq_ok_iff closed, ih]

theorem forall_closed (h : ts.Forall₂ (Token.Stands leader) keys) : ∀ token ∈ ts, token.Closed := by
  induction h with
  | nil => nofun
  | cons h _ ih => exact List.forall_mem_cons.mpr ⟨h.closed, ih⟩

theorem written_ne_nil (token : Token) : token.written ≠ [] := by cases token <;> simp [Token.written]

-- Reading follows the grammar: the tokens of a text are those that it consists of.
theorem parse_eq_ok_iff_denotes {source : String} : parse leader source = .ok keys ↔ Denotes leader source keys := by
  rw [parse_eq_ok_iff, (scanned_tokens _).forall₂_iff]
  constructor
  · rintro ⟨hs, hk⟩
    refine ⟨tokens source.toList, fun hn => ?_, (written_tokens _).symm, hk⟩
    have written := written_tokens source.toList
    rw [hn] at written
    exact hs (String.toList_eq_nil_iff.mp written.symm)
  · rintro ⟨ts, hn, written, hk⟩
    rw [written, tokens_flatMap_written (forall_closed hk)]
    refine ⟨?_, hk⟩
    rintro rfl
    obtain ⟨token, rest, rfl⟩ := List.exists_cons_of_ne_nil hn
    simp [written_ne_nil] at written

end Tokens

-- Where a text is at fault. It is empty, or after tokens that can be read comes a bracket whose content stands for no
-- key or one that is open until the end.
inductive FirstFault (leader : Key) (source : String) : (fragment : String) → Prop
  | empty (h : source = "") : FirstFault leader source ""
  | bracket {before after : String} {content : List Char}
      (h : source = before ++ (Token.bracket content).text ++ after)
      (accepted : before = "" ∨ ∃ keys, parse leader before = .ok keys) (closed : '>' ∉ content)
      (unread : ∀ key, ¬Content leader content key) : FirstFault leader source (Token.bracket content).text
  | unclosed {before : String} {content : List Char} (h : source = before ++ (Token.unclosed content).text)
      (accepted : before = "" ∨ ∃ keys, parse leader before = .ok keys) (closed : '>' ∉ content) :
      FirstFault leader source (Token.unclosed content).text

section Faults

variable {leader : Key} {source : String} {ts before after : List Token} {token : Token} {e : Error}

theorem exists_of_keysOf_eq_error (h : keysOf leader source ts = .error e) : ∃ before token after,
    ts = before ++ token :: after ∧ (∃ keys, before.Forall₂ (fun token key => token.key leader = .ok key) keys) ∧
      token.key leader = .error e.fault ∧ e = ⟨e.fault, source, token.text⟩ := by
  induction ts with
  | nil => cases h
  | cons token ts ih =>
    rw [keysOf] at h
    split at h
    case h_1 fault hk => cases h; exact ⟨[], token, ts, rfl, ⟨[], .nil⟩, hk, rfl⟩
    case h_2 key hk =>
      cases hr : keysOf leader source ts with
      | ok keys => rw [hr] at h; cases h
      | error e' =>
        rw [hr] at h
        cases h
        obtain ⟨before, token', after, rfl, ⟨keys, hb⟩, he⟩ := ih hr
        exact ⟨token :: before, token', after, rfl, ⟨key :: keys, .cons hk hb⟩, he⟩

theorem Scanned.closed_of_cons (scanned : Scanned (token :: ts)) (hn : ts ≠ []) : token.Closed ∧ Scanned ts := by
  cases scanned with
  | unclosed h => exact absurd rfl hn
  | cons closed rest => exact ⟨closed, rest⟩

theorem Scanned.of_append (scanned : Scanned (before ++ token :: after)) :
    (∀ token ∈ before, token.Closed) ∧ Scanned (token :: after) := by
  induction before with
  | nil => exact ⟨nofun, scanned⟩
  | cons first before ih =>
    obtain ⟨closed, rest⟩ := Scanned.closed_of_cons scanned (by simp)
    obtain ⟨hb, ha⟩ := ih rest
    exact ⟨List.forall_mem_cons.mpr ⟨closed, hb⟩, ha⟩

def textOf (ts : List Token) : String := String.ofList (ts.flatMap Token.written)

theorem accepted_textOf (closed : ∀ token ∈ before, token.Closed)
    (read : ∃ keys, before.Forall₂ (fun token key => token.key leader = .ok key) keys) :
    textOf before = "" ∨ ∃ keys, parse leader (textOf before) = .ok keys := by
  by_cases hs : textOf before = ""
  case pos => exact .inl hs
  case neg =>
    obtain ⟨keys, hk⟩ := read
    have written : tokens (textOf before).toList = before := by simp [textOf, tokens_flatMap_written closed]
    exact .inr ⟨keys, parse_eq_ok_iff.mpr ⟨hs, written.symm ▸ hk⟩⟩

theorem textOf_append_cons (before : List Token) (token : Token) (after : List Token) :
    textOf (before ++ token :: after) = textOf before ++ token.text ++ textOf after := by
  simp [textOf, Token.text, String.append_assoc]

theorem firstFault_of_parse (h : parse leader source = .error e) :
    e.source = source ∧ FirstFault leader source e.fragment := by
  rw [parse] at h
  split at h
  case isTrue hs => cases h; exact ⟨rfl, .empty hs⟩
  case isFalse =>
    obtain ⟨before, token, after, hts, read, fault, he⟩ := exists_of_keysOf_eq_error h
    have split : source = textOf before ++ token.text ++ textOf after := by
      rw [← textOf_append_cons, ← hts, textOf, written_tokens, String.ofList_toList]
    have scanned := scanned_tokens source.toList
    rw [hts] at scanned
    obtain ⟨closed, rest⟩ := scanned.of_append
    have accepted := accepted_textOf closed read
    rw [he]
    refine ⟨rfl, ?_⟩
    cases rest with
    | unclosed h => exact .unclosed (by simpa [textOf] using split) accepted h
    | cons h =>
      cases token with
      | char c => cases fault
      | unclosed => cases h
      | bracket content =>
        refine .bracket split accepted h fun key hc => ?_
        rw [Token.key, bracketKey_eq_ok_iff.mpr hc] at fault
        cases fault

end Faults

section Chords

variable {leader : Key} {pieces pieces' : List (List Char)} {ms ms' : List Modifier} {a b : List Char} {name name' : String}

inductive Alike : List Char → List Char → Prop
  | char {c d : Char} (h : c.toLower = d.toLower) : Alike [c] [d]
  | name {a b : List Char} (ha : 1 < a.length) (hb : 1 < b.length)
      (h : Text.lower (String.ofList a) = Text.lower (String.ofList b)) : Alike a b

theorem Alike.symm (h : Alike a b) : Alike b a := by
  cases h with
  | char h => exact .char h.symm
  | name ha hb h => exact .name hb ha h.symm

theorem Names.of_alike (h : Names a name) (alike : Alike a b) : Names b name := by
  cases alike with
  | @char c d hc =>
    cases h with
    | char => rw [hc]; exact .char d
    | named h => exact absurd h not_named_singleton
  | name ha _ hl =>
    cases h with
    | char c => simp at ha
    | named h =>
      rw [Named, hl] at h
      exact .named h

theorem content_chordContent_iff (h : IsChord pieces ms a name) {key : Key} : Content leader (chordContent pieces a) key ↔
    Names a key.name ∧ ∀ m, key.mods.has m ↔ m ∈ ms := by
  rw [← bracketKey_eq_ok_iff, h.bracketKey, chordKey_eq_ok_iff, eq_foldl_hold_iff]

theorem content_chord_congr (h : IsChord pieces ms a name) (h' : IsChord pieces' ms' b name')
    (same : ∀ m, m ∈ ms ↔ m ∈ ms') (alike : Alike a b) {key : Key} :
    Content leader (chordContent pieces a) key ↔ Content leader (chordContent pieces' b) key := by
  have names : Names a key.name ↔ Names b key.name := ⟨(·.of_alike alike), (·.of_alike alike.symm)⟩
  simp only [content_chordContent_iff h, content_chordContent_iff h', names, same]

end Chords

-- What is read are the keys of the grammar, the same ones for chords that only differ in the spelling of their key and of
-- their modifiers. A text of no key is refused with its first fault.
theorem parse_grammar (leader : Key) (source : String) :
    (∀ keys, parse leader source = .ok keys ↔ Denotes leader source keys) ∧
      (∀ e, parse leader source = .error e → e.source = source ∧ FirstFault leader source e.fragment) ∧
      ∀ {pieces pieces' : List (List Char)} {ms ms' : List Modifier} {a b : List Char} {name name' : String},
        IsChord pieces ms a name → IsChord pieces' ms' b name' → (∀ m, m ∈ ms ↔ m ∈ ms') → Alike a b →
          ∀ key, Content leader (chordContent pieces a) key ↔ Content leader (chordContent pieces' b) key :=
  ⟨fun _ => parse_eq_ok_iff_denotes, fun _ => firstFault_of_parse,
    fun h h' same alike _ => content_chord_congr h h' same alike⟩

theorem parse_grammar_respelled : IsChord [['C'], ['S']] [.ctrl, .shift] ['x'] "x" ∧
    IsChord [['s'], ['c']] [.shift, .ctrl] ['X'] "x" ∧ Alike ['x'] ['X'] ∧
    ∀ key, Content defaultLeader "C-S-x".toList key ↔ Content defaultLeader "s-c-X".toList key := by
  have plain : IsChord [['C'], ['S']] [.ctrl, .shift] ['x'] "x" :=
    ⟨by simp, .cons (by decide +kernel) (.cons (by decide +kernel) .nil), .char 'x'⟩
  have respelled : IsChord [['s'], ['c']] [.shift, .ctrl] ['X'] "x" :=
    ⟨by simp, .cons (by decide +kernel) (.cons (by decide +kernel) .nil), .char 'X'⟩
  have alike : Alike ['x'] ['X'] := .char (by decide)
  have same : ∀ m, m ∈ [Modifier.ctrl, .shift] ↔ m ∈ [Modifier.shift, .ctrl] := by
    intro m
    cases m <;> simp
  exact ⟨plain, respelled, alike, (parse_grammar defaultLeader "<C-S-x>").right.right plain respelled same alike⟩

end Keychord.Notation
