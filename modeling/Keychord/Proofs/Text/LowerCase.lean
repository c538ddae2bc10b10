import Keychord.Text.Case
import Keychord.Text.Letter
import Mathlib.Tactic.Common

namespace Keychord.Text

def allLetterRanges : List (Nat × Nat) := (65, 90) :: (97, 122) :: letterRanges

def within (first last : Nat) : Bool := allLetterRanges.any fun range => Nat.ble range.1 first && Nat.ble last range.2

def outside (first last : Nat) : Bool := allLetterRanges.all fun range => Nat.blt last range.1 || Nat.blt range.2 first

section Ranges

variable {first last n : Nat}

theorem within_iff : within first last ↔ ∃ range ∈ allLetterRanges, range.1 ≤ first ∧ last ≤ range.2 := by
  simp [within]

theorem outside_iff : outside first last ↔ ∀ range ∈ allLetterRanges, last < range.1 ∨ range.2 < first := by
  simp [outside, Nat.blt_eq]

theorem within_mono (h : within first last) (hf : first ≤ n) (hl : n ≤ last) : within n n := by
  obtain ⟨range, hm, hrf, hrl⟩ := within_iff.mp h
  exact within_iff.mpr ⟨range, hm, Nat.le_trans hrf hf, Nat.le_trans hl hrl⟩

theorem not_within (h : outside first last) (hf : first ≤ n) (hl : n ≤ last) : ¬within n n := by
  intro hn
  obtain ⟨range, hm, hrf, hrl⟩ := within_iff.mp hn
  obtain ho | ho := outside_iff.mp h range hm
  · omega
  · omega

end Ranges

theorem letterRanges_not_ascii : ∀ range ∈ letterRanges, 128 ≤ range.1 := by decide +kernel

theorem isAlpha_iff {c : Char} : c.isAlpha ↔ 65 ≤ c.toNat ∧ c.toNat ≤ 90 ∨ 97 ≤ c.toNat ∧ c.toNat ≤ 122 := by
  delta Char.isAlpha Char.isUpper Char.isLower
  simp [UInt32.le_iff_toNat_le]

theorem isLetter_iff {c : Char} : isLetter c ↔ within c.toNat c.toNat := by
  have split : within c.toNat c.toNat ↔ (65 ≤ c.toNat ∧ c.toNat ≤ 90 ∨ 97 ≤ c.toNat ∧ c.toNat ≤ 122) ∨
      ∃ range ∈ letterRanges, range.1 ≤ c.toNat ∧ c.toNat ≤ range.2 := by
    rw [within_iff]
    simp [allLetterRanges, or_assoc]
  rw [isLetter, split]
  by_cases hc : c.toNat < 128
  case pos =>
    have none : ¬∃ range ∈ letterRanges, range.1 ≤ c.toNat ∧ c.toNat ≤ range.2 := by
      rintro ⟨range, hm, hf, -⟩
      have := letterRanges_not_ascii range hm
      omega
    rw [if_pos hc, isAlpha_iff]
    exact (or_iff_left none).symm
  case neg =>
    have none : ¬(65 ≤ c.toNat ∧ c.toNat ≤ 90 ∨ 97 ≤ c.toNat ∧ c.toNat ≤ 122) := by omega
    rw [if_neg hc, or_iff_right none]
    simp [inRanges]

theorem toNat_ofNat {n : Nat} (h : n.isValidChar) : (Char.ofNat n).toNat = n := by
  rw [Char.ofNat, dif_pos h]
  rfl

namespace CaseRow

def image (row : CaseRow) (n : Nat) : Nat := (n + row.offset).toNat

-- Whether a row within one range of letters goes to one, or one outside all of them stays outside. A row across several
-- ranges is checked member by member.
def keepsLetters (row : CaseRow) : Bool :=
  (within row.first row.last && within (row.image row.first) (row.image row.last)) ||
    (outside row.first row.last && outside (row.image row.first) (row.image row.last)) ||
    (List.range ((row.last - row.first) / row.step + 1)).all fun k =>
      within (row.first + k * row.step) (row.first + k * row.step) &&
        within (row.image (row.first + k * row.step)) (row.image (row.first + k * row.step))

def goesBeyond (row : CaseRow) : Bool :=
  Nat.blt 90 (row.image row.first) && (Nat.blt (row.image row.last) 0xd800 ||
    Nat.blt 0xdfff (row.image row.first) && Nat.blt (row.image row.last) 0x110000)

section

variable {row : CaseRow} {m n : Nat}

theorem image_mono (h : m ≤ n) : row.image m ≤ row.image n := by
  rw [image, image]
  omega

theorem bounds_of_moves (h : row.moves n) : row.first ≤ n ∧ n ≤ row.last := by
  simp only [moves, Bool.and_eq_true, decide_eq_true_eq] at h
  exact h.left

theorem member_of_moves (h : row.moves n) :
    ∃ k < (row.last - row.first) / row.step + 1, n = row.first + k * row.step := by
  obtain ⟨hf, hl⟩ := bounds_of_moves h
  have hs : (n - row.first) % row.step = 0 := by
    simp only [moves, Bool.and_eq_true, beq_iff_eq] at h
    exact h.right
  refine ⟨(n - row.first) / row.step, Nat.lt_succ_of_le (Nat.div_le_div_right (by omega)), ?_⟩
  rw [Nat.div_mul_cancel (Nat.dvd_of_mod_eq_zero hs)]
  omega

theorem within_image_iff (keeps : row.keepsLetters) (h : row.moves n) :
    within (row.image n) (row.image n) ↔ within n n := by
  obtain ⟨hf, hl⟩ := bounds_of_moves h
  simp only [keepsLetters, Bool.or_eq_true, Bool.and_eq_true, List.all_eq_true, List.mem_range] at keeps
  obtain (⟨hr, hi⟩ | ⟨hr, hi⟩) | members := keeps
  · exact iff_of_true (within_mono hi (image_mono hf) (image_mono hl)) (within_mono hr hf hl)
  · exact iff_of_false (not_within hi (image_mono hf) (image_mono hl)) (not_within hr hf hl)
  · obtain ⟨k, hk, rfl⟩ := member_of_moves h
    exact iff_of_true (members k hk).right (members k hk).left

theorem image_of_goesBeyond (beyond : row.goesBeyond) (h : row.moves n) :
    90 < row.image n ∧ (Char.ofNat (row.image n)).toNat = row.image n := by
  obtain ⟨hf, hl⟩ := bounds_of_moves h
  have first := row.image_mono hf
  have last := row.image_mono hl
  simp only [goesBeyond, Bool.and_eq_true, Bool.or_eq_true, Nat.blt_eq] at beyond
  refine ⟨by omega, toNat_ofNat ?_⟩
  rw [Nat.isValidChar]
  omega

end

end CaseRow

theorem lowerRows_keep : lowerRows.all CaseRow.keepsLetters := by decide +kernel

theorem lowerRows_beyond : lowerRows.all CaseRow.goesBeyond := by decide +kernel

-- What becomes of a character beyond the capitals of ASCII stays beyond them, and is a letter just if it was one.
theorem shiftCase_lowerRows {c : Char} (hc : 90 < c.toNat) :
    90 < (shiftCase lowerRows c).toNat ∧ (isLetter (shiftCase lowerRows c) ↔ isLetter c) := by
  rw [shiftCase]
  split
  case h_1 row hr =>
    have moves : row.moves c.toNat := by simpa using List.find?_some hr
    have found : row ∈ lowerRows := List.mem_of_find?_eq_some hr
    have keeps : row.keepsLetters := List.all_eq_true.mp lowerRows_keep row found
    obtain ⟨beyond, valid⟩ := CaseRow.image_of_goesBeyond (List.all_eq_true.mp lowerRows_beyond row found) moves
    change 90 < (Char.ofNat (row.image c.toNat)).toNat ∧ (isLetter (Char.ofNat (row.image c.toNat)) ↔ isLetter c)
    rw [isLetter_iff, isLetter_iff, valid]
    exact ⟨beyond, CaseRow.within_image_iff keeps moves⟩
  case h_2 => exact ⟨hc, .rfl⟩

theorem isAsciiUpper_iff_toNat {c : Char} : isAsciiUpper c ↔ 65 ≤ c.toNat ∧ c.toNat ≤ 90 := by
  rw [isAsciiUpper_iff]
  simp [UInt32.le_iff_toNat_le]

theorem isLetter_of_upper {c : Char} (h : isAsciiUpper c) : isLetter c := by
  have hc := isAsciiUpper_iff_toNat.mp h
  rw [isLetter, if_pos (by omega), isAlpha_iff]
  exact .inl hc

structure Lowers (c d : Char) : Prop where
  no_upper : ¬isAsciiUpper d
  letter   : isLetter d ↔ isLetter c
  space    : d = ' ' ↔ c = ' '

theorem Lowers.of_beyond {c d : Char} (hc : 90 < c.toNat) (hd : 90 < d.toNat) (letter : isLetter d ↔ isLetter c) :
    Lowers c d := by
  refine ⟨?_, letter, ?_⟩
  case refine_1 => rw [isAsciiUpper_iff_toNat]; omega
  case refine_2 =>
    have other : ∀ e : Char, 90 < e.toNat → e ≠ ' ' := by
      rintro _ he rfl
      exact absurd he (by decide)
    exact iff_of_false (other d hd) (other c hc)

theorem Lowers.ascii {c : Char} (hc : c.toNat < 128) :
    Lowers c (if isAsciiUpper c then Char.ofNat (c.toNat + 32) else c) := by
  split
  case isFalse h => exact ⟨h, .rfl, .rfl⟩
  case isTrue h =>
    have upper := isAsciiUpper_iff_toNat.mp h
    have valid : (Char.ofNat (c.toNat + 32)).toNat = c.toNat + 32 := toNat_ofNat (.inl (by omega))
    have letter : isLetter (Char.ofNat (c.toNat + 32)) := by
      rw [isLetter, if_pos (by omega), isAlpha_iff, valid]
      omega
    refine ⟨?_, iff_of_true letter (isLetter_of_upper h), iff_of_false ?_ ?_⟩
    · rw [isAsciiUpper_iff_toNat, valid]
      omega
    · intro hs
      have := valid.symm.trans (congrArg Char.toNat hs)
      simp at this
      omega
    · rintro rfl
      revert h
      decide

inductive LowersTo : Char → List Char → Prop
  | one {c d : Char} (h : Lowers c d) : LowersTo c [d]
  | two : LowersTo '\u0130' ['i', '\u0307']

theorem lowersTo_lowerChar (c : Char) : LowersTo c (lowerChar c) := by
  rw [lowerChar]
  split
  case isTrue hc => exact .one (.ascii hc)
  case isFalse hc =>
    split
    case isTrue hi => exact hi ▸ .two
    case isFalse =>
      have hc : 90 < c.toNat := by omega
      obtain ⟨beyond, letter⟩ := shiftCase_lowerRows hc
      exact .one (.of_beyond hc beyond letter)

theorem Lowers.sigma (final : Bool) : Lowers '\u03a3' (if final then '\u03c2' else '\u03c3') := by
  cases final with
  | true => exact .of_beyond (by decide) (by decide) (by decide +kernel)
  | false => exact .of_beyond (by decide) (by decide) (by decide +kernel)

theorem exists_lowersTo (before : List Char) (c : Char) (rest : List Char) : ∃ part,
    lowerAfter before (c :: rest) = part ++ lowerAfter (c :: before) rest ∧ LowersTo c part := by
  rw [lowerAfter]
  split
  case isTrue hc => exact ⟨_, rfl, hc ▸ .one (.sigma _)⟩
  case isFalse => exact ⟨_, rfl, lowersTo_lowerChar c⟩

theorem not_upper_of_mem_lowerAfter {cs : List Char} {d : Char} : ∀ {before}, d ∈ lowerAfter before cs →
    ¬isAsciiUpper d := by
  induction cs with
  | nil => intro before h; cases h
  | cons c rest ih =>
    intro before h
    obtain ⟨part, hp, lowers⟩ := exists_lowersTo before c rest
    rw [hp] at h
    obtain hd | hd := List.mem_append.mp h
    case inr => exact ih hd
    case inl =>
      cases lowers with
      | one lowers =>
        obtain rfl := List.mem_singleton.mp hd
        exact lowers.no_upper
      | two =>
        have none : ['i', '\u0307'].all fun d => !isAsciiUpper d := by decide
        simpa using List.all_eq_true.mp none d hd

theorem not_upper_of_mem_lower {s : String} {d : Char} (h : d ∈ (lower s).toList) : ¬isAsciiUpper d := by
  rw [lower, String.toList_ofList] at h
  exact not_upper_of_mem_lowerAfter h

theorem length_le_lowerAfter (cs : List Char) : ∀ before, cs.length ≤ (lowerAfter before cs).length := by
  induction cs with
  | nil => simp
  | cons c rest ih =>
    intro before
    obtain ⟨part, hp, lowers⟩ := exists_lowersTo before c rest
    have longer : 1 ≤ part.length := by cases lowers <;> simp
    have := ih (c :: before)
    rw [hp, List.length_append, List.length_cons]
    omega

theorem length_le_lower (s : String) : s.toList.length ≤ (lower s).toList.length := by
  rw [lower, String.toList_ofList]
  exact length_le_lowerAfter s.toList []

theorem lower_singleton (c : Char) : LowersTo c (lower (String.singleton c)).toList := by
  obtain ⟨part, hp, lowers⟩ := exists_lowersTo [] c []
  have hl : (lower (String.singleton c)).toList = part := by
    rw [lower, String.toList_ofList, String.toList_singleton, hp, lowerAfter, List.append_nil]
  exact hl ▸ lowers

theorem singleton_of_lower {s : String} (hs : s ≠ "") {d : Char} (h : (lower s).toList = [d]) :
    ∃ c, s = String.singleton c ∧ Lowers c d := by
  have short : s.toList.length ≤ 1 := by simpa [h] using length_le_lower s
  have some : s.toList ≠ [] := fun hn => hs (String.toList_eq_nil_iff.mp hn)
  have ⟨c, hc⟩ : ∃ c, s.toList = [c] := List.length_eq_one_iff.mp (by have := List.length_pos_iff.mpr some; omega)
  have single : s = String.singleton c := String.toList_injective (by simp [hc])
  refine ⟨c, single, ?_⟩
  have lowers := lower_singleton c
  rw [← single, h] at lowers
  cases lowers with
  | one lowers => exact lowers

end Keychord.Text
