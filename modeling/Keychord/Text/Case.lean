import Keychord.Text.CaseTable

namespace Keychord.Text

def isAsciiUpper (c : Char) : Bool := 'A' ≤ c && c ≤ 'Z'

theorem isAsciiUpper_iff {c : Char} : isAsciiUpper c ↔ c.val ≥ 'A'.val ∧ c.val ≤ 'Z'.val := by
  rw [isAsciiUpper, Bool.and_eq_true, decide_eq_true_iff, decide_eq_true_iff]
  rfl

theorem toLower_of_not_upper {c : Char} (h : isAsciiUpper c = false) : c.toLower = c := by
  rw [← Bool.not_eq_true, isAsciiUpper_iff] at h
  exact dif_neg h

theorem isAsciiUpper_toLower (c : Char) : isAsciiUpper c.toLower = false := by
  cases h : isAsciiUpper c with
  | false => rw [toLower_of_not_upper h, h]
  | true =>
    have upper := isAsciiUpper_iff.mp h
    have shifted : c.toLower.val = c.val + ('a'.val - 'A'.val) := congrArg Char.val (dif_pos upper)
    rw [← Bool.not_eq_true, isAsciiUpper_iff, shifted]
    simp [UInt32.le_iff_toNat_le, UInt32.toNat_add] at upper ⊢
    omega

def lowerChar (c : Char) : List Char :=
  if c.toNat < 128 then
    [if isAsciiUpper c then Char.ofNat (c.toNat + 32) else c]
  else if c = '\u0130' then
    ['i', '\u0307']
  else
    [shiftCase lowerRows c]

-- Whether the next character that counts has letter case. The characters that case rules ignore are passed over.
def meetsCased (cs : List Char) : Bool :=
  match cs.dropWhile (inRanges caseIgnorableRanges) with
  | [] => false
  | c :: _ => inRanges casedRanges c

-- Lower case of the characters that follow `before`, which is given last character first. A capital sigma takes its
-- final form if a cased character comes before it and none after it.
def lowerAfter (before : List Char) : List Char → List Char
  | [] => []
  | c :: rest =>
    (if c = '\u03a3' then
      [if meetsCased before && !meetsCased rest then '\u03c2' else '\u03c3']
    else
      lowerChar c) ++ lowerAfter (c :: before) rest

def lower (s : String) : String := String.ofList (lowerAfter [] s.toList)

theorem mem_lowerAfter {c : Char} (ha : c.toNat < 128) (hu : isAsciiUpper c = false) {cs : List Char} (hc : c ∈ cs)
    (before : List Char) : c ∈ lowerAfter before cs := by
  induction cs generalizing before with
  | nil => cases hc
  | cons d rest ih =>
    rw [lowerAfter]
    obtain rfl | hc := List.mem_cons.mp hc
    · have no_sigma : c ≠ '\u03a3' := by rintro rfl; revert ha; decide
      simp [no_sigma, lowerChar, ha, hu]
    · exact List.mem_append_right _ (ih hc (d :: before))

theorem mem_lower {c : Char} (ha : c.toNat < 128) (hu : isAsciiUpper c = false) {s : String} (hc : c ∈ s.toList) :
    c ∈ (lower s).toList := by
  rw [lower, String.toList_ofList]
  exact mem_lowerAfter ha hu hc []

def upperChar (c : Char) : List Char :=
  if c.toNat < 128 then
    [if 'a' ≤ c && c ≤ 'z' then Char.ofNat (c.toNat - 32) else c]
  else
    match longUpper.lookup c.toNat with
    | some long => long.map Char.ofNat
    | none => [shiftCase upperRows c]

def upper (s : String) : String := String.ofList (s.toList.flatMap upperChar)

end Keychord.Text
