import Keychord.Text.Integer
import Mathlib.Data.List.TakeDrop
import Mathlib.Data.List.TakeWhile

namespace Keychord.Text

inductive DigitRun : List Char → List Nat → Prop
  | last {c : Char} {d : Nat} (digit : asciiDigit? c = some d) : DigitRun [c] [d]
  | next {c : Char} {d : Nat} {run : List Char} {ds : List Nat} (digit : asciiDigit? c = some d)
      (rest : DigitRun run ds) : DigitRun (c :: run) (d :: ds)
  | joined {c : Char} {d : Nat} {run : List Char} {ds : List Nat} (digit : asciiDigit? c = some d)
      (rest : DigitRun run ds) : DigitRun (c :: '_' :: run) (d :: ds)

inductive Sign
  | none
  | plus
  | minus
  deriving DecidableEq

namespace Sign

def written : Sign → List Char
  | none => []
  | plus => ['+']
  | minus => ['-']

def signed (sign : Sign) (n : Nat) : Int := if sign = minus then -n else n

end Sign

-- A text that is a numeral with these digits, no more of them than are read. Each character counts as its plain form.
structure Numeral (s : String) (sign : Sign) (ds : List Nat) : Prop where
  short   : ds.length ≤ maxDigits
  written : ∃ before run after, s.toList.map plainNumeralChar = before ++ (sign.written ++ (run ++ after)) ∧
    DigitRun run ds ∧ (∀ c ∈ before, isPlainBlank c) ∧ ∀ c ∈ after, isPlainBlank c

section Characters

variable {c : Char} {d : Nat}

theorem digit_bounds (digit : asciiDigit? c = some d) : 48 ≤ c.toNat ∧ c.toNat ≤ 57 := by
  unfold asciiDigit? at digit
  split at digit
  case isTrue between =>
    rw [Bool.and_eq_true, decide_eq_true_iff, decide_eq_true_iff] at between
    exact between
  case isFalse => cases digit

theorem not_blank_of_digit (digit : asciiDigit? c = some d) : isPlainBlank c = false := by
  have ⟨least, _⟩ := digit_bounds digit
  have space : c ≠ ' ' := by rintro rfl; exact absurd least (by decide)
  simp [isPlainBlank, space]
  omega

theorem not_in_run_of_blank (blank : isPlainBlank c) : (c = '_' || (asciiDigit? c).isSome) = false := by
  have dash : c ≠ '_' := by rintro rfl; exact absurd blank (by decide)
  cases digit : asciiDigit? c with
  | none => simp [dash]
  | some d => rw [not_blank_of_digit digit] at blank; cases blank

end Characters

section Runs

variable {cs run after : List Char} {ds : List Nat}

theorem digitRun_of_digitRun? (h : digitRun? cs = some ds) : DigitRun cs ds := by
  fun_induction digitRun? cs generalizing ds with
  | case1 => cases h
  | case2 c =>
    obtain ⟨d, digit, rfl⟩ := Option.map_eq_some_iff.mp h
    exact .last digit
  | case3 c rest ih =>
    obtain ⟨d, digit, h⟩ := Option.bind_eq_some_iff.mp h
    obtain ⟨more, others, h⟩ := Option.bind_eq_some_iff.mp h
    cases h
    exact .joined digit (ih others)
  | case4 c rest _ _ ih =>
    obtain ⟨d, digit, h⟩ := Option.bind_eq_some_iff.mp h
    obtain ⟨more, others, h⟩ := Option.bind_eq_some_iff.mp h
    cases h
    exact .next digit (ih others)

namespace DigitRun

theorem exists_head (digits : DigitRun run ds) : ∃ c rest d, run = c :: rest ∧ asciiDigit? c = some d := by
  cases digits with
  | last digit => exact ⟨_, _, _, rfl, digit⟩
  | next digit _ => exact ⟨_, _, _, rfl, digit⟩
  | joined digit _ => exact ⟨_, _, _, rfl, digit⟩

theorem digitRun?_eq (digits : DigitRun run ds) : digitRun? run = some ds := by
  induction digits with
  | last digit => simp [digitRun?, digit]
  | joined digit _ ih => simp [digitRun?, digit, ih]
  | next digit rest ih =>
    -- What follows starts with a digit, so it is not taken for an underscore and what comes after that.
    obtain ⟨c, more, d, rfl, head⟩ := rest.exists_head
    have plain : c ≠ '_' := by rintro rfl; exact absurd (digit_bounds head) (by decide)
    rw [digitRun?.eq_4 _ _ (by simp) (by simp [plain]), digit, ih]
    rfl

theorem forall_mem (digits : DigitRun run ds) : ∀ c ∈ run, c = '_' || (asciiDigit? c).isSome := by
  induction digits with
  | last digit => simp [digit]
  | next digit _ ih => simpa [digit] using ih
  | joined digit _ ih => simpa [digit] using ih

theorem spanNumeral_append (digits : DigitRun run ds) (blank : ∀ c ∈ after, isPlainBlank c) :
    spanNumeral (run ++ after) = (run, after) := by
  have ends : after.takeWhile (fun c => c = '_' || (asciiDigit? c).isSome) = [] := by
    cases after with
    | nil => rfl
    | cons c rest => exact List.takeWhile_cons_of_neg (by simp [not_in_run_of_blank (blank c (by simp))])
  have rest : after.dropWhile (fun c => c = '_' || (asciiDigit? c).isSome) = after := by
    have whole := List.takeWhile_append_dropWhile (p := fun c => c = '_' || (asciiDigit? c).isSome) (l := after)
    rwa [ends] at whole
  rw [spanNumeral, List.span_eq_takeWhile_dropWhile, List.takeWhile_append_of_pos digits.forall_mem,
    List.dropWhile_append_of_pos digits.forall_mem, ends, rest, List.append_nil]

theorem dropWhile_blank (digits : DigitRun run ds) (sign : Sign) :
    (sign.written ++ (run ++ after)).dropWhile isPlainBlank = sign.written ++ (run ++ after) := by
  obtain ⟨c, rest, d, rfl, digit⟩ := digits.exists_head
  cases sign with
  | none => simp [Sign.written, not_blank_of_digit digit]
  | plus => rfl
  | minus => rfl

theorem splitSign_append (digits : DigitRun run ds) (sign : Sign) :
    splitSign (sign.written ++ (run ++ after)) = (decide (sign = .minus), run ++ after) := by
  obtain ⟨c, rest, d, rfl, digit⟩ := digits.exists_head
  have ⟨least, _⟩ := digit_bounds digit
  have minus : c ≠ '-' := by rintro rfl; exact absurd least (by decide)
  have plus : c ≠ '+' := by rintro rfl; exact absurd least (by decide)
  cases sign with
  | none => simp [Sign.written, splitSign, minus, plus]
  | plus => rfl
  | minus => rfl

end DigitRun

theorem exists_sign (cs : List Char) :
    ∃ sign : Sign, cs = sign.written ++ (splitSign cs).2 ∧ (splitSign cs).1 = decide (sign = .minus) := by
  unfold splitSign
  split
  case h_1 => exact ⟨.minus, rfl, rfl⟩
  case h_2 => exact ⟨.plus, rfl, rfl⟩
  case h_3 => exact ⟨.none, rfl, rfl⟩

theorem exists_pieces {negative : Bool} {unsigned : List Char}
    (signed : splitSign (cs.dropWhile isPlainBlank) = (negative, unsigned)) (cut : spanNumeral unsigned = (run, after)) :
    ∃ before sign, cs = before ++ (Sign.written sign ++ (run ++ after)) ∧ (∀ c ∈ before, isPlainBlank c) ∧
      negative = decide (sign = .minus) := by
  obtain ⟨sign, whole, minus⟩ := exists_sign (cs.dropWhile isPlainBlank)
  rw [signed] at whole minus
  have digits : run ++ after = unsigned := by
    rw [spanNumeral, List.span_eq_takeWhile_dropWhile] at cut
    cases cut
    exact List.takeWhile_append_dropWhile
  refine ⟨cs.takeWhile isPlainBlank, sign, ?_, fun _ => List.mem_takeWhile_imp, minus⟩
  rw [digits, ← whole, List.takeWhile_append_dropWhile]

end Runs

section Numbers

variable {s : String} {sign : Sign} {ds : List Nat}

theorem exists_numeral_of_readInt {n : Int} (h : readInt s = .ok n) :
    ∃ sign ds, Numeral s sign ds ∧ n = sign.signed (ofDigits ds) := by
  rcases signed : splitSign ((s.toList.map plainNumeralChar).dropWhile isPlainBlank) with ⟨negative, unsigned⟩
  rcases cut : spanNumeral unsigned with ⟨run, after⟩
  obtain ⟨before, sign, written, blank, rfl⟩ := exists_pieces signed cut
  simp only [readInt, signed, cut] at h
  split at h
  case h_1 => cases h
  case h_2 ds digits =>
    split at h
    case isTrue => cases h
    case isFalse short =>
      split at h
      case isTrue => cases h
      case isFalse blank' =>
        cases h
        have numeral : Numeral s sign ds :=
          ⟨Nat.not_lt.mp short, before, run, after, written, digitRun_of_digitRun? digits, blank, by simpa using blank'⟩
        exact ⟨sign, ds, numeral, by simp [Sign.signed]⟩

theorem Numeral.readInt_eq (numeral : Numeral s sign ds) : readInt s = .ok (sign.signed (ofDigits ds)) := by
  obtain ⟨short, before, run, after, written, digits, blank, blank'⟩ := numeral
  have start : (s.toList.map plainNumeralChar).dropWhile isPlainBlank = sign.written ++ (run ++ after) := by
    rw [written, List.dropWhile_append_of_pos blank, digits.dropWhile_blank]
  have ends : after.all isPlainBlank := List.all_eq_true.mpr blank'
  rw [readInt, start]
  simp only [digits.splitSign_append, digits.spanNumeral_append blank', digits.digitRun?_eq, ends]
  simp [Nat.not_lt.mpr short, Sign.signed]

-- What is read as a number are the numerals of the number.
theorem readInt_eq_ok_iff {n : Int} :
    readInt s = .ok n ↔ ∃ sign ds, Numeral s sign ds ∧ n = sign.signed (ofDigits ds) := by
  refine ⟨exists_numeral_of_readInt, ?_⟩
  rintro ⟨sign, ds, numeral, rfl⟩
  exact numeral.readInt_eq

theorem foldl_digits_eq_zero_iff {n : Nat} : ds.foldl (fun n d => 10 * n + d) n = 0 ↔ n = 0 ∧ ∀ d ∈ ds, d = 0 := by
  induction ds generalizing n with
  | nil => simp
  | cons d ds ih =>
    rw [List.foldl_cons, ih, List.forall_mem_cons, ← and_assoc, Nat.add_eq_zero_iff, Nat.mul_eq_zero]
    simp

theorem Sign.signed_nonpos_iff : sign.signed (ofDigits ds) ≤ 0 ↔ sign = .minus ∨ ∀ d ∈ ds, d = 0 := by
  have zero : ofDigits ds = 0 ↔ ∀ d ∈ ds, d = 0 := by simp [ofDigits, foldl_digits_eq_zero_iff]
  rw [← zero, signed]
  split
  case isTrue minus => simp [minus]
  case isFalse other => simp [other]

end Numbers

end Keychord.Text
