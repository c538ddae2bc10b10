namespace Keychord.Notation

inductive Token
  | char (c : Char)
  | bracket (content : List Char)
  | unclosed (content : List Char)
  deriving DecidableEq, Repr

def Token.written : Token → List Char
  | char c => [c]
  | bracket content => '<' :: content ++ ['>']
  | unclosed content => '<' :: content

def Token.text (token : Token) : String := String.ofList token.written

def scan : Option (List Char) → List Char → List Token
  | none, [] => []
  | none, c :: rest => if c = '<' then scan (some []) rest else .char c :: scan none rest
  | some content, [] => [.unclosed content.reverse]
  | some content, c :: rest =>
    if c = '>' then .bracket content.reverse :: scan none rest else scan (some (c :: content)) rest

def tokens (cs : List Char) : List Token := scan none cs

theorem written_scan (cs : List Char) : ∀ opened : Option (List Char),
    (scan opened cs).flatMap Token.written = (opened.elim [] fun content => '<' :: content.reverse) ++ cs := by
  induction cs with
  | nil => rintro (_ | content) <;> simp [scan, Token.written]
  | cons c rest ih =>
    rintro (_ | content)
    · by_cases h : c = '<' <;> simp [scan, h, ih, Token.written]
    · by_cases h : c = '>' <;> simp [scan, h, ih, Token.written]

theorem written_tokens (cs : List Char) : (tokens cs).flatMap Token.written = cs := by
  simpa [tokens] using written_scan cs none

def Token.Closed : Token → Prop
  | char c => c ≠ '<'
  | bracket content => '>' ∉ content
  | unclosed _ => False

inductive Scanned : List Token → Prop
  | nil : Scanned []
  | unclosed {content : List Char} (h : '>' ∉ content) : Scanned [.unclosed content]
  | cons {token : Token} {ts : List Token} (h : token.Closed) (rest : Scanned ts) : Scanned (token :: ts)

theorem scanned_scan (cs : List Char) : ∀ opened : Option (List Char), (∀ content ∈ opened, '>' ∉ content) →
    Scanned (scan opened cs) := by
  induction cs with
  | nil =>
    rintro (_ | content) h
    · exact .nil
    · exact .unclosed (by simpa using h content rfl)
  | cons c rest ih =>
    rintro (_ | content) h <;> rw [scan] <;> split
    · exact ih (some []) (by simp)
    · next hc => exact .cons hc (ih none (by simp))
    · have closed : (Token.bracket content.reverse).Closed := by simpa [Token.Closed] using h content rfl
      exact .cons closed (ih none (by simp))
    · next hc =>
      refine ih (some (c :: content)) ?_
      rintro _ ⟨⟩ hm
      obtain rfl | hm := List.mem_cons.mp hm
      · exact hc rfl
      · exact h content rfl hm

theorem scanned_tokens (cs : List Char) : Scanned (tokens cs) := scanned_scan cs none (by simp)

theorem scan_bracket {content : List Char} (h : '>' ∉ content) (opened rest : List Char) :
    scan (some opened) (content ++ '>' :: rest) = .bracket (opened.reverse ++ content) :: scan none rest := by
  induction content generalizing opened with
  | nil => simp [scan]
  | cons c content ih =>
    have hc : c ≠ '>' := by rintro rfl; simp at h
    have hr : '>' ∉ content := fun hm => h (List.mem_cons_of_mem c hm)
    simp [scan, hc, ih hr]

theorem tokens_written_append {token : Token} (h : token.Closed) (rest : List Char) :
    tokens (token.written ++ rest) = token :: tokens rest := by
  cases token with
  | char c =>
    have hc : c ≠ '<' := h
    simp [tokens, Token.written, scan, hc]
  | bracket content =>
    have ends := scan_bracket h [] rest
    simpa [tokens, Token.written, scan] using ends
  | unclosed content => cases h

-- A closed token does not run into what is written after it.
theorem tokens_flatMap_written {ts : List Token} (h : ∀ token ∈ ts, token.Closed) :
    tokens (ts.flatMap Token.written) = ts := by
  induction ts with
  | nil => rfl
  | cons token ts ih =>
    obtain ⟨ht, hr⟩ := List.forall_mem_cons.mp h
    rw [List.flatMap_cons, tokens_written_append ht, ih hr]

theorem scan_unclosed {content : List Char} (h : '>' ∉ content) (opened : List Char) :
    scan (some opened) content = [.unclosed (opened.reverse ++ content)] := by
  induction content generalizing opened with
  | nil => simp [scan]
  | cons c content ih =>
    have ⟨hc, hr⟩ : '>' ≠ c ∧ '>' ∉ content := by simpa using h
    simp [scan, hc.symm, ih hr]

theorem Scanned.tokens_written {ts : List Token} (scanned : Scanned ts) : tokens (ts.flatMap Token.written) = ts := by
  induction scanned with
  | nil => rfl
  | unclosed h =>
    have ends := scan_unclosed h []
    simpa [tokens, Token.written, scan] using ends
  | cons closed _ ih => rw [List.flatMap_cons, tokens_written_append closed, ih]

theorem tokens_eq_nil_iff {cs : List Char} : tokens cs = [] ↔ cs = [] := by
  constructor
  case mp =>
    intro none
    have written := written_tokens cs
    rw [none] at written
    exact written.symm
  case mpr => intro empty; rw [empty]; rfl

end Keychord.Notation
