namespace Keychord.Text

def split (mark : Char) : List Char → List (List Char)
  | [] => [[]]
  | c :: rest =>
    match split mark rest with
    | [] => [[c]]
    | part :: more => if c = mark then [] :: part :: more else (c :: part) :: more

theorem split_ne_nil (mark : Char) (cs : List Char) : split mark cs ≠ [] := by
  cases cs with
  | nil => simp [split]
  | cons c rest =>
    simp only [split]
    split
    · simp
    · split <;> simp

theorem intercalate_split (mark : Char) (cs : List Char) : [mark].intercalate (split mark cs) = cs := by
  induction cs with
  | nil => rfl
  | cons c rest ih =>
    simp only [split]
    split
    · next h => exact absurd h (split_ne_nil mark rest)
    · next part more h =>
      rw [h] at ih
      by_cases hc : c = mark
      · simp [hc, List.intercalate] at ih ⊢
        exact ih
      · simp only [hc, if_false]
        cases more <;> simp [List.intercalate, List.intersperse] at ih ⊢ <;> exact ih

theorem split_append_mark {mark : Char} {part : List Char} (h : mark ∉ part) (rest : List Char) :
    split mark (part ++ mark :: rest) = part :: split mark rest := by
  induction part with
  | nil =>
    cases hs : split mark rest with
    | nil => exact absurd hs (split_ne_nil mark rest)
    | cons first more => simp [split, hs]
  | cons c part ih =>
    have hc : c ≠ mark := by rintro rfl; simp at h
    have hp : mark ∉ part := fun hm => h (List.mem_cons_of_mem c hm)
    simp [split, ih hp, hc]

theorem split_of_not_mem {mark : Char} {part : List Char} (h : mark ∉ part) : split mark part = [part] := by
  induction part with
  | nil => rfl
  | cons c part ih =>
    have hc : c ≠ mark := by rintro rfl; simp at h
    have hp : mark ∉ part := fun hm => h (List.mem_cons_of_mem c hm)
    simp [split, ih hp, hc]

theorem split_intercalate_append {mark : Char} {parts : List (List Char)} (hn : parts ≠ [])
    (hp : ∀ part ∈ parts, mark ∉ part) (rest : List Char) :
    split mark ([mark].intercalate parts ++ mark :: rest) = parts ++ split mark rest := by
  induction parts with
  | nil => exact absurd rfl hn
  | cons part parts ih =>
    obtain ⟨hf, hr⟩ := List.forall_mem_cons.mp hp
    cases parts with
    | nil => simpa [List.intercalate] using split_append_mark hf rest
    | cons next parts =>
      have first := split_append_mark hf ([mark].intercalate (next :: parts) ++ mark :: rest)
      rw [ih (by simp) hr] at first
      simpa [List.intercalate, List.intersperse] using first

theorem intercalate_concat {mark : Char} {parts : List (List Char)} (hn : parts ≠ []) (last : List Char) :
    [mark].intercalate (parts ++ [last]) = [mark].intercalate parts ++ mark :: last := by
  induction parts with
  | nil => exact absurd rfl hn
  | cons part parts ih =>
    cases parts with
    | nil => simp [List.intercalate_cons_cons]
    | cons next parts =>
      have later := ih (by simp)
      simp only [List.cons_append, List.intercalate_cons_cons] at later ⊢
      rw [later]
      simp

def cut (mark : Char) : List Char → List Char × Option (List Char)
  | [] => ([], none)
  | c :: rest =>
    if c = mark then ([], some rest)
    else
      let (before, after) := cut mark rest
      (c :: before, after)

end Keychord.Text
