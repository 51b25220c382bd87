/-!
Cutting text at a separating character.
-/
namespace FormulaTrace.Text

def breakFirst (mark : Char) : List Char → List Char × Option (List Char)
  | [] => ([], none)
  | c :: rest =>
    if c = mark then ([], some rest)
    else ((breakFirst mark rest).1.cons c, (breakFirst mark rest).2)

/-- The text before the last separator and the text after it; without a separator nothing is
before. -/
def breakLast (mark : Char) : List Char → Option (List Char) × List Char
  | [] => (none, [])
  | c :: rest =>
    match breakLast mark rest with
    | (some before, after) => (some (c :: before), after)
    | (none, after) => if c = mark then (some [], after) else (none, c :: after)

/-- The parts between separators; there is always one more part than separators. -/
def splitAt (mark : Char) : List Char → List (List Char)
  | [] => [[]]
  | c :: rest =>
    if c = mark then [] :: splitAt mark rest
    else
      match splitAt mark rest with
      | [] => [[c]]
      | part :: parts => (c :: part) :: parts

theorem breakFirst_of_not_mem {mark : Char} {text : List Char} (h : mark ∉ text) :
    breakFirst mark text = (text, none) := by
  induction text with
  | nil => rfl
  | cons c rest ih =>
    simp only [List.mem_cons, not_or] at h
    simp [breakFirst, Ne.symm h.1, ih h.2]

theorem breakFirst_append {mark : Char} {before : List Char} (after : List Char)
    (h : mark ∉ before) :
    breakFirst mark (before ++ mark :: after) = (before, some after) := by
  induction before with
  | nil => simp [breakFirst]
  | cons c rest ih =>
    simp only [List.mem_cons, not_or] at h
    simp [breakFirst, Ne.symm h.1, ih h.2]

theorem breakLast_of_not_mem {mark : Char} {text : List Char} (h : mark ∉ text) :
    breakLast mark text = (none, text) := by
  induction text with
  | nil => rfl
  | cons c rest ih =>
    simp only [List.mem_cons, not_or] at h
    simp [breakLast, Ne.symm h.1, ih h.2]

theorem breakLast_append {mark : Char} (before : List Char) {after : List Char} (h : mark ∉ after) :
    breakLast mark (before ++ mark :: after) = (some before, after) := by
  induction before with
  | nil => simp [breakLast, breakLast_of_not_mem h]
  | cons c rest ih => simp [breakLast, ih]

theorem splitAt_of_not_mem {mark : Char} {text : List Char} (h : mark ∉ text) :
    splitAt mark text = [text] := by
  induction text with
  | nil => rfl
  | cons c rest ih =>
    simp only [List.mem_cons, not_or] at h
    simp [splitAt, Ne.symm h.1, ih h.2]

theorem splitAt_append {mark : Char} {before : List Char} (after : List Char) (h : mark ∉ before) :
    splitAt mark (before ++ mark :: after) = before :: splitAt mark after := by
  induction before with
  | nil => simp [splitAt]
  | cons c rest ih =>
    simp only [List.mem_cons, not_or] at h
    simp [splitAt, Ne.symm h.1, ih h.2]

theorem splitAt_intercalate {mark : Char} {parts : List (List Char)} (filled : parts ≠ [])
    (h : ∀ part ∈ parts, mark ∉ part) : splitAt mark ([mark].intercalate parts) = parts := by
  induction parts with
  | nil => exact absurd rfl filled
  | cons part rest ih =>
    obtain ⟨here, others⟩ := List.forall_mem_cons.1 h
    cases rest with
    | nil => simp [splitAt_of_not_mem here]
    | cons next more =>
      rw [List.intercalate_cons_cons, List.append_assoc, List.singleton_append,
        splitAt_append _ here, ih (List.cons_ne_nil next more) others]

end FormulaTrace.Text
