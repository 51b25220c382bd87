/-!
Text between two marks, where a mark inside is written twice.
-/
namespace FormulaTrace.Text

def doubleMarks (mark : Char) : List Char → List Char
  | [] => []
  | c :: rest =>
    if c = mark then mark :: mark :: doubleMarks mark rest else c :: doubleMarks mark rest

theorem notMem_doubleMarks {mark c : Char} {text : List Char} (other : c ∉ text) :
    c ∉ doubleMarks mark text := by
  induction text with
  | nil => exact other
  | cons d rest ih =>
    simp only [List.mem_cons, not_or] at other
    obtain ⟨here, behind⟩ := other
    unfold doubleMarks
    split
    next same => simp [same ▸ here, ih behind]
    next => simp [here, ih behind]

def enclose (mark : Char) (body : List Char) : List Char :=
  mark :: (doubleMarks mark body ++ [mark])

/-- Reads what follows an opening mark: the body, with doubled marks made single, and the text after
the closing mark.  Where no mark closes the text, the last doubled mark is taken as a closing mark
and the start of what follows. -/
def readEnclosed (mark : Char) : List Char → Option (List Char × List Char)
  | [] => none
  | [c] => if c = mark then some ([], []) else none
  | c :: d :: rest =>
    if c = mark then
      if d = mark then
        match readEnclosed mark rest with
        | some (body, after) => some (mark :: body, after)
        | none => some ([], d :: rest)
      else some ([], d :: rest)
    else (readEnclosed mark (d :: rest)).map fun (body, after) => (c :: body, after)

theorem readEnclosed_cons_of_ne {mark c : Char} (other : c ≠ mark) (rest : List Char) :
    readEnclosed mark (c :: rest) = (readEnclosed mark rest).map fun (body, after) =>
      (c :: body, after) := by
  cases rest with
  | nil => simp [readEnclosed, other]
  | cons d more => rw [readEnclosed, if_neg other]

theorem readEnclosed_doubleMarks (mark : Char) (body : List Char) {after : List Char}
    (h : after.head? ≠ some mark) :
    readEnclosed mark (doubleMarks mark body ++ mark :: after) = some (body, after) := by
  induction body with
  | nil =>
    cases after with
    | nil => simp [doubleMarks, readEnclosed]
    | cons c rest =>
      have other : c ≠ mark := by simpa using h
      simp [doubleMarks, readEnclosed, other]
  | cons c rest ih =>
    by_cases same : c = mark
    · simp [doubleMarks, readEnclosed, same, ih]
    · rw [doubleMarks, if_neg same, List.cons_append, readEnclosed_cons_of_ne same, ih]
      rfl

theorem readEnclosed_closing {mark : Char} {text body after : List Char}
    (h : readEnclosed mark text = some (body, after)) : ∃ read, text = read ++ mark :: after := by
  fun_induction readEnclosed mark text generalizing body after with
  | case1 => simp at h
  | case2 => exact ⟨[], by grind⟩
  | case3 => simp at h
  | case4 rest body' after' found ih =>
    obtain ⟨read, whole⟩ := ih found
    exact ⟨mark :: mark :: read, by grind⟩
  | case5 => exact ⟨[], by grind⟩
  | case6 => exact ⟨[], by grind⟩
  | case7 c d rest _ ih =>
    obtain ⟨⟨body', after'⟩, found, same⟩ := Option.map_eq_some_iff.1 h
    obtain ⟨read, whole⟩ := ih found
    exact ⟨c :: read, by grind⟩

end FormulaTrace.Text
