import FormulaTrace.Text.Occurrence

/-! What is read from a text part by part.
A part of a text is passed over where the rule does not apply, or it is one occurrence and is read
to its end.  A rule that does not look at the character in front reads the rest of a text as if
nothing stood before it. -/
namespace FormulaTrace.Text

variable {α : Type} {rule : Rule α} {before : Option Char} {c : Char}

def occurrencesAfter (rule : Rule α) (before : Option Char) (text : List Char) : List α :=
  (Piece.scan rule 0 before text).filterMap Piece.value?

theorem occurrencesAfter_cons {rest : List Char} (h : rule before (c :: rest) = none) :
    occurrencesAfter rule before (c :: rest) = occurrencesAfter rule (some c) rest := by
  rw [occurrencesAfter, Piece.scan_plain h]
  rfl

theorem occurrencesAfter_found {text rest : List Char} {found : α} (filled : text ≠ [])
    (h : rule before (text ++ rest) = some (found, rest)) :
    occurrencesAfter rule before (text ++ rest) = found :: occurrencesAfter rule text.getLast?
      rest := by
  obtain ⟨c, more, rfl⟩ := List.exists_cons_of_ne_nil filled
  rw [occurrencesAfter, List.cons_append, Piece.scan_found h]
  rfl

/-- A text is passed over if no character of it is one that an occurrence may start with. -/
theorem occurrencesAfter_inert {starts : Char → Bool}
    (needed : ∀ before c rest, starts c = false → rule before (c :: rest) = none)
    (before : Option Char)
    {text : List Char} (rest : List Char) (h : ∀ c ∈ text, starts c = false) :
    occurrencesAfter rule before (text ++ rest) = occurrencesAfter rule (text.getLast?.or before)
      rest := by
  induction text generalizing before with
  | nil => rfl
  | cons c more ih =>
    obtain ⟨first, others⟩ := List.forall_mem_cons.1 h
    rw [List.cons_append, occurrencesAfter_cons (needed before c _ first), ih (some c) others]
    cases more <;> simp [List.getLast?_cons]

/-- The rule reads the same whatever character stands in front. -/
def Rule.Blind (rule : Rule α) : Prop := ∀ before before' text, rule before text = rule before' text

theorem Rule.Blind.scan (blind : rule.Blind) (skip : Nat) (before before' : Option Char)
    (text : List Char) :
    Piece.scan rule skip before text = Piece.scan rule skip before' text := by
  cases text with
  | nil => rw [Piece.scan, Piece.scan]
  | cons c rest =>
    cases skip with
    | zero => rw [Piece.scan, Piece.scan, blind before before']
    | succ skip => rw [Piece.scan, Piece.scan]

variable (replacement : List Char)

theorem replaceOccurrences_cons (blind : rule.Blind) {rest : List Char}
    (plain : rule none (c :: rest) = none) :
    replaceOccurrences rule replacement (c :: rest) = c :: replaceOccurrences rule replacement
      rest := by
  simp only [replaceOccurrences, pieces, Piece.scan_plain plain, List.flatMap_cons, Piece.fill,
    List.singleton_append]
  rw [blind.scan 0 (some c) none]

theorem replaceOccurrences_found (blind : rule.Blind) {text rest : List Char} {found : α}
    (filled : text ≠ []) (h : rule none (text ++ rest) = some (found, rest)) :
    replaceOccurrences rule replacement (text ++ rest) = replacement ++
      replaceOccurrences rule replacement rest := by
  obtain ⟨c, more, rfl⟩ := List.exists_cons_of_ne_nil filled
  simp only [List.cons_append] at h ⊢
  simp only [replaceOccurrences, pieces, Piece.scan_found h, List.flatMap_cons, Piece.fill]
  rw [blind.scan 0 _ none]

theorem replaceOccurrences_append (blind : rule.Blind) {text : List Char} (rest : List Char)
    (plain : ∀ c ∈ text, ∀ rest, rule none (c :: rest) = none) :
    replaceOccurrences rule replacement (text ++ rest) = text ++ replaceOccurrences rule replacement
      rest := by
  induction text with
  | nil => rfl
  | cons c more ih =>
    obtain ⟨first, others⟩ := List.forall_mem_cons.1 plain
    rw [List.cons_append, replaceOccurrences_cons replacement blind (first _), ih others,
      List.cons_append]

end FormulaTrace.Text
