import FormulaTrace.Formula.Literal
import FormulaTrace.Proofs.Text.Occurrence

/-! How string literals are emptied, piece by piece.
Text without double quotes stays as it is, and a literal becomes two double quotes whatever it
holds. -/
namespace FormulaTrace.Formula
open Text

theorem literal_blind : Rule.Blind literal := fun _ _ _ => rfl

theorem literal_of_ne (before : Option Char) {c : Char} (rest : List Char) (h : c ≠ '"') :
    literal before (c :: rest) = none := by
  simp [literal, h]

theorem emptyLiterals_cons_of_ne {c : Char} (rest : List Char) (h : c ≠ '"') :
    emptyLiterals (c :: rest) = c :: emptyLiterals rest :=
  replaceOccurrences_cons _ literal_blind (literal_of_ne none rest h)

theorem emptyLiterals_append {text : List Char} (rest : List Char) (h : '"' ∉ text) :
    emptyLiterals (text ++ rest) = text ++ emptyLiterals rest :=
  replaceOccurrences_append _ literal_blind rest fun c member rest =>
    literal_of_ne none rest fun same : c = '"' => h (same ▸ member)

theorem emptyLiterals_of_read {rest content left : List Char}
    (read : readEnclosed '"' rest = some (content, left)) :
    emptyLiterals ('"' :: rest) = '"' :: '"' :: emptyLiterals left := by
  obtain ⟨hidden, rfl⟩ := readEnclosed_closing read
  have split : '"' :: (hidden ++ '"' :: left) = '"' :: (hidden ++ ['"']) ++ left := by simp
  have found : literal none ('"' :: (hidden ++ ['"']) ++ left) = some (content, left) := by
    rw [← split]
    exact read
  rw [split]
  exact replaceOccurrences_found _ literal_blind (List.cons_ne_nil _ _) found

theorem emptyLiterals_of_unclosed {rest : List Char} (unclosed : readEnclosed '"' rest = none) :
    emptyLiterals ('"' :: rest) = '"' :: emptyLiterals rest :=
  replaceOccurrences_cons _ literal_blind unclosed

theorem emptyLiterals_enclose (content : List Char) {rest : List Char} (h : rest.head? ≠ some '"') :
    emptyLiterals (enclose '"' content ++ rest) = '"' :: '"' :: emptyLiterals rest := by
  rw [enclose, List.cons_append, List.append_assoc]
  exact emptyLiterals_of_read (readEnclosed_doubleMarks '"' content h)

end FormulaTrace.Formula
