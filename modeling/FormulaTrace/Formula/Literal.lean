import FormulaTrace.Text.Enclosed
import FormulaTrace.Text.Occurrence

/-!
String literals in formulas, which hide what they hold from every other reading of the formula.
-/
namespace FormulaTrace.Formula

open Text

def literal : Rule (List Char) := fun _ text =>
  match text with
  | '"' :: rest => readEnclosed '"' rest
  | _ => none

def emptyLiterals (formula : List Char) : List Char := replaceOccurrences literal ['"', '"'] formula

end FormulaTrace.Formula
