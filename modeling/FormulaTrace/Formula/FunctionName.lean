import FormulaTrace.Address.SheetName
import FormulaTrace.Distinct
import FormulaTrace.Formula.Literal

/-!
The functions that a formula calls.
-/
namespace FormulaTrace.Formula

open Text

/-- A quoted sheet name, which is not empty. -/
def quotedSheet : Rule (List Char) := fun _ text =>
  match text with
  | '\'' :: rest =>
    match readEnclosed '\'' rest with
    | some (name, after) => if name = [] then none else some (name, after)
    | none => none
  | _ => none

/-- A bare name that does not continue a word and is followed by an opening parenthesis, with
nothing but white space between. -/
def functionCall : Rule (List Char) := fun before text =>
  let free := match before with
    | none => true
    | some c => !(isWordCharacter c || c = '.')
  match text with
  | [] => none
  | c :: rest =>
    if free && isNameStart c then
      match (rest.dropWhile isNamePart).dropWhile isBlank with
      | '(' :: after => some (c :: rest.takeWhile isNamePart, after)
      | _ => none
    else none

/-- The names of the functions that a formula calls, in capitals, each once, in order of first
use. -/
def functionNames (formula : String) : List String :=
  let bare := replaceOccurrences quotedSheet ['\'', '\''] (emptyLiterals formula.toList)
  firstsBy id ((occurrences functionCall bare).map fun name =>
    String.ofList (name.map Char.toUpper))

end FormulaTrace.Formula
