import FormulaTrace.Display.NumberFormat
import FormulaTrace.Value.Document

/-!
The text that shows what a cell holds.
-/
namespace FormulaTrace

/-- The number format that asks for nothing. -/
def generalFormat : String := "General"

def Numeric.display (n : Numeric) (format : Option String) : Except DisplayError (List Char) :=
  match format with
  | some format =>
    if format = "" ∨ format = generalFormat then n.generalText else NumberFormat.render format n
  | none => n.generalText

def Numeric.shown (n : Numeric) (format : Option String) : Except Failure String :=
  ((n.display format).map String.ofList).mapError DisplayError.failure

/-- The text of a value under a number format; blank cells show nothing. -/
def Value.display (value : Value) (format : Option String) : Except Failure String :=
  match value with
  | .blank => .ok ""
  | .bool value => .ok (if value then "TRUE" else "FALSE")
  | .int n => (Numeric.whole n).shown format
  | .real x => (Numeric.real x).shown format
  | .text value => .ok value
  | other => other.document.map Text.Document.inlineText

end FormulaTrace
