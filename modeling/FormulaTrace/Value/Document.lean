import FormulaTrace.Number.Shortest
import FormulaTrace.Text.Document
import FormulaTrace.Value.Basic

/-!
Cell values as documents.

A value may have none: a whole number may have too many digits, a key may be no name, and an object
may have no text.  The first of these that is come upon counts.
-/
namespace FormulaTrace.Value

open Text

def realText : Binary64 → String
  | .nan => "NaN"
  | .infinite negative => if negative then "-Infinity" else "Infinity"
  | x => x.text

def integerText (n : Int) : Except Failure String := (writeInteger n).mapError .badValue

def keyText : Value → Except Failure String
  | blank => .ok "null"
  | bool value => .ok (if value then "true" else "false")
  | int value => integerText value
  | real value => .ok (realText value)
  | text value => .ok value
  | other => .error (.wrongType ("keys must be str, int, float, bool or None, not " ++ other.kind))

mutual

def document : Value → Except Failure Document
  | blank => .ok .null
  | bool value => .ok (.bool value)
  | int value => (integerText value).map .number
  | real value => .ok (.number (realText value))
  | text value => .ok (.string value)
  | moment value => .ok (.string value.text)
  | object _ _ shown => shown.map .string
  | list items => (documents items).map .array
  | record fields => (fieldDocuments fields).map .object

def documents : List Value → Except Failure (List Document)
  | [] => .ok []
  | value :: rest => do
    let first ← document value
    let others ← documents rest
    return first :: others

def fieldDocuments : List (Value × Value) → Except Failure (List (String × Document))
  | [] => .ok []
  | (key, value) :: rest => do
    let name ← keyText key
    let first ← document value
    let others ← fieldDocuments rest
    return (name, first) :: others

end

end FormulaTrace.Value
