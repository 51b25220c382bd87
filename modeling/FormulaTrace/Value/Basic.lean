import FormulaTrace.Failure
import FormulaTrace.Value.Moment

/-!
What cells hold.
-/
namespace FormulaTrace

inductive Value where
  | blank
  | bool (value : Bool)
  | int (value : Int)
  | real (value : Binary64)
  | text (value : String)
  | moment (value : Moment)
  /-- An object of some other kind: the text of a formula that it may hold, and what comes of asking
  for its own text. -/
  | object (kind : String) (formula : Option String) (text : Except Failure String)
  | list (items : List Value)
  | record (fields : List (Value × Value))

def isFormula (text : String) : Bool := text.toList.head? = some '='

def Value.formula? : Value → Option String
  | text value => if isFormula value then some value else none
  | object _ (some formula) _ => if isFormula formula then some formula else none
  | _ => none

theorem Value.isFormula_of_formula? {value : Value} {formula : String}
    (h : value.formula? = some formula) :
    isFormula formula = true := by
  unfold Value.formula? at h
  grind

def Value.kind : Value → String
  | blank => "NoneType"
  | bool _ => "bool"
  | int _ => "int"
  | real _ => "float"
  | text _ => "str"
  | moment (.date _) => "datetime.date"
  | moment (.dateTime _ _) => "datetime.datetime"
  | moment (.time _) => "datetime.time"
  | object kind _ _ => kind
  | list _ => "list"
  | record _ => "dict"

end FormulaTrace
