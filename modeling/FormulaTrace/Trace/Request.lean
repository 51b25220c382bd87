import FormulaTrace.Address.Reading
import FormulaTrace.Failure
import FormulaTrace.Value.Basic

/-!
What is asked of a trace: the cell, the direction and the depth, and the limits that hold.
-/
namespace FormulaTrace

open Text

/-- The bounds of a trace. -/
structure Limits where
  maxDepth : Int := 5
  defaultDepth : Int := 2
  /-- How many children a node may have. -/
  maxChildren : Int := 80
  /-- How many references of a formula are followed. -/
  maxReferences : Int := 20
  /-- How many cells the formula grids of a scan may have together. -/
  maxScanCells : Int := 50000

def minDepth : Int := 1

/-- The depth of a trace: what is asked for, or the default, within the bounds. -/
def Limits.boundDepth (limits : Limits) (asked : Option Int) : Int :=
  max minDepth (min (asked.getD limits.defaultDepth) limits.maxDepth)

theorem Limits.one_le_boundDepth (limits : Limits) (asked : Option Int) :
    1 ≤ limits.boundDepth asked := by
  simp only [boundDepth, minDepth]
  omega

/-- Whether a trace follows what a cell reads, or what reads it. -/
inductive Mode where
  | precedents
  | dependents
deriving DecidableEq

namespace Mode

def name : Mode → String
  | precedents => "precedents"
  | dependents => "dependents"

def read (text : Option String) : Except Failure Mode :=
  if text = some "precedents" then .ok precedents
  else if text = some "dependents" then .ok dependents
  else
    let shown := match text with
      | some text => quotation text
      | none => "None"
    .error (.badValue (shown ++ " is not a valid TraceMode"))

/-- Any text but one stands for precedents. -/
def ofText (text : Option String) : Mode :=
  if text = some "dependents" then dependents else precedents

end Mode

/-- Where the children in a tree came from. -/
inductive Origin where
  | index
  | formulas
  | mixed
  | none
deriving DecidableEq

namespace Origin

def ofUse (usedIndex usedFormulas : Bool) : Origin :=
  match usedIndex, usedFormulas with
  | true, true => mixed
  | true, false => index
  | false, true => formulas
  | false, false => none

def name : Origin → String
  | index => "api"
  | formulas => "formula_scan"
  | mixed => "mixed"
  | none => "none"

end Origin

/-- Why a text does not stand for one cell. -/
inductive TargetError where
  | several (text : String)
  | noSheet (text : String)
  | malformed (text : String)

def TargetError.message : TargetError → String
  | several text => "Expected a single cell, not a range: " ++ quotation text
  | noSheet text => "Cell reference must be sheet-qualified: " ++ quotation text
  | malformed text => "Not a valid cell reference: " ++ quotation text

def TargetError.failure (error : TargetError) : Failure := .invalidInput error.message

def singleCell (text home : String) : Except TargetError String :=
  if coversSeveral text then .error (.several text)
  else if ((separate text).1.getD home) = "" then .error (.noSheet text)
  else
    match canonical? text home with
    | some address => .ok address
    | none => .error (.malformed text)

/-- The cell that a trace starts from. -/
inductive Target where
  | text (spelled : String)
  | cell (place : Cell)

def Target.address : Target → Except Failure String
  | text spelled => (singleCell spelled "").mapError TargetError.failure
  | cell place =>
    ((namedAddress place.col place.row).map (qualify place.sheet)).mapError AddressError.failure

/-- The whole number that a value stands for, without its fraction. -/
def Value.toInteger : Value → Except Failure Int
  | bool value => .ok (if value then 1 else 0)
  | int value => .ok value
  | real .nan => .error (.badValue "cannot convert float NaN to integer")
  | real (.infinite _) => .error (.overflow "cannot convert float infinity to integer")
  | real (.finite negative mantissa exponent) => .ok (Binary64.truncate negative mantissa exponent)
  | text value => (readInteger value).mapError IntegerError.failure
  | other => .error (.wrongType
    ("int() argument must be a string, a bytes-like object or a real number, not '" ++ other.kind ++
      "'"))

/-- The depth that a value asks for; a blank asks for none. -/
def Value.askedDepth : Value → Except Failure (Option Int)
  | blank => .ok Option.none
  | value => value.toInteger.map some

end FormulaTrace
