import FormulaTrace.Configuration
import FormulaTrace.Formula.FunctionName
import FormulaTrace.Text.PlainInteger
import FormulaTrace.Trace.Report
import FormulaTrace.Workbook.Shelf

/-!
The requests that the service answers: its health, the references of a formula, and a trace through
a workbook.

A request is a set of fields.  A field of the wrong kind makes the request invalid, and the answer
names all such fields.
-/
namespace FormulaTrace.Service

open Text

abbrev Fields := List (String × Value)

inductive Answer where
  | health
  | references (areas : List Area) (functions : List String)
  | report (report : Report)
  /-- The request was understood and cannot be met. -/
  | refused (status : Nat) (detail : String)
  | invalid (fields : List String)

/-- The names of the fields that have no value, in alphabetical order. -/
def faults (fields : List (String × Bool)) : List String :=
  ((fields.filter fun field => !field.2).map Prod.fst).mergeSort

def text? : Value → Option String
  | .text value => some value
  | _ => none

def optionalText? : Value → Option (Option String)
  | .blank => some none
  | value => (text? value).map some

/-- Floating-point numbers count as whole numbers only below this magnitude. -/
def wholeLimit : Nat := twoPow 63

/-- A whole number: as such, as a truth value, as a number without a fraction, or in a text. -/
def integer? : Value → Option Int
  | .bool value => some (if value then 1 else 0)
  | .int value => some value
  | .real (.finite negative mantissa exponent) =>
    let x := Binary64.finite negative mantissa exponent
    if x.isWhole && !x.magnitudeReaches (wholeLimit, 1) then
      some (Binary64.truncate negative mantissa exponent)
    else none
  | .text value => plainInteger? value.toList
  | _ => none

def optionalInteger? : Value → Option (Option Int)
  | .blank => some none
  | value => (integer? value).map some

/-- A truth value: as such, as zero or one, or as a word. -/
def truth? : Value → Option Bool
  | .bool value => some value
  | .int value => if value = 0 then some false else if value = 1 then some true else none
  | .real x =>
    match integer? (.real x) with
    | some value => if value = 0 then some false else if value = 1 then some true else none
    | none => none
  | .text value =>
    let word := String.ofList (lower value.toList)
    if word ∈ ["1", "on", "t", "true", "y", "yes"] then some true
    else if word ∈ ["0", "off", "f", "false", "n", "no"] then some false
    else none
  | _ => none

def required {α : Type} (fields : Fields) (name : String) (read : Value → Option α) : Option α :=
  (fields.lookup name).bind read

def optional {α : Type} (fields : Fields) (name : String) (default : α) (read : Value → Option α) :
    Option α :=
  match fields.lookup name with
  | some value => read value
  | none => some default

def answerReferences (fields : Fields) : Answer :=
  let formula := required fields "formula" text?
  let sheet := optional fields "sheet" "Sheet1" text?
  match formula, sheet with
  | some formula, some sheet =>
    .references (Formula.references formula sheet) (Formula.functionNames formula)
  | formula, sheet => .invalid (faults [("formula", formula.isSome), ("sheet", sheet.isSome)])

def ofReport (report : Report) : Answer :=
  match report.status with
  | .invalidInput => .refused 400 report.message
  | .failed => .refused 502 report.message
  | _ => .report report

def trace (shelf : Shelf) (limits : Limits) (path cell : String) (mode : Option String)
    (depth : Option Int) (index : Bool) : Except Failure Answer :=
  if (shelf.find? path).isNone then .ok (.refused 404 ("Workbook not found: " ++ path))
  else
    match shelf.openWorkbook path (if index then some defaultExpansion else none) with
    | .error (.source message _ _) => .ok (.refused 502 message)
    | .error failure => .error failure
    | .ok workbook =>
      let asked := (depth.map Value.int).getD .blank
      let reading := Report.produce OpenWorkbook.source limits cell mode asked none
      (reading.run.run workbook).1.map ofReport

def answerTrace (shelf : Shelf) (limits : Limits) (fields : Fields) : Except Failure Answer :=
  let path := required fields "path" text?
  let cell := required fields "cell" text?
  let mode := optional fields "mode" none optionalText?
  let depth := optional fields "depth" none optionalInteger?
  let index := optional fields "use_index" false truth?
  match path, cell, mode, depth, index with
  | some path, some cell, some mode, some depth, some index =>
    trace shelf limits path cell mode depth index
  | path, cell, mode, depth, index =>
    .ok (.invalid (faults [("path", path.isSome), ("cell", cell.isSome), ("mode", mode.isSome),
      ("depth", depth.isSome), ("use_index", index.isSome)]))

/-- A request to the service. -/
inductive Request where
  | health
  | references (fields : Fields)
  | trace (fields : Fields)

def answer (shelf : Shelf) (configuration : Configuration) : Request → Except Failure Answer
  | .health => .ok .health
  | .references fields => .ok (answerReferences fields)
  | .trace fields => answerTrace shelf configuration.limits fields

end FormulaTrace.Service
