import FormulaTrace.Trace.Source
import FormulaTrace.Workbook.Index

/-!
Open workbooks as sources of cells.

The values of formula cells come from a second set of sheets, where the workbook was saved with
them. Looking at cells may let a sheet have more cells than before; this is the state of an open
workbook.
-/
namespace FormulaTrace

open Text

structure OpenWorkbook where
  sheets : List Sheet
  /-- The sheets with the values of formulas; without them formula cells show their formulas. -/
  values : Option (List Sheet)
  index : Option Index

namespace OpenWorkbook

def titles (workbook : OpenWorkbook) : List String := workbook.sheets.map Sheet.title

/-- Opens sheets; with a limit on expanded areas an index is built, for which all cells are looked
at. -/
def start (sheets : List Sheet) (values : Option (List Sheet)) (indexLimit : Option Int) :
    OpenWorkbook :=
  match indexLimit with
  | none => ⟨sheets, values, none⟩
  | some limit => ⟨sheets.map Sheet.fill, values, some (Index.ofSheets limit sheets)⟩

def unknownSheet (name : Option String) : Failure :=
  let shown := match name with
    | some name => quotation name
    | none => "None"
  .source ("Unknown sheet: " ++ shown) none none

def findTitle (workbook : OpenWorkbook) (name : Option String) : Except Failure String :=
  match titleFor? workbook.titles (String.ofList (trim (name.getD "").toList)) with
  | some title => .ok title
  | none => .error (unknownSheet name)

/-- The sheet with a title, and the sheets after something was done to it. -/
def onSheet {α : Type} (title : String) (step : Sheet → α × Sheet) :
    List Sheet → Option (α × List Sheet)
  | [] => none
  | sheet :: rest =>
    if sheet.title = title then some ((step sheet).1, (step sheet).2 :: rest)
    else (onSheet title step rest).map fun (result, rest) => (result, sheet :: rest)

def missingSheet (title : String) : Failure :=
  .missingKey ("Worksheet " ++ title ++ " does not exist.")

def visitSheet {α : Type} (title : String) (step : Sheet → α × Sheet) : Reading OpenWorkbook α :=
  ExceptT.mk fun workbook =>
    match onSheet title (Sheet.inCells step) workbook.sheets with
    | some (result, sheets) => (result, { workbook with sheets := sheets })
    | none => (.error (missingSheet title), workbook)

def visitValues {α : Type} (title : String) (step : Sheet → α × Sheet) : Reading OpenWorkbook α :=
  ExceptT.mk fun workbook =>
    match workbook.values with
    | none => (visitSheet title step).run.run workbook
    | some values =>
      match onSheet title (Sheet.inCells step) values with
      | some (result, values) => (result, { workbook with values := some values })
      | none => (.error (missingSheet title), workbook)

def resolveSheet (name : Option String) : Reading OpenWorkbook String := do
  Reading.ofExcept ((← get).findTitle name)

def invalidAddress (address : String) : Failure :=
  .source ("Invalid cell address: " ++ quotation address) (some address) none

def locate (address title : String) : Except Failure Cell :=
  match Cell.read? address title with
  | some cell => .ok cell
  | none => .error (invalidAddress address)

/-- A number format that asks for something. -/
def tellingFormat (format : String) : Option String :=
  if format = "" ∨ format = "General" then none else some format

def snapshot (address : String) (content value : Option Content) : Snapshot :=
  let formula := content.bind fun content => content.value.formula?
  let shown := if formula.isSome then value else content
  { value := (shown.map Content.value).getD .blank
    formula := formula
    numberFormat := content.bind fun content => tellingFormat content.numberFormat
    address := address }

def readCell (address : String) : Reading OpenWorkbook Snapshot := do
  match (separate address).1 with
  | none =>
    throw (.source ("Address is not sheet-qualified: " ++ quotation address) (some address) none)
  | some name =>
    let title ← resolveSheet (some name)
    let cell ← Reading.ofExcept (locate address title)
    let place : Position := ⟨cell.col, cell.row⟩
    let content ← visitSheet title fun sheet => sheet.peek place
    let value ← visitValues title fun sheet => sheet.peek place
    return snapshot (qualify title (addressText cell.col cell.row)) content value

def usedRange (name : String) : Reading OpenWorkbook (Option String) := do
  let title ← resolveSheet (some name)
  visitSheet title Sheet.usedRange

def formulaGrid (name : String) : Reading OpenWorkbook (Option FormulaGrid) := do
  let title ← resolveSheet (some name)
  visitSheet title fun sheet =>
    match sheet.usedRange with
    | (some address, sheet) =>
      (sheet.extent.map fun extent => ⟨address, sheet.formulas extent⟩, sheet)
    | (none, sheet) => (none, sheet)

/-- The address by which the workbook knows a cell. -/
def settle (address : String) : Reading OpenWorkbook String := do
  let title ← resolveSheet (separate address).1
  let cell ← Reading.ofExcept (locate address title)
  return qualify title (addressText cell.col cell.row)

def precedents (address : String) : Reading OpenWorkbook (Option (List (List String))) := do
  match (← get).index with
  | none => return none
  | some index => return some (index.precedents (← settle address))

def dependents (address : String) : Reading OpenWorkbook (Option (List (List String))) := do
  match (← get).index with
  | none => return none
  | some index =>
    let known ← settle address
    return some (index.dependents known (Cell.read? known ""))

/-- Open workbooks as a source that is never cancelled. -/
def source : Source OpenWorkbook where
  readCell := readCell
  sheetNames := return (← get).titles
  usedRange := usedRange
  formulaGrid := formulaGrid
  precedents := precedents
  dependents := dependents
  cancelled _ := false

end OpenWorkbook

end FormulaTrace
