import FormulaTrace.Address.Reading
import FormulaTrace.Failure
import FormulaTrace.Value.Basic

/-!
Sheets: what was written to their cells, and the extent of the cells they have.

A sheet has cells that were written and cells that were merely looked at; the latter are blank.  All
that is known of a sheet is therefore its contents and the rectangle that its cells span, which
grows when a cell outside of it is looked at.
-/
namespace FormulaTrace

/-- What a cell holds. -/
structure Content where
  value : Value
  numberFormat : String

def Content.blank : Content := ⟨.blank, "General"⟩

/-- The rectangle that the cells of a sheet span, its corners included. -/
structure Extent where
  left : Nat
  top : Nat
  right : Nat
  bottom : Nat
deriving DecidableEq

namespace Extent

def ofPosition (place : Position) : Extent := ⟨place.col, place.row, place.col, place.row⟩

def add (extent : Extent) (place : Position) : Extent where
  left := min extent.left place.col
  top := min extent.top place.row
  right := max extent.right place.col
  bottom := max extent.bottom place.row

end Extent

structure Sheet where
  title : String
  /-- What was written, the latest first; the first entry of a position counts. -/
  contents : List (Position × Content)
  /-- Nothing, as long as the sheet has no cells. -/
  extent : Option Extent
  /-- Whether the sheet holds a chart instead of cells. -/
  chart : Bool

/-- One entry of a sheet as it is written down: a value, and perhaps a number format. -/
structure Entry where
  place : Position
  value : Value
  numberFormat : Option String

namespace Sheet

def empty (title : String) : Sheet := ⟨title, [], none, false⟩

def charted (title : String) : Sheet := ⟨title, [], none, true⟩

/-- What is wrong with asking a chart for its cells. -/
def noCells : Failure := .noSuchAttribute "Chartsheet" "max_row"

def answer {α : Type} (sheet : Sheet) (value : α) : Except Failure α :=
  if sheet.chart then .error noCells else .ok value

/-- Does something to the cells of a sheet, if it has cells. -/
def inCells {α : Type} (step : Sheet → α × Sheet) (sheet : Sheet) : Except Failure α × Sheet :=
  (sheet.answer (step sheet).1, if sheet.chart then sheet else (step sheet).2)

def content (sheet : Sheet) (place : Position) : Content :=
  (sheet.contents.lookup place).getD .blank

/-- The last column and row that have a cell; the first ones if there is no cell. -/
def last (sheet : Sheet) : Position :=
  match sheet.extent with
  | none => ⟨0, 0⟩
  | some extent => ⟨extent.right, extent.bottom⟩

def touch (sheet : Sheet) (place : Position) : Sheet :=
  { sheet with
    extent := some (match sheet.extent with
      | none => Extent.ofPosition place
      | some extent => extent.add place) }

/-- The number format of a cell after a value was written to it. -/
def formatAfter (old : String) : Value → String
  | .moment moment => moment.numberFormat
  | _ => old

def write (sheet : Sheet) (entry : Entry) : Sheet :=
  let old := (sheet.content entry.place).numberFormat
  let format := entry.numberFormat.getD (formatAfter old entry.value)
  let sheet := sheet.touch entry.place
  { sheet with contents := (entry.place, ⟨entry.value, format⟩) :: sheet.contents }

def ofEntries (title : String) (entries : List Entry) : Sheet := entries.foldl write (empty title)

/-- Looks at a cell, unless it lies behind the last column or row. -/
def peek (sheet : Sheet) (place : Position) : Option Content × Sheet :=
  if sheet.last.row < place.row ∨ sheet.last.col < place.col then (none, sheet)
  else (some (sheet.content place), sheet.touch place)

/-- The address of the used range; a sheet whose only cell may be the first has none while that cell
is blank, and is looked at to find out. -/
def usedRange (sheet : Sheet) : Option String × Sheet :=
  if sheet.last = ⟨0, 0⟩ then
    let sheet := sheet.touch ⟨0, 0⟩
    match (sheet.content ⟨0, 0⟩).value with
    | .blank => (none, sheet)
    | _ => (some (qualify sheet.title (addressText 0 0 ++ ":" ++ addressText 0 0)), sheet)
  else
    match sheet.extent with
    | none => (none, sheet)
    | some extent =>
      (some (qualify sheet.title
        (addressText extent.left extent.top ++ ":" ++ addressText extent.right extent.bottom)),
          sheet)

def span (first last : Nat) : List Nat := (List.range (last + 1 - first)).map (first + ·)

def formulas (sheet : Sheet) (extent : Extent) : List (List (Option String)) :=
  (span extent.top extent.bottom).map fun row =>
    (span extent.left extent.right).map fun col => (sheet.content ⟨col, row⟩).value.formula?

/-- A sheet as it is after all its cells from the first on were looked at. -/
def fill (sheet : Sheet) : Sheet :=
  match sheet.extent with
  | none => sheet
  | some _ => sheet.touch ⟨0, 0⟩

/-- The positions from the first cell to the last, row by row; none if the sheet has no cells. -/
def positions (sheet : Sheet) : List Position :=
  match sheet.extent with
  | none => []
  | some extent =>
    (List.range (extent.bottom + 1)).flatMap fun row =>
      (List.range (extent.right + 1)).map fun col => ⟨col, row⟩

def formulaCells (sheet : Sheet) : List (Position × String) :=
  if sheet.chart then []
  else
    sheet.positions.filterMap fun place =>
      ((sheet.content place).value.formula?).map fun formula => (place, formula)

end Sheet

end FormulaTrace
