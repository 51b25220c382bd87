import FormulaTrace.Formula.Reference
import FormulaTrace.Trace.Source

/-!
Inventories of the formulas of a workbook.

The sheets are asked for their used ranges first.  Sheets that do not fit into what is left of the
budget are skipped whole; the formula grids of the others are read and every formula is parsed once.
-/
namespace FormulaTrace

/-- A formula cell and the areas it refers to. -/
structure Candidate where
  address : String
  references : List Area

structure Inventory where
  candidates : List Candidate
  /-- Whether sheets were left out. -/
  truncated : Bool
  /-- The sheets that did not fit into the budget. -/
  skipped : List String

namespace Inventory

/-- What becomes of sheets within a budget: which are read, whether some are left out, and which. -/
structure Selection where
  chosen : List String
  truncated : Bool
  skipped : List String

/-- Selects among sheets with a used range. -/
def select (budget : Int) : List (String × Option String) → Selection
  | [] => ⟨[], false, []⟩
  | (_, none) :: rest => select budget rest
  | (sheet, some address) :: rest =>
    let cells := cellTotal address sheet
    if budget < cells then
      let others := select budget rest
      { others with truncated := true, skipped := sheet :: others.skipped }
    else
      let others := select (budget - cells) rest
      { others with chosen := sheet :: others.chosen }

/-- The candidate at a position, if the text there is a formula with references. -/
def candidate? (sheet : String) (col row : Int) (text : Option String) :
    Except AddressError (Option Candidate) :=
  match text with
  | none => .ok none
  | some formula =>
    if isFormula formula then
      match Formula.references formula sheet with
      | [] => .ok none
      | area :: areas =>
        (namedAddress col row).map fun address => some ⟨qualify sheet address, area :: areas⟩
    else .ok none

def rowCandidates (sheet : String) (row col : Int) :
    List (Option String) → Except AddressError (List Candidate)
  | [] => .ok []
  | text :: rest => do
    let first ← candidate? sheet col row text
    let others ← rowCandidates sheet row (col + 1) rest
    return first.toList ++ others

def gridCandidates (sheet : String) (col row : Int) :
    List (List (Option String)) → Except AddressError (List Candidate)
  | [] => .ok []
  | texts :: rest => do
    let first ← rowCandidates sheet row col texts
    let others ← gridCandidates sheet col (row + 1) rest
    return first ++ others

/-- The candidates of a sheet; a grid whose address cannot be read has none. -/
def sheetCandidates (sheet : String) : Option FormulaGrid → Except AddressError (List Candidate)
  | none => .ok []
  | some grid =>
    match Cell.read? grid.address sheet with
    | none => .ok []
    | some origin => gridCandidates sheet origin.col origin.row grid.rows

def allCandidates : List (String × Option FormulaGrid) → Except AddressError (List Candidate)
  | [] => .ok []
  | (sheet, grid) :: rest => do
    let first ← sheetCandidates sheet grid
    let others ← allCandidates rest
    return first ++ others

variable {σ : Type}

def take (source : Source σ) (budget : Int) : Reading σ Inventory := do
  let check := source.checkCancelled "Dependents scan cancelled"
  check
  let sheets ← source.sheetNames
  let ranges ← sheets.mapM fun sheet => do
    check
    source.usedRange sheet
  let selection := select budget (sheets.zip ranges)
  check
  let grids ← Reading.batch source.delay source.formulaGrid selection.chosen
  let candidates ← Reading.ofExcept
    ((allCandidates (selection.chosen.zip grids)).mapError AddressError.failure)
  return ⟨candidates, selection.truncated, selection.skipped⟩

end Inventory

end FormulaTrace
