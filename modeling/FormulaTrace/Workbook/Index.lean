import FormulaTrace.Formula.Reference
import FormulaTrace.Graph.Digraph
import FormulaTrace.Workbook.Sheet

/-!
The index of a workbook: a directed graph that leads from every cell to the formulas that read it.

A reference is expanded into one edge a cell, unless its area has too many cells; such wide
references are kept as areas.
-/
namespace FormulaTrace

open Text

/-- What the index keeps of a formula. -/
structure FormulaEntry where
  formula : String
  /-- The areas that the formula refers to, in its order. -/
  references : List String

structure Index where
  /-- Cells without an entry were met only as cells that formulas read. -/
  graph : Digraph (Option FormulaEntry)
  /-- The areas that were not expanded, each with the formula cell that refers to it. -/
  wide : List (Area × String)

/-- The area with the most cells that is expanded, unless another limit is set. -/
def defaultExpansion : Int := 10000

/-- The title that a name means, without regard to case; of equal titles the last. -/
def titleFor? (titles : List String) (name : String) : Option String :=
  titles.reverse.find? fun title => lower title.toList = lower name.toList

namespace Index

def empty : Index := ⟨.empty, []⟩

/-- The area with the title of the sheet that its name means. -/
def settle (titles : List String) (area : Area) : Area :=
  area.onSheet ((titleFor? titles area.sheet).getD area.sheet)

def addReference (titles : List String) (limit : Int) (cell : String) (index : Index)
    (reference : Area) :
    Index :=
  let area := settle titles reference
  if limit < area.cellCount then { index with wide := index.wide ++ [(area, cell)] }
  else
    { index with
      graph := area.addresses.foldl (fun graph read => graph.addEdge none read cell) index.graph }

def addFormula (titles : List String) (limit : Int) (sheet : String) (index : Index)
    (cell : Position × String) : Index :=
  let address := qualify sheet (addressText cell.1.col cell.1.row)
  let areas := Formula.references cell.2 sheet
  let entry : FormulaEntry := ⟨cell.2, areas.map Area.text⟩
  areas.foldl (addReference titles limit address)
    { index with graph := index.graph.setNode address (some entry) }

def addSheet (titles : List String) (limit : Int) (index : Index) (sheet : Sheet) : Index :=
  sheet.formulaCells.foldl (addFormula titles limit sheet.title) index

/-- The index of some sheets, in which areas of up to a limit of cells are expanded. -/
def ofSheets (limit : Int) (sheets : List Sheet) : Index :=
  sheets.foldl (addSheet (sheets.map Sheet.title) limit) empty

/-- The areas that the formula of a cell refers to, each as a group. -/
def precedents (index : Index) (address : String) : List (List String) :=
  match index.graph.label? address with
  | some (some entry) => entry.references.map fun area => [area]
  | _ => []

/-- Adds the formula cells with wide references that hold a cell. -/
def addWide (cell : Option Cell) (found : List String) : List (Area × String) → List String
  | [] => found
  | (area, reader) :: rest =>
    if cell.any area.contains && !found.contains reader then addWide cell (found ++ [reader]) rest
    else addWide cell found rest

/-- The formula cells that read a cell, as one group. -/
def dependents (index : Index) (address : String) (cell : Option Cell) : List (List String) :=
  match addWide cell (index.graph.successors address) index.wide with
  | [] => []
  | found => [found]

end Index

end FormulaTrace
