import FormulaTrace.Address.Area
import FormulaTrace.Text.Occurrence

/-!
Reading addresses: lists of areas, single areas, and single cells.

An address may name a sheet; where it names none it belongs to a home sheet.
-/
namespace FormulaTrace

open Text

def quotedName : Rule (List Char) := fun _ text =>
  match text with
  | '\'' :: rest => (readEnclosed '\'' rest).map fun (_, after) =>
      (text.take (text.length - after.length), after)
  | _ => none

/-- Parts a scanned text at commas that stand outside of quoted names. -/
def partAtCommas : List (Piece (List Char)) → List (List Char)
  | [] => [[]]
  | .plain c :: rest =>
    if c = ',' then [] :: partAtCommas rest
    else
      match partAtCommas rest with
      | [] => [[c]]
      | part :: parts => (c :: part) :: parts
  | .found name :: rest =>
    match partAtCommas rest with
    | [] => [name]
    | part :: parts => (name ++ part) :: parts

/-- The areas of an address, as texts; blank ones are left out. -/
def areaTexts (address : String) : List String :=
  (((partAtCommas (pieces quotedName address.toList)).map trim).filter (· ≠ [])).map String.ofList

/-- Whether an address stands for more than one cell: several areas, or a range. -/
def coversSeveral (address : String) : Bool :=
  decide (1 < (areaTexts address).length) || (separate address).2.toList.contains ':'

def position? (token : List Char) : Option Position :=
  (Position.read (String.ofList token)).toOption

def Area.read? (address home : String) : Option Area := do
  let (sheet, place) := separate address
  let (start, stop) := breakFirst ':' place.toList
  let stop := stop.getD []
  let first ← position? start
  let second ← position? (if stop = [] then start else stop)
  return .ofCorners (sheet.getD home) first.col first.row second.col second.row

/-- Reads the first cell of the first area of an address. -/
def Cell.read? (address home : String) : Option Cell := do
  let (named, place) := separate address
  let sheet := named.getD home
  if sheet = "" then none
  let first ← (areaTexts place).head?
  let position ← position? (breakFirst ':' first.toList).1
  return ⟨sheet, position.col, position.row⟩

/-- The address by which a cell is known: that of the first cell of the text. -/
def canonical? (address home : String) : Option String := (Cell.read? address home).map Cell.address

/-- How many cells the areas of an address have together; texts that are no areas count for
nothing. -/
def cellTotal (address home : String) : Int :=
  (areaTexts address).foldl
    (fun total area => total + ((Area.read? area home).map Area.cellCount).getD 0) 0

end FormulaTrace
