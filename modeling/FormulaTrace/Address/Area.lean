import FormulaTrace.Address.SheetName

/-!
Single cells and rectangular areas on named sheets.
-/
namespace FormulaTrace

open Text

/-- A cell on a sheet, by column and row, both counted from zero. -/
structure Cell where
  sheet : String
  col : Nat
  row : Nat
deriving DecidableEq

/-- The cell with given coordinates, which must not be negative. -/
def Cell.ofCoordinates (sheet : String) (col row : Int) : Except AddressError Cell :=
  if 0 ≤ col ∧ 0 ≤ row then .ok ⟨sheet, col.toNat, row.toNat⟩ else .error (.negativeCell col row)

def Cell.address (cell : Cell) : String := qualify cell.sheet (addressText cell.col cell.row)

/-- A rectangle of cells on a sheet; the corners belong to it. -/
structure Area where
  sheet : String
  left : Int
  top : Int
  right : Int
  bottom : Int
  left_le_right : left ≤ right
  top_le_bottom : top ≤ bottom
deriving DecidableEq

def intRange (first last : Int) : List Int :=
  (List.range (last - first + 1).toNat).map fun offset : Nat => first + (offset : Int)

theorem mem_intRange {first last value : Int} :
    value ∈ intRange first last ↔ first ≤ value ∧ value ≤ last := by
  simp only [intRange, List.mem_map, List.mem_range]
  constructor
  · rintro ⟨offset, inside, rfl⟩
    omega
  · rintro ⟨lower, upper⟩
    exact ⟨(value - first).toNat, by omega, by omega⟩

namespace Area

/-- The area spanned by two cells, in whatever order they come. -/
def ofCorners (sheet : String) (colA rowA colB rowB : Int) : Area where
  sheet := sheet
  left := min colA colB
  top := min rowA rowB
  right := max colA colB
  bottom := max rowA rowB
  left_le_right := by omega
  top_le_bottom := by omega

/-- The area with given corners, the first of which must not lie behind the second. -/
def ofOrderedCorners (sheet : String) (left top right bottom : Int) : Except AddressError Area :=
  if h : left ≤ right ∧ top ≤ bottom then .ok ⟨sheet, left, top, right, bottom, h.1, h.2⟩
  else .error .unorderedCorners

def onSheet (area : Area) (sheet : String) : Area := { area with sheet := sheet }

def isSingle (area : Area) : Bool := area.left = area.right && area.top = area.bottom

def cellCount (area : Area) : Int := (area.right - area.left + 1) * (area.bottom - area.top + 1)

def contains (area : Area) (cell : Cell) : Bool :=
  sheetKey area.sheet = sheetKey cell.sheet &&
    decide (area.left ≤ cell.col ∧ cell.col ≤ area.right ∧ area.top ≤ cell.row ∧
      cell.row ≤ area.bottom)

/-- The coordinates of the cells of an area, row by row. -/
def coordinates (area : Area) : List (Int × Int) :=
  (intRange area.top area.bottom).flatMap fun row =>
    (intRange area.left area.right).map fun col => (col, row)

def addresses (area : Area) : List String :=
  area.coordinates.map fun (col, row) => qualify area.sheet (addressText col row)

/-- The addresses of the cells of an area all columns of which have names. -/
def namedAddresses (area : Area) : Except AddressError (List String) :=
  area.coordinates.mapM fun (col, row) => (namedAddress col row).map (qualify area.sheet)

/-- The text of an area: one cell, or its two corners. -/
def text (area : Area) : String :=
  let start := addressText area.left area.top
  if area.isSingle then qualify area.sheet start
  else qualify area.sheet (start ++ ":" ++ addressText area.right area.bottom)

theorem mem_coordinates {area : Area} {col row : Int} :
    (col, row) ∈ area.coordinates ↔
      area.left ≤ col ∧ col ≤ area.right ∧ area.top ≤ row ∧ row ≤ area.bottom := by
  simp only [coordinates, List.mem_flatMap, List.mem_map, mem_intRange, Prod.mk.injEq]
  constructor
  · rintro ⟨row', rows, col', cols, rfl, rfl⟩
    exact ⟨cols.1, cols.2, rows.1, rows.2⟩
  · rintro ⟨left, right, top, bottom⟩
    exact ⟨row, ⟨top, bottom⟩, col, ⟨left, right⟩, rfl, rfl⟩

end Area

end FormulaTrace
