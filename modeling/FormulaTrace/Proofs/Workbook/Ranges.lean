import FormulaTrace.Proofs.Workbook.Grids
import Mathlib.Algebra.Ring.Nat
import Mathlib.Data.Set.Basic

/-! The used ranges of sheets and the grids that show them.
Looking at a cell widens a used range just so far that it holds the cell, unless the cell lies
behind the last column or row.  The formulas that a grid shows are those of the sheet, however far
its range was widened. -/
namespace FormulaTrace

namespace Extent

def text (extent : Extent) : String :=
  addressText extent.left extent.top ++ ":" ++ addressText extent.right extent.bottom

def size (extent : Extent) : Nat :=
  (extent.right + 1 - extent.left) * (extent.bottom + 1 - extent.top)

theorem isPlace_text (extent : Extent) : IsPlace extent.text := isPlace_corners _ _ _ _

theorem text_injective {first second : Extent} (same : first.text = second.text) :
    first = second := by
  have parts (extent : Extent) : Text.breakFirst ':' extent.text.toList =
      ((addressText extent.left extent.top).toList,
        some (addressText extent.right extent.bottom).toList) := by
    unfold text
    rw [String.toList_append, String.toList_append, List.append_assoc]
    exact Text.breakFirst_append _ (colon_notMem_addressText _ _)
  have both := parts first
  rw [same, parts second, Prod.mk.injEq, Option.some.injEq] at both
  have starts : Position.mk second.left second.top = ⟨first.left, first.top⟩ :=
    addressText_injective (String.toList_inj.1 both.1)
  have ends : Position.mk second.right second.bottom = ⟨first.right, first.bottom⟩ :=
    addressText_injective (String.toList_inj.1 both.2)
  obtain ⟨left, top⟩ := Position.mk.inj starts
  obtain ⟨right, bottom⟩ := Position.mk.inj ends
  obtain ⟨_, _, _, _⟩ := first
  simp only at left top right bottom
  rw [← left, ← top, ← right, ← bottom]

def WidenedBy (extent : Extent) (place : Position) : Prop :=
  place.col ≤ extent.right ∧ place.row ≤ extent.bottom ∧
    (place.col < extent.left ∨ place.row < extent.top)

def look (extent : Extent) (place : Position) : Extent :=
  if place.col ≤ extent.right ∧ place.row ≤ extent.bottom then extent.add place else extent

theorem look_right (extent : Extent) (place : Position) :
    (extent.look place).right = extent.right := by
  unfold look
  split
  next inside => exact Nat.max_eq_left inside.1
  next => rfl

theorem look_bottom (extent : Extent) (place : Position) :
    (extent.look place).bottom = extent.bottom := by
  unfold look
  split
  next inside => exact Nat.max_eq_left inside.2
  next => rfl

theorem look_left_le (extent : Extent) (place : Position) :
    (extent.look place).left ≤ extent.left := by
  unfold look
  split
  · exact Nat.min_le_left _ _
  · exact Nat.le_refl _

theorem look_top_le (extent : Extent) (place : Position) :
    (extent.look place).top ≤ extent.top := by
  unfold look
  split
  · exact Nat.min_le_left _ _
  · exact Nat.le_refl _

theorem look_of_not_widened {extent : Extent} {place : Position} (kept : ¬ extent.WidenedBy place) :
    extent.look place = extent := by
  unfold look
  split
  next inside =>
    obtain ⟨across, down⟩ := inside
    have ahead : extent.left ≤ place.col ∧ extent.top ≤ place.row := by
      unfold WidenedBy at kept
      omega
    obtain ⟨left, top, right, bottom⟩ := extent
    simp only [add, Extent.mk.injEq]
    exact ⟨Nat.min_eq_left ahead.1, Nat.min_eq_left ahead.2, Nat.max_eq_left across,
      Nat.max_eq_left down⟩
  next => rfl

theorem look_lt_of_widened {extent : Extent} {place : Position} (widened : extent.WidenedBy place) :
    (extent.look place).left < extent.left ∨ (extent.look place).top < extent.top := by
  obtain ⟨across, down, front⟩ := widened
  unfold look
  rw [if_pos ⟨across, down⟩]
  simp only [add]
  omega

end Extent

namespace Sheet

/-- The used range of a sheet: nothing if only the first cell may be there and is blank. -/
def used (sheet : Sheet) : Option Extent :=
  if sheet.last = ⟨0, 0⟩ then
    match (sheet.content ⟨0, 0⟩).value with
    | .blank => none
    | _ => some ⟨0, 0, 0, 0⟩
  else sheet.extent

def Face.unused (face : Face) : Bool :=
  decide (face.last = ⟨0, 0⟩) && match ((face.contents.lookup ⟨0, 0⟩).getD .blank).value with
    | .blank => true
    | _ => false

theorem used_eq_none_iff {sheet : Sheet} : sheet.used = none ↔ sheet.face.unused = true := by
  unfold used Face.unused
  by_cases first : sheet.last = ⟨0, 0⟩
  · have shown : sheet.face.last = ⟨0, 0⟩ := first
    have content : ((sheet.face.contents.lookup ⟨0, 0⟩).getD .blank) = sheet.content ⟨0, 0⟩ := rfl
    rw [if_pos first, decide_eq_true shown, Bool.true_and, content]
    split <;> simp
  · have shown : ¬ sheet.face.last = ⟨0, 0⟩ := first
    rw [if_neg first, decide_eq_false shown]
    cases same : sheet.extent with
    | none =>
      unfold last at first
      rw [same] at first
      exact absurd rfl first
    | some extent => simp

theorem used_last {sheet : Sheet} {extent : Extent} (used : sheet.used = some extent) :
    sheet.last = ⟨extent.right, extent.bottom⟩ := by
  unfold Sheet.used at used
  split at used
  next first =>
    split at used
    · cases used
    · cases used
      exact first
  next =>
    unfold last
    rw [used]

theorem used_extent {sheet : Sheet} (spanned : sheet.Spanned) {extent : Extent}
    (used : sheet.used = some extent) :
    sheet.extent = some extent := by
  by_cases first : sheet.last = ⟨0, 0⟩
  · cases same : sheet.extent with
    | none =>
      -- A sheet without cells holds nothing, so that its first cell is blank.
      have empty := contents_of_extent_none spanned same
      unfold Sheet.used content at used
      rw [if_pos first, empty] at used
      cases used
    | some other =>
      have ends := used_last used
      unfold last at ends
      rw [same] at ends
      obtain ⟨right, bottom⟩ := Position.mk.inj ends
      obtain ⟨across, down⟩ := spanned.ordered other same
      unfold Sheet.used at used
      rw [if_pos first] at used
      split at used
      · cases used
      · cases used
        obtain ⟨left, top, _, _⟩ := other
        simp only at right bottom across down
        subst right bottom
        rw [Nat.le_zero.1 across, Nat.le_zero.1 down]
  · unfold Sheet.used at used
    rwa [if_neg first] at used

theorem usedRange_result (sheet : Sheet) :
    sheet.usedRange.1 = sheet.used.map fun extent => qualify sheet.title extent.text := by
  unfold usedRange used
  by_cases first : sheet.last = ⟨0, 0⟩
  · have content : (sheet.touch ⟨0, 0⟩).content ⟨0, 0⟩ = sheet.content ⟨0, 0⟩ := rfl
    rw [if_pos first, if_pos first]
    dsimp only
    rw [content]
    cases (sheet.content ⟨0, 0⟩).value <;> rfl
  · rw [if_neg first, if_neg first]
    cases sheet.extent <;> rfl

theorem used_touch {sheet : Sheet} {place : Position} (row : place.row ≤ sheet.last.row)
    (col : place.col ≤ sheet.last.col) :
    (sheet.touch place).used = sheet.used.map (·.look place) := by
  have face := touch_face row col
  have last : (sheet.touch place).last = sheet.last := congrArg Face.last face
  have content : (sheet.touch place).content ⟨0, 0⟩ = sheet.content ⟨0, 0⟩ := content_congr face _
  unfold used
  rw [last, content]
  by_cases first : sheet.last = ⟨0, 0⟩
  · rw [if_pos first, if_pos first]
    rw [first] at row col
    obtain ⟨placeCol, placeRow⟩ := place
    obtain rfl : placeRow = 0 := Nat.le_zero.1 row
    obtain rfl : placeCol = 0 := Nat.le_zero.1 col
    split <;> rfl
  · rw [if_neg first, if_neg first]
    unfold Sheet.last at first row col
    unfold touch
    cases same : sheet.extent with
    | none =>
      rw [same] at first
      exact absurd rfl first
    | some extent =>
      rw [same] at row col
      simp only [Option.map_some, Extent.look]
      rw [if_pos ⟨col, row⟩]

theorem used_peek (sheet : Sheet) (place : Position) :
    (sheet.peek place).2.used = sheet.used.map (·.look place) := by
  unfold peek
  split
  next behind =>
    cases used : sheet.used with
    | none => rfl
    | some extent =>
      rw [used_last used] at behind
      have outside : ¬ (place.col ≤ extent.right ∧ place.row ≤ extent.bottom) := by
        simp only at behind
        omega
      rw [Option.map_some, Extent.look, if_neg outside]
  next inside =>
    obtain ⟨row, col⟩ := not_or.1 inside
    exact used_touch (Nat.le_of_not_lt row) (Nat.le_of_not_lt col)

theorem used_touch_first (sheet : Sheet) :
    sheet.last = ⟨0, 0⟩ → (sheet.touch ⟨0, 0⟩).used = sheet.used := by
  intro first
  rw [used_touch (Nat.zero_le _) (Nat.zero_le _)]
  cases used : sheet.used with
  | none => rfl
  | some extent =>
    have ends := used_last used
    rw [first] at ends
    obtain ⟨right, bottom⟩ := Position.mk.inj ends
    unfold Sheet.used at used
    rw [if_pos first] at used
    split at used
    · cases used
    · cases used
      rfl

theorem used_usedRange (sheet : Sheet) : sheet.usedRange.2.used = sheet.used := by
  unfold usedRange
  by_cases first : sheet.last = ⟨0, 0⟩
  · rw [if_pos first, ← sheet.used_touch_first first]
    dsimp only
    split <;> rfl
  · rw [if_neg first]
    split <;> rfl

/-! ### Grids -/

def gridAt (sheet : Sheet) (extent : Extent) : FormulaGrid :=
  ⟨qualify sheet.title extent.text, sheet.formulas extent⟩

def grid (sheet : Sheet) : Option FormulaGrid × Sheet :=
  match sheet.usedRange with
  | (some address, sheet) =>
    (sheet.extent.map fun extent => ⟨address, sheet.formulas extent⟩, sheet)
  | (none, sheet) => (none, sheet)

theorem grid_after (sheet : Sheet) : sheet.grid.2 = sheet.usedRange.2 := by
  unfold grid
  split <;> simp only [*]

theorem extent_usedRange {sheet : Sheet} {extent : Extent} (used : sheet.used = some extent) :
    sheet.usedRange.2.extent = some extent := by
  unfold usedRange
  by_cases first : sheet.last = ⟨0, 0⟩
  · have touched := extent_touch_first first
    unfold Sheet.used at used
    rw [if_pos first] at used ⊢
    split at used
    · cases used
    · cases used
      dsimp only
      split <;> exact touched
  · unfold Sheet.used at used
    rw [if_neg first] at used ⊢
    simp only [used]

theorem formulas_congr {first second : Sheet} (same : first.face = second.face) (extent : Extent) :
    first.formulas extent = second.formulas extent := by
  unfold formulas
  simp only [content_congr same]

theorem grid_result (sheet : Sheet) : sheet.grid.1 = sheet.used.map sheet.gridAt := by
  have shown := sheet.usedRange_result
  have face := sheet.usedRange_face
  unfold grid
  cases used : sheet.used with
  | none =>
    rw [used] at shown
    generalize sheet.usedRange = result at shown
    obtain ⟨range, after⟩ := result
    cases shown
    rfl
  | some extent =>
    have same := extent_usedRange used
    rw [used] at shown
    generalize sheet.usedRange = result at shown face same
    obtain ⟨range, after⟩ := result
    cases shown
    simp only at same face ⊢
    rw [same, Option.map_some, Option.map_some, formulas_congr face]
    rfl

theorem grid_face (sheet : Sheet) : sheet.grid.2.face = sheet.face := by
  rw [grid_after, usedRange_face]

theorem grid_spanned {sheet : Sheet} (spanned : sheet.Spanned) : sheet.grid.2.Spanned := by
  rw [grid_after]
  exact usedRange_spanned spanned

end Sheet

namespace FormulaGrid

def size (grid : FormulaGrid) : Nat := (grid.rows.map List.length).sum

/-- The formula cells that a grid shows, each as its address and its formula.  Where a formula
stands is told by the corners in the address of the grid. -/
def cells (grid : FormulaGrid) : Set (String × String) :=
  {cell | ∃ (title : String) (extent : Extent) (place : Position),
    grid.address = qualify title extent.text ∧ extent.Holds place ∧
    (grid.rows[place.row - extent.top]?).bind (·[place.col - extent.left]?) = some (some cell.2) ∧
    cell.1 = qualify title (addressText place.col place.row)}

end FormulaGrid

namespace Sheet

theorem size_gridAt (sheet : Sheet) (extent : Extent) :
    (sheet.gridAt extent).size = extent.size := by
  unfold FormulaGrid.size gridAt formulas Extent.size
  simp only [span_eq, List.map_map, Function.comp_def, List.length_map, List.length_range',
    List.map_const', List.sum_replicate_nat, Nat.mul_comm]

theorem getElem?_formulas (sheet : Sheet) {extent : Extent} {place : Position}
    (holds : extent.Holds place) :
    ((sheet.formulas extent)[place.row - extent.top]?).bind (·[place.col - extent.left]?) =
      some (sheet.content place).value.formula? := by
  obtain ⟨left, right, top, bottom⟩ := holds
  have row : place.row - extent.top < extent.bottom + 1 - extent.top := by omega
  have col : place.col - extent.left < extent.right + 1 - extent.left := by omega
  unfold formulas
  rw [span_eq, span_eq, List.getElem?_map, List.getElem?_range' row, Option.map_some,
    Option.bind_some, List.getElem?_map, List.getElem?_range' col, Option.map_some]
  rw [Nat.one_mul, Nat.one_mul, Nat.add_sub_cancel' top, Nat.add_sub_cancel' left]

def Face.formulas (face : Face) : Set (String × String) :=
  {cell | ∃ place : Position, ((face.contents.lookup place).getD .blank).value.formula? =
    some cell.2 ∧ cell.1 = qualify face.title (addressText place.col place.row)}

/-- However wide the used range is, its grid shows the formula cells of the sheet. -/
theorem cells_gridAt {sheet : Sheet} (spanned : sheet.Spanned) {extent : Extent}
    (used : sheet.used = some extent) :
    (sheet.gridAt extent).cells = sheet.face.formulas := by
  ext ⟨address, formula⟩
  constructor
  · rintro ⟨title, other, place, corners, holds, shown, rfl⟩
    obtain ⟨rfl, same⟩ := qualify_injective extent.isPlace_text other.isPlace_text corners
    obtain rfl := Extent.text_injective same
    have read := sheet.getElem?_formulas holds
    exact ⟨place, Option.some.inj (read.symm.trans shown), rfl⟩
  · rintro ⟨place, written, rfl⟩
    obtain ⟨other, found, holds⟩ := holds_of_formula spanned written
    rw [used_extent spanned used] at found
    cases found
    exact ⟨sheet.title, extent, place, rfl, holds, (sheet.getElem?_formulas holds).trans
      (congrArg some written), rfl⟩

end Sheet

end FormulaTrace
