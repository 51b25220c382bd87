import FormulaTrace.Workbook.Sheet

/-! What looking at the cells of a sheet leaves as it is.
Cells that are looked at may widen the rectangle of the cells of a sheet, but neither its last
column and row nor anything that was written change. -/
namespace FormulaTrace

def Extent.Holds (extent : Extent) (place : Position) : Prop :=
  extent.left ≤ place.col ∧ place.col ≤ extent.right ∧ extent.top ≤ place.row ∧
    place.row ≤ extent.bottom

theorem Extent.holds_ofPosition (place : Position) : (Extent.ofPosition place).Holds place :=
  ⟨Nat.le_refl _, Nat.le_refl _, Nat.le_refl _, Nat.le_refl _⟩

theorem Extent.holds_add_self (extent : Extent) (place : Position) :
    (extent.add place).Holds place :=
  ⟨Nat.min_le_right _ _, Nat.le_max_right _ _, Nat.min_le_right _ _, Nat.le_max_right _ _⟩

theorem Extent.Holds.add {extent : Extent} {place : Position} (h : extent.Holds place)
    (other : Position) :
    (extent.add other).Holds place :=
  ⟨Nat.le_trans (Nat.min_le_left _ _) h.1, Nat.le_trans h.2.1 (Nat.le_max_left _ _),
    Nat.le_trans (Nat.min_le_left _ _) h.2.2.1, Nat.le_trans h.2.2.2 (Nat.le_max_left _ _)⟩

namespace Sheet

/-- What is known of a sheet apart from the cells that were merely looked at. -/
structure Face where
  title : String
  contents : List (Position × Content)
  last : Position
  chart : Bool

def face (sheet : Sheet) : Face := ⟨sheet.title, sheet.contents, sheet.last, sheet.chart⟩

/-- Every cell that was written to lies in the rectangle of the cells. -/
structure Spanned (sheet : Sheet) : Prop where
  holds : ∀ entry ∈ sheet.contents, ∃ extent, sheet.extent = some extent ∧ extent.Holds entry.1
  ordered : ∀ extent, sheet.extent = some extent → extent.left ≤ extent.right ∧
    extent.top ≤ extent.bottom

theorem touch_face {sheet : Sheet} {place : Position} (row : place.row ≤ sheet.last.row)
    (col : place.col ≤ sheet.last.col) : (sheet.touch place).face = sheet.face := by
  obtain ⟨title, contents, extent, chart⟩ := sheet
  cases extent with
  | none =>
    obtain ⟨placeCol, placeRow⟩ := place
    obtain rfl : placeRow = 0 := Nat.le_zero.1 row
    obtain rfl : placeCol = 0 := Nat.le_zero.1 col
    rfl
  | some extent =>
    have right : max extent.right place.col = extent.right := Nat.max_eq_left col
    have bottom : max extent.bottom place.row = extent.bottom := Nat.max_eq_left row
    simp only [face, touch, last, Extent.add, right, bottom]

theorem touch_ordered {sheet : Sheet} (spanned : sheet.Spanned) (place : Position) (extent : Extent)
    (same : (sheet.touch place).extent = some extent) :
    extent.left ≤ extent.right ∧ extent.top ≤ extent.bottom := by
  unfold touch at same
  cases old : sheet.extent with
  | none =>
    rw [old] at same
    cases same
    exact ⟨Nat.le_refl _, Nat.le_refl _⟩
  | some before =>
    rw [old] at same
    cases same
    obtain ⟨across, down⟩ := spanned.ordered before old
    simp only [Extent.add]
    omega

theorem touch_spanned {sheet : Sheet} (spanned : sheet.Spanned) (place : Position) :
    (sheet.touch place).Spanned where
  holds := by
    intro entry member
    obtain ⟨extent, same, holds⟩ := spanned.holds entry member
    refine ⟨extent.add place, ?_, holds.add place⟩
    simp only [touch, same]
  ordered := touch_ordered spanned place

theorem exists_extent_touch (sheet : Sheet) (place : Position) :
    ∃ extent, (sheet.touch place).extent = some extent ∧ extent.Holds place := by
  cases same : sheet.extent with
  | none => exact ⟨_, by simp only [touch, same], Extent.holds_ofPosition place⟩
  | some extent => exact ⟨_, by simp only [touch, same], extent.holds_add_self place⟩

theorem write_spanned {sheet : Sheet} (spanned : sheet.Spanned) (entry : Entry) :
    (sheet.write entry).Spanned where
  holds := by
    intro written member
    rcases List.mem_cons.1 member with rfl | old
    · exact exists_extent_touch sheet entry.place
    · exact (touch_spanned spanned entry.place).holds written old
  ordered := touch_ordered spanned entry.place

theorem ofEntries_spanned (title : String) (entries : List Entry) :
    (ofEntries title entries).Spanned := by
  have written (sheet : Sheet) (spanned : sheet.Spanned) : (entries.foldl write sheet).Spanned := by
    induction entries generalizing sheet with
    | nil => exact spanned
    | cons entry rest ih => exact ih (sheet.write entry) (write_spanned spanned entry)
  refine written (Sheet.empty title)
    ⟨fun entry member => absurd member List.not_mem_nil, fun extent same => ?_⟩
  cases same

theorem ofEntries_title (title : String) (entries : List Entry) :
    (ofEntries title entries).title = title := by
  have written (sheet : Sheet) : (entries.foldl write sheet).title = sheet.title := by
    induction entries generalizing sheet with
    | nil => rfl
    | cons entry rest ih => exact ih (sheet.write entry)
  exact written (Sheet.empty title)

def Face.peek (face : Face) (place : Position) : Option Content :=
  if face.last.row < place.row ∨ face.last.col < place.col then none
  else some ((face.contents.lookup place).getD .blank)

theorem peek_result (sheet : Sheet) (place : Position) :
    (sheet.peek place).1 = sheet.face.peek place := by
  unfold peek
  split
  next behind => exact (if_pos behind).symm
  next inside => exact (if_neg inside).symm

theorem peek_face (sheet : Sheet) (place : Position) : (sheet.peek place).2.face = sheet.face := by
  unfold peek
  split
  · rfl
  next inside =>
    obtain ⟨row, col⟩ := not_or.1 inside
    exact touch_face (Nat.le_of_not_lt row) (Nat.le_of_not_lt col)

theorem peek_spanned {sheet : Sheet} (spanned : sheet.Spanned) (place : Position) :
    (sheet.peek place).2.Spanned := by
  unfold peek
  split
  · exact spanned
  · exact touch_spanned spanned place

theorem usedRange_face (sheet : Sheet) : sheet.usedRange.2.face = sheet.face := by
  have touched : (sheet.touch ⟨0, 0⟩).face = sheet.face := touch_face (Nat.zero_le _)
    (Nat.zero_le _)
  unfold usedRange
  split
  · dsimp only
    split <;> exact touched
  · split <;> rfl

theorem usedRange_spanned {sheet : Sheet} (spanned : sheet.Spanned) :
    sheet.usedRange.2.Spanned := by
  unfold usedRange
  split
  · dsimp only
    split <;> exact touch_spanned spanned _
  · split <;> exact spanned

theorem fill_face (sheet : Sheet) : sheet.fill.face = sheet.face := by
  unfold fill
  split
  · rfl
  · exact touch_face (Nat.zero_le _) (Nat.zero_le _)

theorem fill_spanned {sheet : Sheet} (spanned : sheet.Spanned) : sheet.fill.Spanned := by
  unfold fill
  split
  · exact spanned
  · exact touch_spanned spanned _

/-! ### Charts -/

def Face.answer {α : Type} (face : Face) (value : α) : Except Failure α :=
  if face.chart then .error noCells else .ok value

section Cells

variable {α : Type} {step : Sheet → α × Sheet}

theorem answer_face (sheet : Sheet) (value : α) : sheet.answer value = sheet.face.answer value :=
  rfl

theorem answer_congr {first second : Sheet} (same : first.face = second.face) (value : α) :
    first.answer value = second.answer value := by
  rw [answer_face, answer_face, same]

theorem answer_eq_ok {sheet : Sheet} {value result : α} :
    sheet.answer value = .ok result ↔ sheet.chart = false ∧ value = result := by
  unfold answer
  cases sheet.chart <;> simp

theorem answer_map {β : Type} (change : α → β) (sheet : Sheet) (value : α) :
    (sheet.answer value).map change = sheet.answer (change value) := by
  unfold answer
  cases sheet.chart <;> rfl

theorem inCells_view {β : Type} {view : Sheet → β}
    (kept : ∀ sheet, view (step sheet).2 = view sheet) (sheet : Sheet) :
    view (inCells step sheet).2 = view sheet := by
  unfold inCells
  dsimp only
  split
  · rfl
  · exact kept sheet

theorem inCells_spanned (spans : ∀ sheet, sheet.Spanned → (step sheet).2.Spanned) (sheet : Sheet)
    (spanned : sheet.Spanned) : (inCells step sheet).2.Spanned := by
  unfold inCells
  dsimp only
  split
  · exact spanned
  · exact spans sheet spanned

theorem charted_spanned (title : String) : (charted title).Spanned where
  holds := List.forall_mem_nil _
  ordered := nofun

end Cells

end Sheet

/-- What holds of the sheets of every workbook: they have titles, no two the same, and their cells
span what was written. -/
structure WellFormedSheets (sheets : List Sheet) : Prop where
  named : ∀ sheet ∈ sheets, sheet.title ≠ ""
  differ : (sheets.map Sheet.title).Nodup
  spanned : ∀ sheet ∈ sheets, sheet.Spanned

theorem wellFormedSheets_ofEntries {written : List (String × List Entry)}
    (named : ∀ entry ∈ written, entry.1 ≠ "") (differ : (written.map Prod.fst).Nodup) :
    WellFormedSheets (written.map fun entry => Sheet.ofEntries entry.1 entry.2) where
  named := by
    intro sheet member
    obtain ⟨entry, listed, rfl⟩ := List.mem_map.1 member
    rw [Sheet.ofEntries_title]
    exact named entry listed
  differ := by
    rw [List.map_map]
    have same : (Sheet.title ∘ fun entry : String × List Entry => Sheet.ofEntries entry.1 entry.2) =
        Prod.fst := by
      funext entry
      exact Sheet.ofEntries_title entry.1 entry.2
    rwa [same]
  spanned := by
    intro sheet member
    obtain ⟨entry, _, rfl⟩ := List.mem_map.1 member
    exact Sheet.ofEntries_spanned entry.1 entry.2

end FormulaTrace
