import FormulaTrace.Proofs.Workbook.Readers
import FormulaTrace.Trace.Inventory

/-! The formula grids of sheets.
The grid of a sheet covers the rectangle of its cells and not what lies in front of it; yet its
candidates are those among all formula cells of the sheet, in the same order. -/
namespace FormulaTrace

/-- What an inventory keeps of a formula cell, if it refers to anything. -/
def Reader.candidate? (reader : Reader) : Option Candidate :=
  match reader.areas with
  | [] => none
  | area :: areas => some ⟨reader.address, area :: areas⟩

def Candidate.all (sheets : List Sheet) : List Candidate :=
  (Reader.all sheets).filterMap Reader.candidate?

theorem Reader.candidates_containing (readers : List Reader) (cell : Cell) :
    ((readers.filterMap candidate?).filter fun candidate =>
      Formula.anyContains candidate.references cell).map Candidate.address =
      (readers.filter fun reader => Formula.anyContains reader.areas cell).map address := by
  induction readers with
  | nil => rfl
  | cons reader rest ih =>
    rw [List.filterMap_cons, List.filter_cons]
    unfold candidate?
    cases reader.areas with
    | nil => exact ih
    | cons area areas =>
      dsimp only
      rw [List.filter_cons]
      dsimp only
      split
      · rw [List.map_cons, List.map_cons]
        exact congrArg (reader.address :: ·) ih
      · exact ih

namespace Sheet

def candidateAt (sheet : Sheet) (place : Position) : Option Candidate :=
  (sheet.content place).value.formula?.bind fun formula =>
    Reader.candidate? ⟨sheet.title, place, formula⟩

theorem formulaCells_eq {sheet : Sheet} (worksheet : sheet.chart = false) :
    sheet.formulaCells = sheet.positions.filterMap fun place =>
      ((sheet.content place).value.formula?).map fun formula => (place, formula) := by
  unfold formulaCells
  rw [worksheet]
  rfl

theorem candidates_ofSheet {sheet : Sheet} (worksheet : sheet.chart = false) :
    (Reader.ofSheet sheet).filterMap Reader.candidate? =
      sheet.positions.filterMap sheet.candidateAt := by
  unfold Reader.ofSheet
  rw [formulaCells_eq worksheet, List.filterMap_map, List.filterMap_filterMap]
  apply List.filterMap_congr
  intro place _
  unfold candidateAt
  cases (sheet.content place).value.formula? <;> rfl

theorem content_congr {first second : Sheet} (same : first.face = second.face) (place : Position) :
    first.content place = second.content place := by
  have contents : first.contents = second.contents := congrArg Face.contents same
  unfold content
  rw [contents]

theorem contents_of_extent_none {sheet : Sheet} (spanned : sheet.Spanned)
    (none : sheet.extent = none) :
    sheet.contents = [] := by
  apply List.eq_nil_iff_forall_not_mem.2
  intro entry member
  obtain ⟨extent, same, _⟩ := spanned.holds entry member
  rw [none] at same
  cases same

theorem formulaCells_of_contents_nil {sheet : Sheet} (empty : sheet.contents = []) :
    sheet.formulaCells = [] := by
  unfold formulaCells
  split
  · rfl
  · apply List.filterMap_eq_nil_iff.2
    intro place _
    unfold content
    rw [empty]
    rfl

theorem positions_congr {first second : Sheet} {extent other : Extent}
    (one : first.extent = some extent) (two : second.extent = some other)
    (same : first.last = second.last) :
    first.positions = second.positions := by
  unfold last at same
  rw [one, two] at same
  obtain ⟨right, bottom⟩ := Position.mk.inj same
  unfold positions
  rw [one, two]
  dsimp only
  rw [right, bottom]

theorem ofSheet_congr {first second : Sheet} (same : first.face = second.face) (one : first.Spanned)
    (other : second.Spanned) : Reader.ofSheet first = Reader.ofSheet second := by
  have titles : first.title = second.title := congrArg Face.title same
  have contents : first.contents = second.contents := congrArg Face.contents same
  have lasts : first.last = second.last := congrArg Face.last same
  have charts : first.chart = second.chart := congrArg Face.chart same
  have cells : first.formulaCells = second.formulaCells := by
    cases left : first.extent with
    | none =>
      have empty := contents_of_extent_none one left
      rw [formulaCells_of_contents_nil empty, formulaCells_of_contents_nil
        (contents.symm.trans empty)]
    | some extent =>
      cases right : second.extent with
      | none =>
        have empty := contents_of_extent_none other right
        rw [formulaCells_of_contents_nil empty, formulaCells_of_contents_nil (contents.trans empty)]
      | some extent' =>
        unfold formulaCells
        simp only [positions_congr left right lasts, content_congr same, charts]
  unfold Reader.ofSheet
  rw [cells, titles]

end Sheet

namespace Sheet

def corners (sheet : Sheet) (extent : Extent) : String :=
  qualify sheet.title (addressText extent.left extent.top ++ ":" ++
    addressText extent.right extent.bottom)

theorem ofSheet_eq_nil {sheet : Sheet} (spanned : sheet.Spanned) (first : sheet.last = ⟨0, 0⟩)
    (blank : (sheet.content ⟨0, 0⟩).value.formula? = none) : Reader.ofSheet sheet = [] := by
  apply List.eq_nil_iff_forall_not_mem.2
  intro reader member
  obtain ⟨_, _, written, _⟩ := Reader.mem_ofSheet.1 member
  obtain ⟨extent, same, _, across, _, down⟩ := holds_of_formula spanned written
  unfold last at first
  rw [same] at first
  obtain ⟨right, bottom⟩ := Position.mk.inj first
  have place : reader.place = ⟨0, 0⟩ := by
    rw [right] at across
    rw [bottom] at down
    exact congr (congrArg Position.mk (Nat.le_zero.1 across)) (Nat.le_zero.1 down)
  rw [place, blank] at written
  cases written

theorem extent_touch_first {sheet : Sheet} (first : sheet.last = ⟨0, 0⟩) :
    (sheet.touch ⟨0, 0⟩).extent = some ⟨0, 0, 0, 0⟩ := by
  unfold last at first
  unfold touch
  cases same : sheet.extent with
  | none => rfl
  | some extent =>
    rw [same] at first
    obtain ⟨right, bottom⟩ := Position.mk.inj first
    dsimp only [Extent.add]
    rw [right, bottom, Nat.min_zero, Nat.min_zero, Nat.max_self]

/-- A sheet without a used range has no formulas; otherwise the used range is the rectangle of the
cells that it has afterwards. -/
theorem usedRange_cases {sheet : Sheet} (spanned : sheet.Spanned) :
    (sheet.usedRange.1 = none ∧ Reader.ofSheet sheet = []) ∨
      ∃ extent, sheet.usedRange.1 = some (sheet.corners extent) ∧
        sheet.usedRange.2.extent = some extent := by
  unfold usedRange
  by_cases first : sheet.last = ⟨0, 0⟩
  · rw [if_pos first]
    have content : (sheet.touch ⟨0, 0⟩).content ⟨0, 0⟩ = sheet.content ⟨0, 0⟩ := rfl
    dsimp only
    rw [content]
    split
    next blank => exact .inl ⟨rfl, ofSheet_eq_nil spanned first (by rw [blank]; rfl)⟩
    next => exact .inr ⟨⟨0, 0, 0, 0⟩, rfl, extent_touch_first first⟩
  · rw [if_neg first]
    cases same : sheet.extent with
    | none =>
      unfold last at first
      rw [same] at first
      exact absurd rfl first
    | some extent => exact .inr ⟨extent, rfl, same⟩

end Sheet

/-! ### Rows and columns -/

theorem flatMap_range_from {α : Type} (view : Nat → List α) (first last : Nat)
    (before : ∀ i < first, view i = []) :
    (List.range (last + 1)).flatMap view = (List.range' first (last + 1 - first)).flatMap view := by
  have skipped (count : Nat) (short : count ≤ first) : (List.range count).flatMap view = [] := by
    refine List.flatMap_eq_nil_iff.2 fun i member => before i ?_
    exact Nat.lt_of_lt_of_le (List.mem_range.1 member) short
  by_cases inside : first ≤ last + 1
  · have parts : List.range (last + 1) = List.range first ++ List.range' first
        (last + 1 - first) := by
      rw [List.range_eq_range', List.range_eq_range',
        show last + 1 = first + (last + 1 - first) by omega, ← List.range'_append]
      simp
    rw [parts, List.flatMap_append, skipped first (Nat.le_refl _), List.nil_append]
  · rw [skipped (last + 1) (by omega), show last + 1 - first = 0 by omega]
    rfl

theorem Sheet.span_eq (first last : Nat) :
    Sheet.span first last = List.range' first (last + 1 - first) := by
  rw [List.range'_eq_map_range]
  rfl

namespace Inventory

variable {sheet : Sheet}

theorem candidate?_place {place : Position} (named : place.col < lastNamedColumn) :
    candidate? sheet.title place.col place.row (sheet.content place).value.formula? =
      .ok (sheet.candidateAt place) := by
  unfold candidate? Sheet.candidateAt
  cases written : (sheet.content place).value.formula? with
  | none => rfl
  | some formula =>
    dsimp only
    rw [if_pos (Value.isFormula_of_formula? written), Option.bind_some]
    unfold Reader.candidate?
    simp only [Reader.areas, Reader.address]
    cases Formula.references formula sheet.title with
    | nil => rfl
    | cons area areas =>
      dsimp only
      rw [namedAddress_of_le _ named]
      rfl

theorem rowCandidates_range (row : Nat) (count first : Nat)
    (named : first + count ≤ lastNamedColumn) :
    rowCandidates sheet.title row first
        ((List.range' first count).map fun col => (sheet.content ⟨col, row⟩).value.formula?) =
      .ok ((List.range' first count).flatMap fun col => (sheet.candidateAt ⟨col, row⟩).toList) := by
  induction count generalizing first with
  | zero => rfl
  | succ count ih =>
    have inside : first < lastNamedColumn := by omega
    have here : candidate? sheet.title first row (sheet.content ⟨first, row⟩).value.formula? =
      .ok (sheet.candidateAt ⟨first, row⟩) := candidate?_place inside
    have rest := ih (first + 1) (by omega)
    rw [Int.natCast_succ] at rest
    rw [List.range'_succ, List.map_cons, rowCandidates, here, rest, List.flatMap_cons]
    rfl

theorem gridCandidates_range (left width : Nat) (count first : Nat)
    (named : left + width ≤ lastNamedColumn) :
    gridCandidates sheet.title left first
        ((List.range' first count).map fun row =>
          (List.range' left width).map fun col => (sheet.content ⟨col, row⟩).value.formula?) =
      .ok ((List.range' first count).flatMap fun row =>
        (List.range' left width).flatMap fun col => (sheet.candidateAt ⟨col, row⟩).toList) := by
  induction count generalizing first with
  | zero => rfl
  | succ count ih =>
    have rest := ih (first + 1)
    rw [Int.natCast_succ] at rest
    rw [List.range'_succ, List.map_cons, gridCandidates, rowCandidates_range first width left named,
      rest, List.flatMap_cons]
    rfl

theorem candidateAt_of_not_holds (spanned : sheet.Spanned) {extent : Extent}
    (same : sheet.extent = some extent) {place : Position} (outside : ¬ extent.Holds place) :
    sheet.candidateAt place = none := by
  unfold Sheet.candidateAt
  cases written : (sheet.content place).value.formula? with
  | none => rfl
  | some formula =>
    obtain ⟨other, found, holds⟩ := Sheet.holds_of_formula spanned written
    rw [same] at found
    cases found
    exact absurd holds outside

theorem candidates_ofSheet_eq (worksheet : sheet.chart = false) (spanned : sheet.Spanned)
    {extent : Extent} (same : sheet.extent = some extent) :
    (Reader.ofSheet sheet).filterMap Reader.candidate? =
      (List.range' extent.top (extent.bottom + 1 - extent.top)).flatMap fun row =>
        (List.range' extent.left (extent.right + 1 - extent.left)).flatMap fun col =>
          (sheet.candidateAt ⟨col, row⟩).toList := by
  -- Positions run from the first column and row of the sheet, a grid from the corner of its
  -- rectangle.
  have columns (row : Nat) : (List.range (extent.right + 1)).flatMap
        (fun col => (sheet.candidateAt ⟨col, row⟩).toList) =
      (List.range' extent.left (extent.right + 1 - extent.left)).flatMap fun col =>
        (sheet.candidateAt ⟨col, row⟩).toList := by
    apply flatMap_range_from _ _ _
    intro col short
    rw [candidateAt_of_not_holds spanned same fun holds => Nat.not_le_of_lt short holds.1]
    rfl
  have cells : sheet.positions.filterMap sheet.candidateAt =
      (List.range (extent.bottom + 1)).flatMap fun row =>
        (List.range (extent.right + 1)).flatMap fun col =>
          (sheet.candidateAt ⟨col, row⟩).toList := by
    unfold Sheet.positions
    rw [same, List.filterMap_eq_flatMap_toList, List.flatMap_assoc]
    apply List.flatMap_congr
    intro row _
    rw [List.flatMap_map]
  rw [Sheet.candidates_ofSheet worksheet, cells]
  simp only [columns]
  refine flatMap_range_from _ _ _ fun row short => List.flatMap_eq_nil_iff.2 fun col _ => ?_
  rw [candidateAt_of_not_holds spanned same fun holds => Nat.not_le_of_lt short holds.2.2.1]
  rfl

theorem sheetCandidates_grid (worksheet : sheet.chart = false) (spanned : sheet.Spanned)
    (named : sheet.title ≠ "")
    (inside : sheet.last.InGrid) {extent : Extent} (same : sheet.extent = some extent) :
    sheetCandidates sheet.title (some ⟨sheet.corners extent, sheet.formulas extent⟩) =
      .ok ((Reader.ofSheet sheet).filterMap Reader.candidate?) := by
  have ends : sheet.last = ⟨extent.right, extent.bottom⟩ := by
    unfold Sheet.last
    rw [same]
  obtain ⟨across, down⟩ := spanned.ordered extent same
  rw [ends] at inside
  obtain ⟨right, bottom⟩ := inside
  dsimp only at right bottom
  have corner : Position.InGrid ⟨extent.left, extent.top⟩ :=
    ⟨Nat.lt_of_le_of_lt across right, Nat.lt_of_le_of_lt down bottom⟩
  have origin : Cell.read? (sheet.corners extent) sheet.title =
      some ⟨readSheet sheet.title, extent.left, extent.top⟩ := by
    rw [Sheet.corners, read?_corners named, read?_qualify_addressText named, position?,
      String.ofList_toList, Position.read_addressText corner]
    rfl
  have width : extent.left + (extent.right + 1 - extent.left) ≤ lastNamedColumn := by
    simp only [maxColumns, lastNamedColumn] at *
    omega
  unfold sheetCandidates Sheet.formulas
  dsimp only
  rw [origin]
  dsimp only
  rw [Sheet.span_eq, Sheet.span_eq, gridCandidates_range _ _ _ _ width,
    candidates_ofSheet_eq worksheet spanned same]

theorem sheetCandidates_usedRange (worksheet : sheet.chart = false) (spanned : sheet.Spanned)
    (named : sheet.title ≠ "") (inside : sheet.last.InGrid) :
    sheetCandidates sheet.title (match sheet.usedRange with
        | (some address, after) => after.extent.map fun extent => ⟨address, after.formulas extent⟩
        | (none, _) => none) =
      .ok ((Reader.ofSheet sheet).filterMap Reader.candidate?) := by
  have face := sheet.usedRange_face
  have after := Sheet.usedRange_spanned spanned
  have cases := Sheet.usedRange_cases spanned
  generalize sheet.usedRange = result at face after cases
  obtain ⟨range, sheet'⟩ := result
  rcases cases with ⟨rfl, none⟩ | ⟨extent, rfl, same⟩
  · rw [none]
    rfl
  · dsimp only at face after same ⊢
    have title : sheet'.title = sheet.title := congrArg Sheet.Face.title face
    have last : sheet'.last = sheet.last := congrArg Sheet.Face.last face
    rw [← title] at named
    rw [← last] at inside
    have cells : sheet'.chart = false := (congrArg Sheet.Face.chart face).trans worksheet
    have candidates := sheetCandidates_grid cells after named inside same
    unfold Sheet.corners at candidates ⊢
    rw [title, Sheet.ofSheet_congr face after spanned] at candidates
    rw [same]
    exact candidates

end Inventory

end FormulaTrace
