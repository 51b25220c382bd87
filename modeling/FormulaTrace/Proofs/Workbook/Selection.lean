import FormulaTrace.Proofs.Address.Lists
import FormulaTrace.Proofs.Workbook.Edges
import FormulaTrace.Proofs.Workbook.Grids
import FormulaTrace.Proofs.Workbook.Ranges

/-! Which sheets fit into a budget of cells, and what they are read for. A sheet is chosen with all
cells of its used range or passed over; what the chosen ones have together never exceeds the budget.
The candidates of a sheet are found all over the grid, row by row. -/
namespace FormulaTrace

namespace Inventory

/-- The sheets with a used range, parted into those that were chosen and those that did not fit. -/
structure Parted (sheets : List Sheet) (budget : Int) (chosen : List (Sheet × Extent))
    (passed : List Sheet) :
    Prop where
  used : ∀ entry ∈ chosen, entry.1.used = some entry.2
  choice : (chosen.map Prod.fst).Sublist sheets
  rest : passed.Sublist sheets
  whole : (chosen.map Prod.fst ++ passed).Perm (sheets.filter fun sheet => sheet.used.isSome)
  fits : ((chosen.map fun entry => entry.2.size).sum : Nat) ≤ max 0 budget

namespace Parted

variable {sheet : Sheet} {sheets passed : List Sheet} {budget : Int}
  {chosen : List (Sheet × Extent)} {extent : Extent}

theorem nil (budget : Int) : Parted [] budget [] [] :=
  ⟨by simp, .slnil, .slnil, .nil, Int.le_max_left 0 budget⟩

theorem unused (parted : Parted sheets budget chosen passed) (none : sheet.used = none) :
    Parted (sheet :: sheets) budget chosen passed where
  used := parted.used
  choice := parted.choice.cons sheet
  rest := parted.rest.cons sheet
  whole := by
    rw [List.filter_cons_of_neg (by rw [none]; exact Bool.false_ne_true)]
    exact parted.whole
  fits := parted.fits

theorem pass (parted : Parted sheets budget chosen passed) (used : sheet.used = some extent) :
    Parted (sheet :: sheets) budget chosen (sheet :: passed) where
  used := parted.used
  choice := parted.choice.cons sheet
  rest := parted.rest.cons_cons sheet
  whole := by
    rw [List.filter_cons_of_pos (by rw [used]; rfl)]
    exact List.perm_middle.trans (parted.whole.cons sheet)
  fits := parted.fits

theorem choose (parted : Parted sheets (budget - extent.size) chosen passed)
    (used : sheet.used = some extent) (room : (extent.size : Int) ≤ budget) :
    Parted (sheet :: sheets) budget ((sheet, extent) :: chosen) passed where
  used := List.forall_mem_cons.2 ⟨used, parted.used⟩
  choice := parted.choice.cons_cons sheet
  rest := parted.rest.cons sheet
  whole := by
    rw [List.filter_cons_of_pos (by rw [used]; rfl)]
    exact parted.whole.cons sheet
  fits := by
    have rest := parted.fits
    have total : (((sheet, extent) :: chosen).map fun entry => entry.2.size).sum =
      extent.size + (chosen.map fun entry => entry.2.size).sum := List.sum_cons
    rw [total, Int.natCast_add]
    omega

theorem mem_filter_iff (parted : Parted sheets budget chosen passed) :
    (sheet ∈ sheets ∧ sheet.used.isSome = true) ↔ sheet ∈ chosen.map Prod.fst ∨ sheet ∈ passed := by
  rw [← List.mem_append, parted.whole.mem_iff, List.mem_filter]

theorem mem_chosen_iff (parted : Parted sheets budget chosen passed)
    (differ : (sheets.map Sheet.title).Nodup) (listed : sheet ∈ sheets)
    (used : sheet.used.isSome = true) :
    sheet ∈ chosen.map Prod.fst ↔ sheet.title ∉ passed.map Sheet.title := by
  have apart : (chosen.map Prod.fst ++ passed).Nodup :=
    parted.whole.nodup_iff.2 (differ.of_map.filter _)
  constructor
  · intro here there
    obtain ⟨other, skipped, same⟩ := List.mem_map.1 there
    obtain rfl := List.inj_on_of_nodup_map differ (parted.rest.mem skipped) listed same
    exact List.disjoint_of_nodup_append apart here skipped
  · intro kept
    rcases parted.mem_filter_iff.1 ⟨listed, used⟩ with here | there
    · exact here
    · exact absurd (List.mem_map_of_mem there) kept

end Parted

theorem cellTotal_used {sheet : Sheet} (spanned : sheet.Spanned) (named : sheet.title ≠ "")
    (inside : sheet.last.InGrid) {extent : Extent} (used : sheet.used = some extent) :
    cellTotal (sheet.corners extent) sheet.title = extent.size := by
  obtain ⟨across, down⟩ := spanned.ordered extent (Sheet.used_extent spanned used)
  rw [Sheet.used_last used] at inside
  have start : Position.InGrid ⟨extent.left, extent.top⟩ :=
    ⟨Nat.lt_of_le_of_lt across inside.1, Nat.lt_of_le_of_lt down inside.2⟩
  exact cellTotal_corners named start inside across down sheet.title

theorem select_parted {sheets : List Sheet}
    (costs : ∀ sheet ∈ sheets, ∀ extent, sheet.used = some extent →
      cellTotal (sheet.corners extent) sheet.title = extent.size) (budget : Int) :
    ∃ chosen passed, Parted sheets budget chosen passed ∧
      select budget (sheets.map fun sheet => (sheet.title, sheet.used.map sheet.corners)) =
        ⟨chosen.map fun entry => entry.1.title, !passed.isEmpty, passed.map Sheet.title⟩ := by
  induction sheets generalizing budget with
  | nil => exact ⟨[], [], .nil budget, rfl⟩
  | cons sheet rest ih =>
    obtain ⟨here, others⟩ := List.forall_mem_cons.1 costs
    rw [List.map_cons]
    cases used : sheet.used with
    | none =>
      obtain ⟨chosen, passed, parted, selected⟩ := ih others budget
      exact ⟨chosen, passed, parted.unused used, selected⟩
    | some extent =>
      rw [Option.map_some, select, here extent used]
      by_cases room : budget < extent.size
      · obtain ⟨chosen, passed, parted, selected⟩ := ih others budget
        refine ⟨chosen, sheet :: passed, parted.pass used, ?_⟩
        rw [if_pos room, selected]
        rfl
      · obtain ⟨chosen, passed, parted, selected⟩ := ih others (budget - extent.size)
        refine ⟨(sheet, extent) :: chosen, passed, parted.choose used (Int.not_lt.1 room), ?_⟩
        rw [if_neg room, selected]
        rfl

end Inventory

/-! ### Candidates all over the grid -/

theorem flatMap_range_to {α : Type} (view : Nat → List α) {short long : Nat} (le : short ≤ long)
    (behind : ∀ i, short ≤ i → view i = []) :
    (List.range long).flatMap view = (List.range short).flatMap view := by
  obtain ⟨more, rfl⟩ := Nat.exists_eq_add_of_le le
  have none : ((List.range more).map (short + ·)).flatMap view = [] := by
    refine List.flatMap_eq_nil_iff.2 fun i member => behind i ?_
    obtain ⟨offset, _, rfl⟩ := List.mem_map.1 member
    exact Nat.le_add_right short offset
  rw [List.range_add, List.flatMap_append, none, List.append_nil]

namespace Position

def upTo (columns rows : Nat) : List Position :=
  (List.range rows).flatMap fun row => (List.range columns).map fun col => ⟨col, row⟩

theorem mem_upTo {columns rows : Nat} {place : Position} :
    place ∈ upTo columns rows ↔ place.col < columns ∧ place.row < rows := by
  simp only [upTo, List.mem_flatMap, List.mem_map, List.mem_range]
  constructor
  · rintro ⟨row, down, col, across, rfl⟩
    exact ⟨across, down⟩
  · rintro ⟨across, down⟩
    exact ⟨place.row, down, place.col, across, rfl⟩

theorem filterMap_upTo {α : Type} (view : Position → Option α) (columns rows : Nat) :
    (upTo columns rows).filterMap view =
      (List.range rows).flatMap fun row => (List.range columns).flatMap fun col =>
        (view ⟨col, row⟩).toList := by
  unfold upTo
  rw [List.filterMap_eq_flatMap_toList, List.flatMap_assoc]
  apply List.flatMap_congr
  intro row _
  rw [List.flatMap_map]

theorem filterMap_upTo_of_le {α : Type} {view : Position → Option α} {columns rows wide long : Nat}
    (across : columns ≤ wide) (down : rows ≤ long)
    (outside : ∀ place, columns ≤ place.col ∨ rows ≤ place.row → view place = none) :
    (upTo wide long).filterMap view = (upTo columns rows).filterMap view := by
  rw [filterMap_upTo, filterMap_upTo]
  have narrow (row : Nat) : ((List.range wide).flatMap fun col => (view ⟨col, row⟩).toList) =
      (List.range columns).flatMap fun col => (view ⟨col, row⟩).toList :=
    flatMap_range_to _ across fun col behind => by rw [outside ⟨col, row⟩ (.inl behind)]; rfl
  simp only [narrow]
  refine flatMap_range_to _ down fun row behind => List.flatMap_eq_nil_iff.2 fun col _ => ?_
  rw [outside ⟨col, row⟩ (.inr behind)]
  rfl

end Position

def gridPlaces : List Position := Position.upTo maxColumns maxRows

theorem mem_gridPlaces {place : Position} : place ∈ gridPlaces ↔ place.InGrid := Position.mem_upTo

theorem Sheet.filterMap_gridPlaces {sheet : Sheet} (worksheet : sheet.chart = false)
    (spanned : sheet.Spanned) (inside : sheet.last.InGrid) {extent : Extent}
    (same : sheet.extent = some extent) :
    gridPlaces.filterMap sheet.candidateAt = (Reader.ofSheet sheet).filterMap
      Reader.candidate? := by
  have ends : sheet.last = ⟨extent.right, extent.bottom⟩ := by
    unfold last
    rw [same]
  rw [ends] at inside
  have positions : sheet.positions = Position.upTo (extent.right + 1) (extent.bottom + 1) := by
    unfold positions
    rw [same]
    rfl
  rw [Sheet.candidates_ofSheet worksheet, positions]
  refine Position.filterMap_upTo_of_le inside.1 inside.2 fun place outside => ?_
  refine Inventory.candidateAt_of_not_holds spanned same fun ⟨_, across, _, down⟩ => ?_
  omega

theorem Reader.candidates_sublist (readers : List Reader) :
    ((readers.filterMap candidate?).map Candidate.address).Sublist (readers.map address) := by
  induction readers with
  | nil => exact .slnil
  | cons reader rest ih =>
    rw [List.filterMap_cons, List.map_cons]
    unfold candidate?
    cases reader.areas with
    | nil => exact ih.cons _
    | cons area areas => exact ih.cons_cons _

end FormulaTrace
