import FormulaTrace.Proofs.Address.Lists
import FormulaTrace.Proofs.Formula.Areas
import FormulaTrace.Proofs.Workbook.Cells

/-! The first cells of areas, and how a workbook knows them.
An address goes through the spelling of the sheet, the reading of it, and the title that it means.
All of this changes a name only in its case and in the white space at its ends, and so the cell that
comes out is one that the area holds. -/
namespace FormulaTrace
open Text

theorem trim_readSheet (sheet : String) : trim (readSheet sheet).toList = trim sheet.toList := by
  unfold readSheet
  split
  · rw [String.toList_ofList, trim_eq_self (endsInk_trim _)]
  · rfl

theorem sheetKey_readSheet (sheet : String) : sheetKey (readSheet sheet) = sheetKey sheet := by
  unfold sheetKey
  rw [trim_readSheet]

theorem Formula.exists_first_of_mem_references {formula owner : String} {area : Area}
    (member : area ∈ Formula.references formula owner) :
    ∃ place : Position, place.InGrid ∧ area.left = place.col ∧ area.top = place.row := by
  obtain ⟨left, right, top, bottom⟩ := Formula.inGrid_of_mem_references member
  have across := area.left_le_right
  have down := area.top_le_bottom
  refine ⟨⟨area.left.toNat, area.top.toNat⟩, ⟨?_, ?_⟩, ?_, ?_⟩
  all_goals
    dsimp only
    omega

theorem canonical?_place {sheet : String} (named : sheet ≠ "") {place : Position}
    (inside : place.InGrid) (home : String) :
    canonical? (qualify sheet (addressText place.col place.row)) home =
      some (qualify (readSheet sheet) (addressText place.col place.row)) := by
  unfold canonical?
  rw [read?_qualify_addressText named, position?_addressText inside]
  rfl

namespace OpenWorkbook

variable {sheets : List Sheet}

theorem settled_place {sheet : String} (named : sheet ≠ "") {place : Position}
    (inside : place.InGrid) {known : String}
    (settles : settled sheets (qualify sheet (addressText place.col place.row)) = .ok known) :
    ∃ title, titleIn sheets (some (readSheet sheet)) = .ok title ∧
      known = qualify title (addressText place.col place.row) := by
  unfold settled at settles
  rw [separate_qualify named (isPlace_addressText _ _)] at settles
  obtain ⟨title, meant, settles⟩ := Except.bind_eq_ok settles
  obtain ⟨cell, located, settles⟩ := Except.bind_eq_ok settles
  have read := locate_eq_ok located
  rw [read?_qualify_addressText named, position?_addressText inside] at read
  cases read
  cases settles
  exact ⟨title, meant, rfl⟩

theorem exists_cell_of_settled {formula owner : String} (named : owner ≠ "") {area : Area}
    (member : area ∈ Formula.references formula owner) {home spelled known : String}
    (canonical : canonical? area.anchorAddress home = some spelled)
    (settles : settled sheets spelled = .ok known) :
    ∃ title, ∃ place : Position, titleIn sheets (some title) = .ok title ∧ place.InGrid ∧
      known = qualify title (addressText place.col place.row) ∧
      area.contains ⟨title, place.col, place.row⟩ = true := by
  have placed := Formula.placed_of_mem_references named member
  obtain ⟨place, inside, left, top⟩ := Formula.exists_first_of_mem_references member
  have across := area.left_le_right
  have down := area.top_le_bottom
  unfold Area.anchorAddress Area.anchor at canonical
  rw [left, top, canonical?_place placed.named inside] at canonical
  cases canonical
  obtain ⟨title, meant, rfl⟩ := settled_place (readSheet_ne_empty placed.named) inside settles
  obtain ⟨ends, self⟩ := facts_of_titleIn meant
  refine ⟨title, place, titleIn_self ends self, inside, rfl, ?_⟩
  rw [Area.contains, Bool.and_eq_true, decide_eq_true_eq, decide_eq_true_eq,
    sheetKey_of_titleIn meant, sheetKey_readSheet, sheetKey_readSheet]
  dsimp only
  refine ⟨rfl, ?_⟩
  omega

end OpenWorkbook

end FormulaTrace
