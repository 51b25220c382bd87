import FormulaTrace.Proofs.Workbook.Questions
import FormulaTrace.Proofs.Workbook.Scans

/-! Sheets under their titles.
A name is looked up without the white space at its ends, a title is kept with it, and a chart is
listed like any other sheet.  So a sheet can be read under its own title just if there is no such
white space and the sheet has cells. -/
namespace FormulaTrace
open Text

namespace OpenWorkbook

variable {sheets : List Sheet} {values : Option (List Sheet)} {sheet : Sheet} {place : Position}
  {workbook : OpenWorkbook}

/-- Every sheet has its values on a sheet of its kind. -/
def Valued (workbook : OpenWorkbook) : Prop :=
  ∀ sheet ∈ workbook.sheets,
    (sheetNamed (workbook.values.getD workbook.sheets) sheet.title).map Sheet.chart =
      some sheet.chart

theorem valued_of_none (well : WellFormedSheets workbook.sheets)
    (unvalued : workbook.values = none) :
    workbook.Valued := by
  intro sheet listed
  rw [unvalued, Option.getD_none, sheetNamed_of_mem well.differ listed]
  rfl

theorem exists_cellAnswer (well : WellFormedSheets sheets) (listed : sheet ∈ sheets)
    (ends : EndsInk sheet.title.toList)
    (meant : titleFor? (sheets.map Sheet.title) sheet.title = some sheet.title)
    (worksheet : sheet.chart = false)
    (valued : (sheetNamed (values.getD sheets) sheet.title).map Sheet.chart = some sheet.chart)
    (inside : place.InGrid) :
    ∃ snapshot, cellAnswer sheets values (qualify sheet.title (addressText place.col place.row)) =
      .ok snapshot ∧ Tells sheets sheet place snapshot := by
  have named := well.named sheet listed
  have parts : separate (qualify sheet.title (addressText place.col place.row)) =
      (some sheet.title, addressText place.col place.row) := by
    rw [separate_qualify named (isPlace_addressText _ _), readSheet_eq ends]
  have located : locate (qualify sheet.title (addressText place.col place.row)) sheet.title =
      .ok ⟨sheet.title, place.col, place.row⟩ := by
    unfold locate
    rw [read?_address named ends inside]
  rw [worksheet] at valued
  obtain ⟨value, shown⟩ := exists_look valued (Sheet.Face.peek · place)
  have content : look sheets sheet.title (Sheet.Face.peek · place) = .ok (sheet.face.peek place) :=
    (look_of_mem well.differ listed _).trans (Sheet.answer_eq_ok.2 ⟨worksheet, rfl⟩)
  refine ⟨snapshot (qualify sheet.title (addressText place.col place.row))
    (sheet.face.peek place) value, ?_, listed, worksheet, inside, ends, meant, rfl, rfl⟩
  unfold cellAnswer
  rw [parts]
  dsimp only
  rw [titleIn_self ends meant]
  dsimp only [bind, Except.bind]
  rw [located]
  dsimp only
  rw [content]
  dsimp only
  rw [shown]
  rfl

/-- Whether a title can be used to read what it is the title of: its used range, its grid, and every
cell, which is told about under the address that was asked for. -/
structure Readable (workbook : OpenWorkbook) (title : String) : Prop where
  range : ∃ range, (source.usedRange title).outcome workbook = .ok range
  grid : ∃ grid, (source.formulaGrid title).outcome workbook = .ok grid
  cells : ∀ place : Position, place.InGrid → ∃ snapshot,
    (source.readCell (qualify title (addressText place.col place.row))).outcome workbook =
      .ok snapshot ∧ snapshot.address = qualify title (addressText place.col place.row)

theorem Shows.self (spanned : ∀ sheet ∈ workbook.sheets, sheet.Spanned) :
    Shows workbook.sheets workbook.values workbook.index workbook :=
  ⟨rfl, rfl, rfl, spanned⟩

/-- A title with white space at its start, and one with a quotation mark. -/
def spaced : List Sheet :=
  [(" S", [⟨⟨0, 0⟩, .int 1, none⟩]), ("It's", [⟨⟨0, 0⟩, .int 2, none⟩])].map
    fun entry : String × List Entry => Sheet.ofEntries entry.1 entry.2

theorem spaced_wellFormed : WellFormedSheets spaced :=
  wellFormedSheets_ofEntries (by decide) (by decide)

/-- A number on a sheet beside a chart. -/
def charts : List Sheet := [Sheet.ofEntries "Data" [⟨⟨0, 0⟩, .int 1, none⟩], Sheet.charted "Chart1"]

theorem charts_wellFormed : WellFormedSheets charts where
  named := by decide +kernel
  differ := by decide +kernel
  spanned := List.forall_mem_cons.2
    ⟨Sheet.ofEntries_spanned _ _, List.forall_mem_singleton.2 (Sheet.charted_spanned _)⟩

end OpenWorkbook

end FormulaTrace
