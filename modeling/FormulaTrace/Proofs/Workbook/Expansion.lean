import FormulaTrace.Proofs.Workbook.Edges
import Mathlib.Data.Set.Finite.Lattice

/-! Areas that an index expands, and areas that it keeps.
An expanded area leads from the cells of the one sheet that its name means, and where no title is
that name, from none. A kept area is compared by its sheet, without the white space at the ends of
the names.  So an index may tell more formula cells the fewer areas it expands. -/
namespace FormulaTrace
open Text

namespace Index

variable {titles : List String} {limit : Int} {address reader : String} {cell : Cell}

/-- An index tells of a formula cell that it reads a cell: an edge leads there, or an area that was
kept holds the cell. -/
def TellsOf (index : Index) (cell : Cell) (reader : String) : Prop :=
  reader ∈ index.graph.successors cell.address ∨ ∃ kept ∈ index.wide, kept.2 = reader ∧
    kept.1.contains cell = true

theorem mem_addWide (found : List String) (wide : List (Area × String)) :
    reader ∈ addWide (some cell) found wide ↔
      reader ∈ found ∨ ∃ kept ∈ wide, kept.2 = reader ∧ kept.1.contains cell = true := by
  induction wide generalizing found with
  | nil => simp [addWide]
  | cons kept rest ih =>
    obtain ⟨area, other⟩ := kept
    rw [List.exists_mem_cons_iff, ← or_assoc, addWide]
    by_cases holds : area.contains cell = true
    · by_cases known : other ∈ found
      · have again : reader ∈ found ∨ other = reader ↔ reader ∈ found :=
          or_iff_left_of_imp fun same => same ▸ known
        simp [holds, known, ih, again]
      · simp [holds, known, ih, @eq_comm _ reader other]
    · simp [holds, ih]

theorem mem_dependents (index : Index) :
    reader ∈ (index.dependents cell.address (some cell)).flatten ↔ index.TellsOf cell reader := by
  unfold TellsOf dependents
  rw [← mem_addWide]
  split
  next none => simp [none]
  next => simp

/-- An area, expanded or kept, makes its formula cell one that reads a cell. -/
def Covers (titles : List String) (limit : Int) (cell : Cell) (area : Area) : Prop :=
  if limit < area.cellCount then (settle titles area).contains cell = true
  else cell.address ∈ (settle titles area).addresses

theorem tellsOf_addReference (index : Index) (area : Area) :
    (addReference titles limit address index area).TellsOf cell reader ↔
      index.TellsOf cell reader ∨ reader = address ∧ Covers titles limit cell area := by
  have count : (settle titles area).cellCount = area.cellCount := rfl
  unfold TellsOf Covers addReference
  dsimp only
  rw [count]
  split
  · simp only [List.mem_append, List.mem_singleton, or_and_right, exists_or, exists_eq_left,
      or_assoc, @eq_comm _ reader address]
  · rw [Digraph.successors_foldl_addEdge]
    split <;> grind

theorem tellsOf_addReferences (areas : List Area) (index : Index) :
    (areas.foldl (addReference titles limit address) index).TellsOf cell reader ↔
      index.TellsOf cell reader ∨ reader = address ∧ ∃ area ∈ areas,
        Covers titles limit cell area := by
  induction areas generalizing index with
  | nil => simp
  | cons area rest ih =>
    rw [List.foldl_cons, ih, tellsOf_addReference, List.exists_mem_cons_iff, and_or_left, or_assoc]

theorem tellsOf_addReader (index : Index) (added : Reader) :
    (addReader titles limit index added).TellsOf cell reader ↔
      index.TellsOf cell reader ∨ reader = added.address ∧ ∃ area ∈ added.areas,
        Covers titles limit cell area :=
  tellsOf_addReferences added.areas _

theorem tellsOf_addReaders (readers : List Reader) (index : Index) :
    (readers.foldl (addReader titles limit) index).TellsOf cell reader ↔
      index.TellsOf cell reader ∨
        ∃ added ∈ readers, reader = added.address ∧ ∃ area ∈ added.areas,
          Covers titles limit cell area := by
  induction readers generalizing index with
  | nil => simp
  | cons added rest ih =>
    rw [List.foldl_cons, ih, tellsOf_addReader, List.exists_mem_cons_iff, or_assoc]

theorem covers_iff {area : Area} (placed : area.Placed) :
    Covers titles limit cell area ↔
      (settle titles area).contains cell = true ∧
        (limit < area.cellCount ∨ (settle titles area).sheet = cell.sheet) := by
  have listed := (settle titles area).mem_addresses_iff placed.left placed.top cell.sheet
    ⟨cell.col, cell.row⟩
  have holds : (settle titles area).contains cell = true ↔
      sheetKey (settle titles area).sheet = sheetKey cell.sheet ∧
        (area.left ≤ cell.col ∧ cell.col ≤ area.right ∧ area.top ≤ cell.row ∧
          cell.row ≤ area.bottom) := by
    rw [Area.contains, Bool.and_eq_true, decide_eq_true_eq, decide_eq_true_eq]
    rfl
  unfold Covers
  split
  next wide => simp [wide]
  next narrow =>
    rw [Cell.address, listed, holds]
    simp only [narrow, false_or]
    constructor
    · rintro ⟨sheets, inside⟩
      exact ⟨⟨congrArg sheetKey sheets, inside⟩, sheets⟩
    · rintro ⟨⟨_, inside⟩, sheets⟩
      exact ⟨sheets, inside⟩

variable {sheets : List Sheet}

theorem placed_of_mem_all (named : ∀ sheet ∈ sheets, sheet.title ≠ "") {added : Reader}
    (listed : added ∈ Reader.all sheets)
    {area : Area} (member : area ∈ added.areas) : area.Placed := by
  obtain ⟨sheet, here, inside⟩ := List.mem_flatMap.1 listed
  obtain ⟨title, _⟩ := Reader.mem_ofSheet.1 inside
  refine Formula.placed_of_mem_references ?_ member
  rw [title]
  exact named sheet here

/-- The formula cells that an index tells for a cell are those with an area that holds the cell,
either kept or on a sheet of the very title. -/
theorem mem_dependents_ofSheets (named : ∀ sheet ∈ sheets, sheet.title ≠ "") :
    reader ∈ ((ofSheets limit sheets).dependents cell.address (some cell)).flatten ↔
      ∃ added ∈ Reader.all sheets, reader = added.address ∧
        ∃ area ∈ added.areas, (settle (sheets.map Sheet.title) area).contains cell = true ∧
          (limit < area.cellCount ∨ (settle (sheets.map Sheet.title) area).sheet = cell.sheet) := by
  have none : ¬ empty.TellsOf cell reader := by
    rintro (edge | ⟨area, kept, _⟩)
    · simp [empty] at edge
    · cases kept
  rw [mem_dependents, ofSheets_eq, tellsOf_addReaders, or_iff_right none]
  constructor
  · rintro ⟨added, listed, same, area, member, covers⟩
    exact ⟨added, listed, same, area, member,
      (covers_iff (placed_of_mem_all named listed member)).1 covers⟩
  · rintro ⟨added, listed, same, area, member, holds⟩
    exact ⟨added, listed, same, area, member,
      (covers_iff (placed_of_mem_all named listed member)).2 holds⟩

theorem exists_limit (sheets : List Sheet) :
    ∃ limit : Int, ∀ added ∈ Reader.all sheets, ∀ area ∈ added.areas, area.cellCount ≤ limit := by
  obtain ⟨limit, above⟩ :=
    (List.finite_toSet (((Reader.all sheets).flatMap Reader.areas).map Area.cellCount)).bddAbove
  refine ⟨limit, fun added listed area member => above ?_⟩
  exact List.mem_map.2 ⟨area, List.mem_flatMap.2 ⟨added, listed, member⟩, rfl⟩

theorem cellCount_pos (area : Area) : 0 < area.cellCount := by
  have across := area.left_le_right
  have down := area.top_le_bottom
  exact Int.mul_pos (by omega) (by omega)

theorem mem_dependents_of_titled (named : ∀ sheet ∈ sheets, sheet.title ≠ "")
    (titled : ∀ reader ∈ Reader.all sheets,
      (∃ area ∈ reader.areas, (settle (sheets.map Sheet.title) area).contains cell = true) →
      ∃ area ∈ reader.areas, (settle (sheets.map Sheet.title) area).contains cell = true ∧
        (settle (sheets.map Sheet.title) area).sheet = cell.sheet) :
    reader ∈ ((ofSheets limit sheets).dependents cell.address (some cell)).flatten ↔
      ∃ added ∈ Reader.all sheets, reader = added.address ∧
        ∃ area ∈ added.areas, (settle (sheets.map Sheet.title) area).contains cell = true := by
  rw [mem_dependents_ofSheets named]
  constructor
  · rintro ⟨added, listed, same, area, member, holds, _⟩
    exact ⟨added, listed, same, area, member, holds⟩
  · rintro ⟨added, listed, same, found⟩
    obtain ⟨area, member, holds, title⟩ := titled added listed found
    exact ⟨added, listed, same, area, member, holds, .inr title⟩

theorem sheet_of_contains_settle {area : Area}
    (meant : titleFor? titles cell.sheet = some cell.sheet) (ends : EndsInk cell.sheet.toList)
    (qualified : EndsInk area.sheet.toList) (holds : (settle titles area).contains cell = true) :
    (settle titles area).sheet = cell.sheet := by
  have spelled : lower (settle titles area).sheet.toList = lower area.sheet.toList := by
    change lower ((titleFor? titles area.sheet).getD area.sheet).toList = _
    cases found : titleFor? titles area.sheet with
    | none => rfl
    | some title => exact lower_of_titleFor? found
  have keys : sheetKey (settle titles area).sheet = sheetKey cell.sheet :=
    of_decide_eq_true (Bool.and_eq_true_iff.1 holds).1
  rw [sheetKey_eq_iff (endsInk_of_lower_eq spelled qualified) ends, spelled] at keys
  exact (settle_sheet_eq_iff meant area).2 keys

/-- Under a title that is found by its own name, and with no white space at the ends of names, the
limit decides nothing. -/
theorem mem_dependents_of_trimmed (named : ∀ sheet ∈ sheets, sheet.title ≠ "")
    (meant : titleFor? (sheets.map Sheet.title) cell.sheet = some cell.sheet)
    (ends : EndsInk cell.sheet.toList)
    (qualified : ∀ reader ∈ Reader.all sheets, ∀ area ∈ reader.areas, EndsInk area.sheet.toList) :
    reader ∈ ((ofSheets limit sheets).dependents cell.address (some cell)).flatten ↔
      ∃ added ∈ Reader.all sheets, reader = added.address ∧
        ∃ area ∈ added.areas, (settle (sheets.map Sheet.title) area).contains cell = true := by
  apply mem_dependents_of_titled named
  rintro added listed ⟨area, member, holds⟩
  exact ⟨area, member, holds, sheet_of_contains_settle meant ends
    (qualified added listed area member) holds⟩

/-- Indexes of all limits tell the same formula cells for a cell if and only if every formula with
an area that holds the cell, when sheets are compared without the white space at the ends of their
names, has one on a sheet of the very title. -/
theorem dependents_limit_iff (well : WellFormedSheets sheets) (cell : Cell) :
    (∀ (first second : Int) (reader : String),
      reader ∈ ((ofSheets first sheets).dependents cell.address (some cell)).flatten ↔
        reader ∈ ((ofSheets second sheets).dependents cell.address (some cell)).flatten) ↔
    ∀ reader ∈ Reader.all sheets,
      (∃ area ∈ reader.areas, (settle (sheets.map Sheet.title) area).contains cell = true) →
      ∃ area ∈ reader.areas, (settle (sheets.map Sheet.title) area).contains cell = true ∧
        (settle (sheets.map Sheet.title) area).sheet = cell.sheet := by
  constructor
  · rintro alike reader listed ⟨area, member, holds⟩
    obtain ⟨limit, narrow⟩ := exists_limit sheets
    simp only [mem_dependents_ofSheets well.named] at alike
    -- With a limit of zero every area is kept, and with this one none is.
    obtain ⟨other, others, same, area', member', holds', wide | title⟩ :=
      (alike 0 limit reader.address).1 ⟨reader, listed, rfl, area, member, holds,
        .inl (cellCount_pos area)⟩
    · exact absurd (narrow other others area' member') (Int.not_le.2 wide)
    · obtain rfl := Reader.eq_of_address_eq well.differ listed others same
      exact ⟨area', member', holds', title⟩
  · intro titled first second reader
    rw [mem_dependents_of_titled well.named titled, mem_dependents_of_titled well.named titled]

/-- A sheet, and a formula that names it with white space around. -/
def padded : List Sheet :=
  [("Data", [⟨⟨0, 0⟩, .int 1, none⟩]), ("Out", [⟨⟨0, 0⟩, .text "=' Data '!A1", none⟩])].map
    fun entry : String × List Entry => Sheet.ofEntries entry.1 entry.2

theorem padded_wellFormed : WellFormedSheets padded :=
  wellFormedSheets_ofEntries (by decide) (by decide)

theorem dependents_limit_iff_padded :
    ¬ ∀ (first second : Int) (reader : String),
      reader ∈ ((ofSheets first padded).dependents (⟨"Data", 0, 0⟩ : Cell).address
        (some ⟨"Data", 0, 0⟩)).flatten ↔
        reader ∈ ((ofSheets second padded).dependents (⟨"Data", 0, 0⟩ : Cell).address
          (some ⟨"Data", 0, 0⟩)).flatten := by
  rw [dependents_limit_iff padded_wellFormed ⟨"Data", 0, 0⟩]
  decide +kernel

/-- The formula cell is told if its area is kept, and with the default limit it is not. -/
theorem dependents_padded_lost :
    "Data" ∈ padded.map Sheet.title ∧
      "Out!A1" ∈ ((ofSheets 0 padded).dependents "Data!A1" (some ⟨"Data", 0, 0⟩)).flatten ∧
      "Out!A1" ∉ ((ofSheets defaultExpansion padded).dependents "Data!A1"
        (some ⟨"Data", 0, 0⟩)).flatten := by
  have named := padded_wellFormed.named
  have address : (⟨"Data", 0, 0⟩ : Cell).address = "Data!A1" := by decide +kernel
  rw [← address, mem_dependents_ofSheets named, mem_dependents_ofSheets named]
  decide +kernel

end Index

end FormulaTrace
