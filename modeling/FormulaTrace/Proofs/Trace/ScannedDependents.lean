import FormulaTrace.Proofs.Trace.Beside
import FormulaTrace.Proofs.Trace.Stops
import FormulaTrace.Proofs.Trace.Truncation
import FormulaTrace.Proofs.Workbook.Edges
import FormulaTrace.Proofs.Workbook.Scans

/-! Traces of dependents in workbooks without an index.
Where no two titles are taken for each other, a scan that succeeds has read every sheet under its
own title, and so the children of a cell are the formula cells that refer to it, sheet by sheet and
row by row. -/
namespace FormulaTrace
open Text

namespace Reader

open OpenWorkbook

variable {sheets : List Sheet}

/-- The formula cells that refer to the cell of an address, sheet by sheet and row by row. -/
def referringTo (sheets : List Sheet) (address : String) : List Reader :=
  (all sheets).filter fun reader => Formula.refersTo reader.formula reader.sheet address

theorem referringTo_subset (sheets : List Sheet) (address : String) :
    referringTo sheets address ⊆ all sheets :=
  List.filter_subset_self _

theorem own_of_plain (plain : PlainWorksheets sheets) {reader : Reader}
    (member : reader ∈ all sheets) :
    titleIn sheets (some reader.sheet) = .ok reader.sheet := by
  obtain ⟨sheet, listed, inside⟩ := List.mem_flatMap.1 member
  rw [(mem_ofSheet.1 inside).1]
  exact titleIn_of_plain plain.toPlainSheets listed

section OwnTitle

variable (inGrid : ∀ sheet ∈ sheets, sheet.last.InGrid) {reader : Reader}
  (member : reader ∈ all sheets) (own : titleIn sheets (some reader.sheet) = .ok reader.sheet)
include inGrid member own

theorem exists_tells :
    ∃ sheet snapshot, Tells sheets sheet reader.place snapshot ∧
      snapshot.address = reader.address := by
  obtain ⟨sheet, listed, inside⟩ := List.mem_flatMap.1 member
  obtain ⟨title, position, _, worksheet⟩ := mem_ofSheet.1 inside
  obtain ⟨extent, same, down, across⟩ := Sheet.mem_positions.1 position
  have last := inGrid sheet listed
  unfold Sheet.last at last
  rw [same] at last
  obtain ⟨ends, meant⟩ := facts_of_titleIn own
  rw [title] at ends meant
  have placed : reader.place.InGrid :=
    ⟨Nat.lt_of_le_of_lt across last.1, Nat.lt_of_le_of_lt down last.2⟩
  have address : reader.address = qualify sheet.title
      (addressText reader.place.col reader.place.row) := by
    rw [← title]
    rfl
  exact ⟨sheet, ⟨.blank, _, none, reader.address⟩,
    ⟨listed, worksheet, placed, ends, meant, address, rfl⟩, rfl⟩

variable (well : WellFormedSheets sheets)
include well

theorem settled_address : settled sheets reader.address = .ok reader.address := by
  obtain ⟨sheet, snapshot, tells, same⟩ := exists_tells inGrid member own
  rw [← same]
  exact tells.settled_address (well.named sheet tells.listed)

theorem canonical?_address (home : String) :
    canonical? reader.address home = some reader.address := by
  obtain ⟨sheet, snapshot, tells, same⟩ := exists_tells inGrid member own
  unfold canonical?
  rw [← same, tells.read?_address (well.named sheet tells.listed), tells.address]
  rfl

end OwnTitle

theorem addresses_of_settled (well : WellFormedSheets sheets) (plain : PlainWorksheets sheets)
    {readers : List Reader} (among : readers ⊆ all sheets) {nodes : List Node}
    (named : List.Forall₂ (fun address node => settled sheets address = .ok (Node.address node))
      (readers.map Reader.address) nodes) : nodes.map Node.address =
        readers.map Reader.address := by
  induction readers generalizing nodes with
  | nil =>
    cases named
    rfl
  | cons reader rest ih =>
    obtain ⟨member, others⟩ := List.cons_subset.1 among
    cases named with
    | cons here named =>
      rw [settled_address plain.inGrid member (own_of_plain plain member) well] at here
      rw [List.map_cons, List.map_cons, ih others named, Except.ok.inj here]

theorem distinct_referringTo (well : WellFormedSheets sheets) (plain : PlainWorksheets sheets)
    (snapshot : Snapshot) (address : String) :
    snapshot.distinct ((referringTo sheets address).map Reader.address) =
      (referringTo sheets address).map Reader.address := by
  have kept : ((referringTo sheets address).map Reader.address).filterMap
      (fun child => canonical? child snapshot.home) = (referringTo sheets address).map
        Reader.address := by
    rw [List.filterMap_map, ← List.filterMap_eq_map]
    apply List.filterMap_congr
    intro reader member
    rw [Function.comp_apply, Function.comp_apply]
    have listed := referringTo_subset _ _ member
    exact canonical?_address plain.inGrid listed (own_of_plain plain listed) well snapshot.home
  unfold Snapshot.distinct
  rw [kept]
  apply firstsBy_of_nodup
  rw [List.map_id]
  exact (addresses_nodup well.differ).sublist (List.filter_sublist.map Reader.address)

theorem addresses_listed (well : WellFormedSheets sheets) {sheet : Sheet} {place : Position}
    {snapshot : Snapshot} (tells : Tells sheets sheet place snapshot) (taken : Option Inventory) :
    (Finding.listed ⟨sheet.title, place.col, place.row⟩ (Candidate.all sheets) taken).addresses =
      (referringTo sheets snapshot.address).map Reader.address := by
  unfold Finding.addresses Candidate.all referringTo
  dsimp only
  rw [candidates_containing]
  refine congrArg (List.map Reader.address) (List.filter_congr fun reader _ => ?_)
  unfold Formula.refersTo
  rw [tells.read?_address (well.named sheet tells.listed)]
  rfl

end Reader

namespace Walk

open OpenWorkbook

variable {sheets : List Sheet} {values : Option (List Sheet)} {limits : Limits} {depth : Nat}
  {addresses : List String} {progress later : Progress} {workbook after : OpenWorkbook}
  {stops : List Stop} {nodes : List Node}

/-- What holds on a walk through a workbook without an index: an inventory that was taken lists all
formulas. -/
structure Scanning (sheets : List Sheet) (values : Option (List Sheet)) (progress : Progress)
    (workbook : OpenWorkbook) : Prop where
  shows : Shows sheets values none workbook
  lists : ∀ candidates, progress.candidates = some candidates → PlainWorksheets sheets ∧
    candidates = Candidate.all sheets

theorem Scanning.enter {between : OpenWorkbook}
    (scanning : Scanning sheets values progress workbook) (shows : Shows sheets values none between)
    (address : String) :
    Scanning sheets values (progress.enter address) between :=
  ⟨shows, scanning.lists⟩

variable (well : WellFormedSheets sheets) (inGrid : ∀ sheet ∈ sheets, sheet.last.InGrid)
  (differ : (sheets.map fun sheet => sheetKey sheet.title).Nodup)
include well inGrid differ

theorem Finds.scanning {snapshot : Snapshot} {finding : Finding} (known : Known sheets snapshot)
    (scanning : Scanning sheets values progress workbook) (whole : finding.skips = false)
    (finds : Finds source limits snapshot .dependents progress workbook finding later after) :
    PlainWorksheets sheets ∧ finding.addresses = (Reader.referringTo sheets snapshot.address).map
      Reader.address ∧ Scanning sheets values later after := by
  obtain ⟨sheet, place, tells⟩ := known
  have read := tells.read?_address (well.named sheet tells.listed) ""
  have untold := unindexed_gives scanning.shows snapshot.address .dependents progress
  cases finds with
  | told asked =>
    obtain ⟨same, _⟩ := asked.det untold
    cases same
  | held asked target held =>
    obtain ⟨_, rfl⟩ := asked.det untold
    obtain rfl := Option.some.inj (target.symm.trans read)
    obtain ⟨plain, rfl⟩ := scanning.lists _ held
    exact ⟨plain, Reader.addresses_listed well tells none, scanning.shows, scanning.lists⟩
  | @taken _ _ _ _ _ inventory asked target unknown took =>
    obtain ⟨_, rfl⟩ := asked.det untold
    obtain rfl := Option.some.inj (target.symm.trans read)
    have plain := plainWorksheets_of_titleIn differ inGrid (take_gives scanning.shows took)
    have skipped : inventory.skipped = [] := by
      simpa [Finding.skips, Inventory.truncated] using whole
    obtain ⟨again, place, given, lists, shows⟩ :=
      Inventory.take_yields well plain limits.maxScanCells _ scanning.shows
    obtain ⟨rfl, rfl⟩ := took.det given
    rw [lists skipped]
    refine ⟨plain, Reader.addresses_listed well tells _, shows, ?_⟩
    intro candidates same
    cases same
    exact ⟨plain, rfl⟩
  | unplaced asked unplaced =>
    rw [read] at unplaced
    cases unplaced

/-- The children of the cells that a walk expands are the formula cells that refer to them. -/
theorem Course.children_eq
    (course : Course source limits .dependents depth addresses progress workbook stops nodes later
      after)
    (scanning : Scanning sheets values progress workbook) (whole : later.truncated = false) :
    Scanning sheets values later after ∧
      List.Forall₂ (fun address node => settled sheets address = .ok (Node.address node))
        addresses nodes ∧
      ∀ level < depth, ∀ node ∈ nodes.flatMap (Node.atDepth level), node.isCircular = false →
        node.children.map Node.address = (Reader.referringTo sheets node.address).map
          Reader.address := by
  induction course with
  | done => exact ⟨scanning, .nil, by simp⟩
  | again reads old further ih =>
    obtain ⟨_, shows⟩ := readCell_gives scanning.shows reads
    obtain ⟨kept, named, children⟩ := ih ⟨shows, scanning.lists⟩ whole
    refine ⟨kept, .cons (readCell_settled scanning.shows reads) named,
      fun level short node member plain => ?_⟩
    rcases List.mem_append.1 member with here | later
    · cases level with
      | zero =>
        obtain rfl := List.mem_singleton.1 here
        cases plain
      | succ level => cases here
    · exact children level short node later plain
  | constant reads new direction => cases direction
  | last reads new follows further ih =>
    obtain ⟨_, shows⟩ := readCell_gives scanning.shows reads
    obtain ⟨kept, named, children⟩ := ih ⟨shows, scanning.lists⟩ whole
    exact ⟨kept, .cons (readCell_settled scanning.shows reads) named, fun level short =>
      absurd short (by simp)⟩
  | expanded reads new follows finds descends further inner ih =>
    obtain ⟨known, shows⟩ := readCell_gives scanning.shows reads
    -- What is not truncated in the end was not truncated here, and so all that was found was
    -- requested.
    have below := whole
    rw [further.truncated_eq, Bool.or_eq_false_iff] at below
    have entered := below.1
    rw [descends.truncated_eq, Bool.or_eq_false_iff] at entered
    obtain ⟨found, uncut⟩ := Bool.or_eq_false_iff.1 entered.1
    rw [finds.truncated_eq, Bool.or_eq_false_iff] at found
    obtain ⟨plain, listed, scanned⟩ :=
      finds.scanning well inGrid differ known (scanning.enter shows _) found.2
    have requested := Snapshot.requested_eq uncut
    rw [listed, Reader.distinct_referringTo well plain] at requested
    obtain ⟨kept, named, children⟩ := inner ⟨scanned.shows, scanned.lists⟩ below.1
    obtain ⟨final, others, rest⟩ := ih kept whole
    rw [requested] at named
    refine ⟨final, .cons (readCell_settled scanning.shows reads) others,
      fun level short node member unmarked => ?_⟩
    rcases List.mem_append.1 member with here | later
    · cases level with
      | zero =>
        obtain rfl := List.mem_singleton.1 here
        exact Reader.addresses_of_settled well plain (Reader.referringTo_subset _ _) named
      | succ level => exact children level (Nat.lt_of_succ_lt_succ short) node here unmarked
    · exact rest level short node later unmarked

end Walk

namespace Trace

open OpenWorkbook

variable {sheets : List Sheet} {values : Option (List Sheet)} {limits : Limits} {target : Target}
  {depth : Value} {trace : Trace} {after : OpenWorkbook}

/-- The children of every cell that a trace of dependents expands without truncation are the formula
cells that refer to it, sheet by sheet and row by row. -/
theorem request_children_eq (well : WellFormedSheets sheets)
    (inGrid : ∀ sheet ∈ sheets, sheet.last.InGrid)
    (differ : (sheets.map fun sheet => sheetKey sheet.title).Nodup)
    (given : (request source limits target (some "dependents") depth).Gives
      (start sheets values none) trace after)
    (whole : trace.truncated = false) :
    ∃ root, trace.root = some root ∧
      ∀ level < trace.maxDepth.toNat, ∀ node ∈ root.atDepth level, node.isCircular = false →
        node.children.map Node.address = (Reader.referringTo sheets node.address).map
          Reader.address := by
  obtain ⟨address, stops, _, named, course⟩ := request_course given
  have direction : trace.mode = .dependents := Mode.name_injective (Option.some.inj named).symm
  cases course with
  | bare reads follows =>
    rw [direction] at follows
    cases follows
  | @rooted root _ _ _ walked rooted truncated =>
    rw [direction] at walked
    rw [truncated] at whole
    have started : Walk.Scanning sheets values {} (start sheets values none) :=
      ⟨shows_start well.spanned, nofun⟩
    obtain ⟨_, _, children⟩ := walked.children_eq well inGrid differ started whole
    exact ⟨root, rooted, fun level short node member =>
      children level short node (by simpa using member)⟩

theorem request_children_eq_ledger :
    ∃ trace root after,
      (request source {} (.text "data!A1") (some "dependents") .blank).Gives
        (start ledger none none) trace after ∧
      trace.truncated = false ∧ trace.root = some root ∧ root.children.map Node.address =
        ["'Sum 1'!A1"] ∧
      ∀ level < trace.maxDepth.toNat, ∀ node ∈ root.atDepth level, node.isCircular = false →
        node.children.map Node.address = (Reader.referringTo ledger node.address).map
          Reader.address := by
  obtain ⟨trace, after, given, found⟩ := Reading.exists_gives
    (show (((request source {} (.text "data!A1") (some "dependents") .blank).run.run
      (start ledger none none)).1.toOption.any fun trace => !trace.truncated &&
        trace.root.any fun root => root.children.map Node.address = ["'Sum 1'!A1"]) = true by
      decide +kernel)
  obtain ⟨whole, shown⟩ := Bool.and_eq_true_iff.1 found
  have whole : trace.truncated = false := by simpa using whole
  obtain ⟨root, rooted, children⟩ := request_children_eq ledger_wellFormed (by decide +kernel)
    (by decide +kernel) given whole
  rw [rooted] at shown
  exact ⟨trace, root, after, given, whole, rooted, of_decide_eq_true shown, children⟩

/-- A formula on a sheet whose title differs from another only in its outer white space. -/
def padded : List Sheet :=
  [(" S", [⟨⟨0, 0⟩, .text "=T!A1", none⟩]), ("S", [⟨⟨0, 0⟩, .int 1, none⟩]),
    ("T", [⟨⟨0, 0⟩, .int 5, none⟩])].map
    fun entry : String × List Entry => Sheet.ofEntries entry.1 entry.2

/-- In place of the sheet with the formula a scan reads the other one again, and the formula is
missing. -/
theorem request_padded_misses :
    WellFormedSheets padded ∧ (∀ sheet ∈ padded, sheet.last.InGrid) ∧
    ∃ trace root after,
      (request source {} (.text "T!A1") (some "dependents") (.int 1)).Gives (start padded none none)
        trace after ∧
      trace.truncated = false ∧ trace.maxDepth = 1 ∧ trace.root = some root ∧
        root.address = "T!A1" ∧
      root.isCircular = false ∧ root.children.map Node.address = [] ∧
      (Reader.referringTo padded "T!A1").map Reader.address = ["' S'!A1"] := by
  refine ⟨wellFormedSheets_ofEntries (by decide) (by decide), by decide +kernel, ?_⟩
  obtain ⟨trace, after, given, found⟩ := Reading.exists_gives
    (show (((request source {} (.text "T!A1") (some "dependents") (.int 1)).run.run
      (start padded none none)).1.toOption.any fun trace =>
        trace.root.any (fun root => root.address = "T!A1" &&
        !root.isCircular && root.children.isEmpty) && !trace.truncated && trace.maxDepth = 1) =
          true by
      decide +kernel)
  simp only [Bool.and_eq_true, decide_eq_true_eq, Bool.not_eq_true', Option.any_eq_true] at found
  obtain ⟨⟨⟨root, rooted, ⟨named, unmarked⟩, bare⟩, whole⟩, bound⟩ := found
  refine ⟨trace, root, after, given, whole, bound, rooted, named, unmarked, ?_, by decide +kernel⟩
  rw [List.isEmpty_iff.1 bare]
  rfl

end Trace

end FormulaTrace
