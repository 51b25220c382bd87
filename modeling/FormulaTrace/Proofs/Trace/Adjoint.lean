import FormulaTrace.Proofs.Address.RoundTrip
import FormulaTrace.Proofs.Trace.ScannedDependents
import FormulaTrace.Proofs.Trace.Settling
import FormulaTrace.Proofs.Trace.Shape
import FormulaTrace.Proofs.Workbook.Anchors

/-! Precedents and dependents in workbooks without an index.
A trace of precedents goes from a formula to the cells it refers to, one of dependents from a cell
to the formulas that refer to it.  A formula cell that was read is on a sheet that its own title
means, and such a sheet is scanned under this title; so the second trace finds what the first one
started from. -/
namespace FormulaTrace
open Text OpenWorkbook

variable {sheets : List Sheet} {values : Option (List Sheet)}

namespace Reader

/-- The formula cells on sheets that their own titles mean which refer to a cell. -/
def ReferTo (sheets : List Sheet) (reader known : String) : Prop :=
  ∃ added ∈ referringTo sheets known, added.address = reader ∧ titleIn sheets (some added.sheet) =
    .ok added.sheet

theorem exists_areas_of_refersTo {reader : Reader} {address : String}
    (refers : Formula.refersTo reader.formula reader.sheet address = true) :
    ∃ cell, Cell.read? address reader.sheet = some cell ∧ Formula.anyContains reader.areas cell =
      true := by
  unfold Formula.refersTo at refers
  split at refers
  next cell read => exact ⟨cell, read, refers⟩
  next => cases refers

theorem candidate?_of_anyContains {reader : Reader} {cell : Cell}
    (holds : Formula.anyContains reader.areas cell = true) :
    reader.candidate? = some ⟨reader.address, reader.areas⟩ := by
  unfold candidate?
  split
  next none =>
    rw [none] at holds
    cases holds
  next area areas some => rw [some]

end Reader

theorem ne_empty_of_titleIn (well : WellFormedSheets sheets) {name title : String}
    (meant : titleIn sheets (some name) = .ok title) : title ≠ "" := by
  have listed := List.mem_reverse.1 (List.mem_of_find?_eq_some (titleIn_some meant))
  obtain ⟨sheet, inside, rfl⟩ := List.mem_map.1 listed
  exact well.named sheet inside

namespace Walk

variable {limits : Limits} {depth : Nat} {addresses : List String} {progress later : Progress}
  {workbook after : OpenWorkbook} {stops : List Stop} {nodes : List Node} {mode : Mode}

variable (well : WellFormedSheets sheets) {snapshot : Snapshot}

theorem exists_area_of_requested {areas : List Area} {address : String}
    (member : address ∈ snapshot.requested limits (.parsed areas)) :
    ∃ area ∈ areas, canonical? area.anchorAddress snapshot.home = some address := by
  obtain ⟨_, found, canonical⟩ :=
    Snapshot.mem_distinct.1 (snapshot.requested_subset limits _ member)
  obtain ⟨area, among, rfl⟩ := List.mem_map.1 found
  exact ⟨area, among, canonical⟩

include well

/-- The cells that a walk requests below a cell with a formula are cells that the formula refers
to. -/
theorem referTo_of_requested {formula address known : String} (told : Known sheets snapshot)
    (written : snapshot.formula = some formula)
    (member : address ∈ snapshot.requested limits
      (.parsed (Formula.references formula snapshot.home)))
    (settles : settled sheets address = .ok known) :
    Reader.ReferTo sheets snapshot.address known := by
  obtain ⟨sheet, place, tells⟩ := told
  have named := well.named sheet tells.listed
  have home : snapshot.home = sheet.title := by
    unfold Snapshot.home
    rw [tells.separate_address named]
    rfl
  obtain ⟨area, among, canonical⟩ := exists_area_of_requested member
  rw [home] at among canonical
  obtain ⟨title, spot, own, inside, rfl, holds⟩ :=
    exists_cell_of_settled named among canonical settles
  have read := read?_address (ne_empty_of_titleIn well own)
    (facts_of_titleIn own).1 inside sheet.title
  refine ⟨⟨sheet.title, place, formula⟩,
    List.mem_filter.2 ⟨tells.reader (well.spanned sheet tells.listed) written, ?_⟩,
    tells.address.symm, titleIn_self tells.ends tells.meant⟩
  unfold Formula.refersTo
  rw [read]
  exact List.any_eq_true.2 ⟨area, among, holds⟩

/-- In a trace of precedents every node refers to its children. -/
theorem Course.children_referred
    (course : Course source limits .precedents depth addresses progress workbook stops nodes later
      after) (going : Going sheets values none progress workbook) :
    ∀ node ∈ Node.preorderAll nodes, ∀ child ∈ node.children,
      (∃ spelled, settled sheets spelled = .ok child.address) ∧
        Reader.ReferTo sheets node.address child.address := by
  intro node inside child below
  rcases course.grows well going node inside with none | ⟨snapshot, finding, _, expands⟩
  · rw [none] at below
    cases below
  · obtain ⟨address, requested, settles⟩ := exists_left_of_mem expands.settles below
    obtain ⟨_, _, _, _, between, finds⟩ := expands.finds
    rw [expands.address]
    cases finds with
    | told asked =>
      obtain ⟨same, _⟩ := asked.det (unindexed_gives between.shows _ _ _)
      cases same
    | parsed asked written filled =>
      exact ⟨⟨address, settles⟩, referTo_of_requested well expands.told written requested settles⟩
    | unwritten asked unwritten =>
      rw [expands.follows rfl] at unwritten
      cases unwritten

variable (inGrid : ∀ sheet ∈ sheets, sheet.last.InGrid)
include inGrid

/-- Formula cells that refer to a cell are among the cells that an inventory without skipped sheets
finds for it. -/
theorem mem_listed_of_referTo {target : Cell} {budget : Int} {inventory : Inventory}
    {chosen : List String}
    {grids : List (Option FormulaGrid)} {reader : String} (told : Known sheets snapshot)
    (place : Cell.read? snapshot.address "" = some target)
    (loads : Inventory.Loads source budget workbook chosen grids inventory after)
    (shows : Shows sheets values none workbook) (whole : inventory.skipped = [])
    (refers : Reader.ReferTo sheets reader snapshot.address) (taken : Option Inventory) :
    reader ∈ (Finding.listed target inventory.candidates taken).addresses := by
  obtain ⟨added, member, rfl, own⟩ := refers
  obtain ⟨listed, refers⟩ := List.mem_filter.1 member
  obtain ⟨cell, read, holds⟩ := Reader.exists_areas_of_refersTo refers
  obtain ⟨_, _, tells⟩ := told
  have known := tells.read?_address (well.named _ tells.listed)
  rw [known] at read place
  cases place
  cases read
  obtain ⟨sheet, among, inside⟩ := List.mem_flatMap.1 listed
  obtain ⟨title, _, _, worksheet⟩ := Reader.mem_ofSheet.1 inside
  rw [title] at own
  have covered := Inventory.Loads.subset_candidates well among own worksheet (inGrid sheet among)
    loads shows whole
  have candidate := covered
    (List.mem_filterMap.2 ⟨added, inside, Reader.candidate?_of_anyContains holds⟩)
  exact List.mem_map.2 ⟨_, List.mem_filter.2 ⟨candidate, holds⟩, rfl⟩

theorem Finds.mem_addresses_of_referTo {finding : Finding} {reader : String}
    (told : Known sheets snapshot) (shows : Shows sheets values none workbook)
    (first : progress.candidates = none) (whole : finding.skips = false)
    (refers : Reader.ReferTo sheets reader snapshot.address)
    (finds : Finds source limits snapshot .dependents progress workbook finding later after) :
    reader ∈ finding.addresses := by
  have untold := unindexed_gives shows snapshot.address .dependents progress
  cases finds with
  | told asked =>
    obtain ⟨same, _⟩ := asked.det untold
    cases same
  | held asked place known =>
    rw [first] at known
    cases known
  | @taken _ _ _ _ _ inventory asked place unknown took =>
    obtain ⟨_, rfl⟩ := asked.det untold
    obtain ⟨chosen, grids, loads⟩ := Inventory.take_loads took
    have skipped : inventory.skipped = [] := by
      simpa [Finding.skips, Inventory.truncated] using whole
    exact mem_listed_of_referTo well inGrid told place loads shows skipped refers _
  | unplaced asked unplaced =>
    obtain ⟨sheet, _, tells⟩ := told
    rw [tells.read?_address (well.named sheet tells.listed)] at unplaced
    cases unplaced

theorem mem_distinct_of_referTo {reader known : String} {addresses : List String}
    (refers : Reader.ReferTo sheets reader known) (listed : reader ∈ addresses) :
    reader ∈ snapshot.distinct addresses := by
  obtain ⟨added, member, rfl, own⟩ := refers
  have canonical := Reader.canonical?_address inGrid (List.mem_filter.1 member).1 own well
    snapshot.home
  exact Snapshot.mem_distinct.2 ⟨added.address, listed, canonical⟩

/-- Where nothing is left out, a trace of dependents leads from its root to all formula cells that
refer to it. -/
theorem Course.mem_children_of_referTo {address : String} {root : Node}
    (course : Course source limits .dependents (depth + 1) [address]
      {} workbook stops [root] later after) (shows : Shows sheets values none workbook)
    (whole : later.truncated = false) {reader : String}
    (refers : Reader.ReferTo sheets reader root.address) :
    reader ∈ root.children.map Node.address := by
  have uncut := course.truncated_eq
  rw [whole] at uncut
  cases course with
  | again reads old => cases old
  | constant reads new direction => cases direction
  | expanded reads new follows finds descends further =>
    obtain ⟨told, between⟩ := readCell_gives shows reads
    simp only [Bool.false_or, List.cons_append, List.any_cons] at uncut
    obtain ⟨cut, _⟩ := Bool.or_eq_false_iff.1 uncut.symm
    obtain ⟨omits, skips⟩ := Bool.or_eq_false_iff.1 cut
    have beyond := finds.going well told ((Going.start between).enter _)
    obtain ⟨_, named⟩ := descends.settles well (beyond.noting _)
    rw [Snapshot.requested_eq omits] at named
    have listed := finds.mem_addresses_of_referTo well inGrid told between rfl skips refers
    obtain ⟨child, zipped, settles⟩ :=
      exists_mem_zip named (mem_distinct_of_referTo well inGrid refers listed)
    obtain ⟨added, member, rfl, own⟩ := refers
    rw [Reader.settled_address inGrid (List.mem_filter.1 member).1 own well] at settles
    rw [Except.ok.inj settles]
    exact List.mem_map_of_mem (List.of_mem_zip zipped).2

end Walk

def Target.Means (sheets : List Sheet) (target : Target) (known : String) : Prop :=
  ∃ spelled, target.address = .ok spelled ∧ settled sheets spelled = .ok known

namespace Trace

variable {limits : Limits} {target : Target} {depth : Value} {trace : Trace}
  {workbook after : OpenWorkbook}

theorem request_rooted (given : (request source limits target (some "dependents") depth).Gives
    workbook trace after) :
    ∃ root address stops progress deeper, trace.root = some root ∧ target.address = .ok address ∧
      trace.truncated = progress.truncated ∧
      Walk.Course source limits .dependents (deeper + 1) [address]
        {} workbook stops [root] progress after := by
  obtain ⟨_, _, _, named, course⟩ := request_course given
  have direction : trace.mode = .dependents := Mode.name_injective (Option.some.inj named).symm
  cases course with
  | bare reads follows =>
    rw [direction] at follows
    cases follows
  | @rooted root _ _ _ _ rooted =>
    obtain ⟨address, asked, stops, progress, place, _, made, walked⟩ := request_walked given rooted
    have truncated : trace.truncated = progress.truncated := by rw [made]; rfl
    have bound : trace.maxDepth = limits.boundDepth asked := by rw [made]; rfl
    have least := limits.one_le_boundDepth asked
    obtain ⟨deeper, same⟩ : ∃ deeper, trace.maxDepth.toNat = deeper + 1 :=
      ⟨trace.maxDepth.toNat - 1, by omega⟩
    rw [direction, same] at walked
    exact ⟨root, address, stops, progress, deeper, rooted, place, truncated, walked⟩

theorem means_known (well : WellFormedSheets sheets) {spelled known : String}
    (settles : settled sheets spelled = .ok known) : (Target.text known).Means sheets known := by
  unfold settled at settles
  obtain ⟨title, meant, settles⟩ := Except.bind_eq_ok settles
  obtain ⟨cell, located, settles⟩ := Except.bind_eq_ok settles
  cases settles
  have inside := Cell.inGrid_of_read? (locate_eq_ok located)
  have named := ne_empty_of_titleIn well (titleIn_getD meant)
  obtain ⟨ends, self⟩ := facts_of_titleIn (titleIn_getD meant)
  have single := Cell.singleCell_address ⟨title, cell.col, cell.row⟩ inside named
    (readSheet_eq ends)
  have known := settled_own named (titleIn_self ends self) inside
  have text : (Target.text (⟨title, cell.col, cell.row⟩ : Cell).address).address =
      .ok (⟨title, cell.col, cell.row⟩ : Cell).address := by
    rw [Target.address, single]
    rfl
  exact ⟨_, text, known⟩

/-- The child of a node in a trace of precedents leads back to the node in every trace of dependents
from it that leaves nothing out. -/
theorem precedents_dependents_adjoint (well : WellFormedSheets sheets)
    (inGrid : ∀ sheet ∈ sheets, sheet.last.InGrid) (shows : Shows sheets values none workbook)
    (forth : (request source limits target (some "precedents") depth).Gives workbook trace after)
    {root node child : Node}
    (rooted : trace.root = some root) (inside : node ∈ root.preorder)
    (below : child ∈ node.children) :
    (Target.text child.address).Means sheets child.address ∧
    ∀ {limits' : Limits} {target' : Target} {depth' : Value} {workbook' after' : OpenWorkbook}
      {trace' : Trace}, Shows sheets values none workbook' → target'.Means sheets child.address →
      (request source limits' target' (some "dependents") depth').Gives workbook' trace' after' →
      trace'.truncated = false →
      ∃ root', trace'.root = some root' ∧ root'.address = child.address ∧
        node.address ∈ root'.children.map Node.address := by
  have direction : trace.mode = .precedents := by
    obtain ⟨_, _, _, named, _⟩ := request_course forth
    exact Mode.name_injective (Option.some.inj named).symm
  obtain ⟨_, _, _, _, _, _, _, walked⟩ := request_walked forth rooted
  rw [direction] at walked
  rw [← Node.preorderAll_singleton] at inside
  obtain ⟨⟨spelled, settles⟩, refers⟩ :=
    walked.children_referred well (.start shows) node inside child below
  refine ⟨means_known well settles, ?_⟩
  rintro limits' target' depth' workbook' after' trace' shows' ⟨spelled', place, settles'⟩
    back whole
  obtain ⟨root', address, _, _, _, rooted', place', truncated, walked'⟩ := request_rooted back
  obtain rfl := Except.ok.inj (place.symm.trans place')
  obtain ⟨_, named⟩ := walked'.settles well (.start shows')
  have known : root'.address = child.address := by
    cases named with
    | cons here _ => exact Except.ok.inj (here.symm.trans settles')
  rw [truncated] at whole
  rw [← known] at refers
  exact ⟨root', rooted', known, walked'.mem_children_of_referTo well inGrid shows' whole refers⟩

/-- The sum refers to an amount, and the amount leads back to the sum. -/
theorem precedents_dependents_adjoint_ledger :
    ∃ (trace trace' : Trace) (root root' node child : Node) (after after' : OpenWorkbook),
      (request source {} (.text "'sum 1'!B1") (some "precedents") .blank).Gives
        (start ledger none none) trace after ∧
      trace.root = some root ∧ node ∈ root.preorder ∧ node.address = "'Sum 1'!A1" ∧
        child ∈ node.children ∧
      child.address = "Data!A1" ∧
      (request source {} (.text child.address) (some "dependents") .blank).Gives
        (start ledger none none) trace' after' ∧
      trace'.root = some root' ∧ root'.address = child.address ∧
        node.address ∈ root'.children.map Node.address := by
  obtain ⟨trace, after, forth, found⟩ := Reading.exists_gives
    (show (((request source {} (.text "'sum 1'!B1") (some "precedents") .blank).run.run
      (start ledger none none)).1.toOption.any fun trace => trace.root.any fun root =>
        root.preorder.any fun node => node.address = "'Sum 1'!A1" &&
          node.children.any fun child => child.address = "Data!A1") = true by
      decide +kernel)
  simp only [Option.any_eq_true, List.any_eq_true, Bool.and_eq_true, decide_eq_true_eq] at found
  obtain ⟨root, rooted, node, inside, sum, child, below, amount⟩ := found
  obtain ⟨trace', after', back, whole⟩ := Reading.exists_gives
    (show (((request source {} (.text "Data!A1") (some "dependents") .blank).run.run
      (start ledger none none)).1.toOption.any fun trace => !trace.truncated) = true by
        decide +kernel)
  have shows : Shows ledger none none (start ledger none none) :=
    shows_start ledger_wellFormed.spanned
  obtain ⟨means, returns⟩ := precedents_dependents_adjoint ledger_wellFormed (by decide +kernel)
    shows forth rooted inside below
  rw [← amount] at back
  obtain ⟨root', rooted', known, child'⟩ := returns shows means back (by simpa using whole)
  exact ⟨trace, trace', root, root', node, child, after, after', forth, rooted, inside, sum, below,
    amount, back, rooted', known, child'⟩

end Trace

end FormulaTrace
