import FormulaTrace.Proofs.Trace.IndexedPrecedents
import FormulaTrace.Proofs.Trace.Settling
import FormulaTrace.Proofs.Trace.Shape
import FormulaTrace.Proofs.Trace.Truncation
import FormulaTrace.Proofs.Workbook.Anchors
import FormulaTrace.Proofs.Workbook.Expansion

/-! Whether the children of a node are different cells.
What is asked for below a node are different addresses, but an address keeps the name of its sheet
as it was spelled, and a workbook takes names for one another that differ only in case and in outer
white space.  So two children are one cell just if their places are the same and their sheets are
spelled in two ways. -/
namespace FormulaTrace
open Text OpenWorkbook

namespace Formula

/-- References that start at one cell spell its sheet in one way. -/
def SpelledAlike (formula owner : String) : Prop :=
  ∀ first ∈ references formula owner, ∀ second ∈ references formula owner,
    first.left = second.left → first.top = second.top →
      sheetKey first.sheet = sheetKey second.sheet → readSheet first.sheet = readSheet second.sheet

instance (formula owner : String) : Decidable (SpelledAlike formula owner) :=
  inferInstanceAs (Decidable
    (∀ first ∈ references formula owner, ∀ second ∈ references formula owner,
    first.left = second.left → first.top = second.top →
      sheetKey first.sheet = sheetKey second.sheet →
      readSheet first.sheet = readSheet second.sheet))

end Formula

def spelled (sheet : String) (place : Position) : String :=
  qualify (readSheet sheet) (addressText place.col place.row)

variable {sheets : List Sheet} {values : Option (List Sheet)} {limits : Limits}
  {limit? : Option Int}

theorem spelled_inj {sheet other : String} {place spot : Position} :
    spelled sheet place = spelled other spot ↔ readSheet sheet = readSheet other ∧
      place = spot := by
  constructor
  · intro same
    obtain ⟨names, places⟩ := qualify_injective (isPlace_addressText _ _)
      (isPlace_addressText _ _) same
    exact ⟨names, addressText_injective places⟩
  · rintro ⟨names, rfl⟩
    rw [spelled, names]
    rfl

theorem titleIn_of_sheetKey_eq {name other title : String}
    (found : titleIn sheets (some name) = .ok title) (same : sheetKey name = sheetKey other) :
    titleIn sheets (some other) = .ok title := by
  have meant := titleIn_some found
  have lowered : lower (String.ofList (trim name.toList)).toList = lower
      (String.ofList (trim other.toList)).toList := by
    rw [String.toList_ofList, String.toList_ofList]
    exact String.ofList_injective same
  have titles : (⟨sheets, none, none⟩ : OpenWorkbook).titles = sheets.map Sheet.title := rfl
  unfold titleIn findTitle
  rw [titles, Option.getD_some, ← titleFor?_congr _ lowered, meant]

/-- Cells that are asked for are known as one cell just if they have one place and sheets with one
key. -/
theorem settled_spelled_iff {sheet other known known' : String} {place spot : Position}
    (named : sheet ≠ "") (named' : other ≠ "") (inside : place.InGrid) (inside' : spot.InGrid)
    (settles : settled sheets (spelled sheet place) = .ok known)
    (settles' : settled sheets (spelled other spot) = .ok known') :
    known = known' ↔ sheetKey sheet = sheetKey other ∧ place = spot := by
  obtain ⟨title, meant, rfl⟩ := settled_place (readSheet_ne_empty named) inside settles
  obtain ⟨title', meant', rfl⟩ := settled_place (readSheet_ne_empty named') inside' settles'
  have key : sheetKey title = sheetKey sheet := by
    rw [sheetKey_of_titleIn meant, sheetKey_readSheet, sheetKey_readSheet]
  have key' : sheetKey title' = sheetKey other := by
    rw [sheetKey_of_titleIn meant', sheetKey_readSheet, sheetKey_readSheet]
  constructor
  · intro same
    obtain ⟨rfl, places⟩ := qualify_injective (isPlace_addressText _ _)
      (isPlace_addressText _ _) same
    exact ⟨key.symm.trans key', addressText_injective places⟩
  · rintro ⟨keys, rfl⟩
    have read : sheetKey (readSheet (readSheet sheet)) = sheetKey
        (readSheet (readSheet other)) := by
      simpa only [sheetKey_readSheet] using keys
    rw [Except.ok.inj ((titleIn_of_sheetKey_eq meant read).symm.trans meant')]

theorem map_settled {asked : List String} {nodes : List Node}
    (settles : List.Forall₂ (fun address node => settled sheets address = .ok (Node.address node))
      asked nodes) :
    asked.map (settled sheets) = (nodes.map Node.address).map Except.ok := by
  induction settles with
  | nil => rfl
  | cons here _ ih => simp only [List.map_cons, here, ih]

/-- Nodes are different cells just if addresses that were asked for and are known as one are one. -/
theorem nodup_iff_of_settles {asked : List String} {nodes : List Node}
    (settles : List.Forall₂ (fun address node => settled sheets address = .ok (Node.address node))
      asked nodes) (differ : asked.Nodup) :
    (nodes.map Node.address).Nodup ↔
      ∀ first ∈ asked, ∀ second ∈ asked, settled sheets first = settled sheets second →
        first = second := by
  have outcomes : (nodes.map Node.address).Nodup ↔ (asked.map (settled sheets)).Nodup := by
    rw [map_settled settles]
    exact (List.nodup_map_iff fun _ _ => Except.ok.inj).symm
  rw [outcomes, List.nodup_map_iff_inj_on differ]

theorem canonical?_anchorAddress {formula owner : String} (named : owner ≠ "") {area : Area}
    (member : area ∈ Formula.references formula owner) (home : String) :
    ∃ place : Position, place.InGrid ∧ area.left = place.col ∧ area.top = place.row ∧
      canonical? area.anchorAddress home = some (spelled area.sheet place) := by
  obtain ⟨place, inside, left, top⟩ := Formula.exists_first_of_mem_references member
  refine ⟨place, inside, left, top, ?_⟩
  rw [Area.anchorAddress, Area.anchor, left, top]
  exact canonical?_place (Formula.placed_of_mem_references named member).named inside home

theorem exists_spelled_of_canonical? {title : String} (named : title ≠ "") {place : Position}
    {home address : String}
    (canonical : canonical? (qualify title (addressText place.col place.row)) home = some address) :
    ∃ spot : Position, spot.InGrid ∧ address = spelled title spot := by
  unfold canonical? at canonical
  obtain ⟨cell, read, rfl⟩ := Option.map_eq_some_iff.1 canonical
  have inside := Cell.inGrid_of_read? read
  rw [read?_qualify_addressText named] at read
  obtain ⟨spot, _, rfl⟩ := Option.map_eq_some_iff.1 read
  exact ⟨⟨spot.col, spot.row⟩, inside, rfl⟩

namespace Walk

variable {mode : Mode} {snapshot : Snapshot} {finding : Finding} {node : Node}

theorem Expands.exists_settled {index : Option Index}
    (expands : Expands sheets values index limits mode snapshot finding node) {address : String}
    (member : address ∈ snapshot.requested limits finding) :
    ∃ known, settled sheets address = .ok known := by
  obtain ⟨child, _, settles⟩ := exists_mem_zip expands.settles member
  exact ⟨_, settles⟩

variable (well : WellFormedSheets sheets)
include well

theorem home_eq_title {sheet : Sheet} {place : Position}
    (tells : Tells sheets sheet place snapshot) :
    snapshot.home = sheet.title := by
  unfold Snapshot.home
  rw [tells.separate_address (well.named sheet tells.listed)]
  rfl

theorem Expands.distinct_eq
    (expands : Expands sheets values (limit?.map fun limit => Index.ofSheets limit sheets)
      limits .precedents snapshot finding node) :
    snapshot.home ≠ "" ∧ ∃ formula, snapshot.formula = some formula ∧
      snapshot.distinct finding.addresses =
      snapshot.distinct ((Formula.references formula snapshot.home).map Area.anchorAddress) := by
  have told := expands.told
  have follows := expands.follows rfl
  obtain ⟨sheet, place, tells⟩ := expands.told
  have named := well.named sheet tells.listed
  have home := home_eq_title well tells
  refine ⟨home ▸ named, ?_⟩
  obtain ⟨progress, workbook, later, after, going, finds⟩ := expands.finds
  cases written : snapshot.formula with
  | none =>
    rw [hasFormula, written] at follows
    cases follows
  | some formula =>
    refine ⟨formula, rfl, ?_⟩
    cases finds with
    | @told _ _ _ _ groups asked =>
      obtain ⟨same, _⟩ := indexed_told well told going.shows asked
      cases limit? with
      | none => cases same
      | some limit =>
        have member := tells.reader (well.spanned sheet tells.listed) written
        have address : snapshot.address = (⟨sheet.title, place, formula⟩ : Reader).address :=
          tells.address
        have known : groups = (Index.ofSheets limit sheets).precedents snapshot.address :=
          Option.some.inj same
        rw [address, Index.precedents_ofSheets well.differ member] at known
        have texts : (Finding.told groups).addresses = (Formula.references formula sheet.title).map
            Area.text := by
          rw [Finding.addresses, known, ← List.flatMap_def, ← List.map_eq_flatMap]
          rfl
        unfold Snapshot.distinct
        rw [texts, home, filterMap_texts _ fun area => Formula.placed_of_mem_references named]
    | parsed asked parsed =>
      cases written.symm.trans parsed
      rfl
    | unwritten asked unwritten =>
      rw [follows] at unwritten
      cases unwritten

theorem Expands.exists_sheet
    (expands : Expands sheets values (limit?.map fun limit => Index.ofSheets limit sheets)
      limits .dependents snapshot finding node) {address : String}
    (member : address ∈ snapshot.requested limits finding) :
    ∃ sheet ∈ sheets, ∃ place : Position, place.InGrid ∧ address = spelled sheet.title place := by
  have told := expands.told
  obtain ⟨home, spot, tells⟩ := expands.told
  obtain ⟨progress, workbook, later, after, going, finds⟩ := expands.finds
  have onward := finds.going well told going
  obtain ⟨raw, found, canonical⟩ :=
    Snapshot.mem_distinct.1 (snapshot.requested_subset limits finding member)
  obtain ⟨sheet, listed, place, rfl⟩ : ∃ sheet ∈ sheets, ∃ place : Position,
      raw = qualify sheet.title (addressText place.col place.row) := by
    cases finds with
    | @told _ _ _ _ groups asked =>
      obtain ⟨same, _⟩ := indexed_told well told going.shows asked
      cases limit? with
      | none => cases same
      | some limit =>
        have known : groups = (Index.ofSheets limit sheets).dependents snapshot.address
            (Cell.read? snapshot.address "") :=
          Option.some.inj same
        have address : snapshot.address = (⟨home.title, spot.col, spot.row⟩ : Cell).address :=
          tells.address
        rw [tells.read?_address (well.named home tells.listed), address] at known
        rw [Finding.addresses, known] at found
        obtain ⟨added, among, rfl, _⟩ := (Index.mem_dependents_ofSheets well.named).1 found
        obtain ⟨sheet, listed, inside⟩ := List.mem_flatMap.1 among
        exact ⟨sheet, listed, added.place, by rw [Reader.address, (Reader.mem_ofSheet.1 inside).1]⟩
    | held asked place held =>
      obtain ⟨candidate, among, rfl⟩ := List.mem_map.1 found
      exact going.onSheets _ held candidate (List.mem_of_mem_filter among)
    | taken asked place unknown took =>
      obtain ⟨candidate, among, rfl⟩ := List.mem_map.1 found
      exact onward.onSheets _ rfl candidate (List.mem_of_mem_filter among)
    | unplaced asked unplaced => cases found
  obtain ⟨place, inside, same⟩ := exists_spelled_of_canonical? (well.named sheet listed) canonical
  exact ⟨sheet, listed, place, inside, same⟩

section Precedents

variable (expands : Expands sheets values (limit?.map fun limit => Index.ofSheets limit sheets)
  limits .precedents snapshot
  finding node) {formula : String} (written : snapshot.formula = some formula)
include expands written

theorem Expands.exists_area {address : String}
    (member : address ∈ snapshot.requested limits finding) :
    ∃ area ∈ Formula.references formula snapshot.home, area.sheet ≠ "" ∧ ∃ place : Position,
      place.InGrid ∧
      area.left = place.col ∧ area.top = place.row ∧ address = spelled area.sheet place := by
  obtain ⟨named, formula', same, distinct⟩ := expands.distinct_eq well
  cases written.symm.trans same
  have found := snapshot.requested_subset limits finding member
  rw [distinct] at found
  obtain ⟨_, raw, canonical⟩ := Snapshot.mem_distinct.1 found
  obtain ⟨area, among, rfl⟩ := List.mem_map.1 raw
  obtain ⟨place, inside, left, top, read⟩ := canonical?_anchorAddress named among snapshot.home
  refine ⟨area, among, (Formula.placed_of_mem_references named among).named, place, inside, left,
    top, ?_⟩
  exact Option.some.inj (canonical.symm.trans read)

theorem Expands.nodup_of_alike (alike : Formula.SpelledAlike formula snapshot.home) :
    (node.children.map Node.address).Nodup := by
  rw [nodup_iff_of_settles expands.settles (snapshot.requested_nodup limits finding)]
  intro first one second other same
  obtain ⟨known, settles⟩ := expands.exists_settled one
  have settles' := same.symm.trans settles
  obtain ⟨area, among, named, place, inside, left, top, rfl⟩ := expands.exists_area well written one
  obtain ⟨area', among', named', spot, inside', left', top', rfl⟩ :=
    expands.exists_area well written other
  obtain ⟨keys, rfl⟩ := (settled_spelled_iff named named' inside inside' settles settles').1 rfl
  exact spelled_inj.2 ⟨alike area among area' among' (left.trans left'.symm)
    (top.trans top'.symm) keys, rfl⟩

theorem Expands.alike_of_nodup (whole : snapshot.omits limits finding = false)
    (differ : (node.children.map Node.address).Nodup) :
    Formula.SpelledAlike formula snapshot.home := by
  obtain ⟨named, formula', same, distinct⟩ := expands.distinct_eq well
  cases written.symm.trans same
  rw [nodup_iff_of_settles expands.settles (snapshot.requested_nodup limits finding)] at differ
  have asked {area : Area} (among : area ∈ Formula.references formula snapshot.home) :
      ∃ place : Position, place.InGrid ∧ area.left = place.col ∧ area.top = place.row ∧
        spelled area.sheet place ∈ snapshot.requested limits finding := by
    obtain ⟨place, inside, left, top, read⟩ := canonical?_anchorAddress named among snapshot.home
    refine ⟨place, inside, left, top, ?_⟩
    rw [Snapshot.requested_eq whole, distinct]
    exact Snapshot.mem_distinct.2 ⟨_, List.mem_map_of_mem among, read⟩
  intro first one second other lefts tops keys
  obtain ⟨place, inside, left, top, member⟩ := asked one
  obtain ⟨spot, inside', left', top', member'⟩ := asked other
  obtain rfl : place = spot := by apply Position.ext <;> omega
  obtain ⟨known, settles⟩ := expands.exists_settled member
  obtain ⟨known', settles'⟩ := expands.exists_settled member'
  have onSheet := (Formula.placed_of_mem_references named one).named
  have onSheet' := (Formula.placed_of_mem_references named other).named
  obtain rfl := (settled_spelled_iff onSheet onSheet' inside inside' settles settles').2 ⟨keys, rfl⟩
  exact (spelled_inj.1 (differ _ member _ member' (settles.trans settles'.symm))).1

end Precedents

/-- Where no two titles have one key, the cells of a trace of dependents are spelled by their
titles. -/
theorem Expands.nodup_of_titles
    (expands : Expands sheets values (limit?.map fun limit => Index.ofSheets limit sheets)
      limits .dependents snapshot finding node)
    (differ : (sheets.map fun sheet => sheetKey sheet.title).Nodup) :
        (node.children.map Node.address).Nodup := by
  rw [nodup_iff_of_settles expands.settles (snapshot.requested_nodup limits finding)]
  intro first one second other same
  obtain ⟨known, settles⟩ := expands.exists_settled one
  have settles' := same.symm.trans settles
  obtain ⟨sheet, listed, place, inside, rfl⟩ := expands.exists_sheet well one
  obtain ⟨sheet', listed', spot, inside', rfl⟩ := expands.exists_sheet well other
  have named := well.named sheet listed
  have named' := well.named sheet' listed'
  obtain ⟨keys, rfl⟩ := (settled_spelled_iff named named' inside inside' settles settles').1 rfl
  obtain rfl := List.inj_on_of_nodup_map differ listed listed' keys
  rfl

end Walk

def Node.home (node : Node) : String := (separate node.address).1.getD ""

namespace Trace

variable {target : Target} {mode : Option String} {depth : Value} {trace : Trace}
  {workbook after : OpenWorkbook}

/-- In a trace of precedents the children of a node are different cells if the references of its
formula that start at one cell spell its sheet in one way, and where nothing was left out only then.
In a trace of dependents they are different cells if no two titles differ only in case and in outer
white space. -/
theorem children_differ (well : WellFormedSheets sheets)
    (shows : Shows sheets values (limit?.map fun limit => Index.ofSheets limit sheets) workbook)
    (given : (request source limits target mode depth).Gives workbook trace after)
    {root node : Node} (rooted : trace.root = some root) (inside : node ∈ root.preorder) :
    (trace.mode = .precedents → node.children = [] ∨ ∃ formula, node.formula = some formula ∧
      (Formula.SpelledAlike formula node.home → (node.children.map Node.address).Nodup) ∧
      (trace.truncated = false → (node.children.map Node.address).Nodup →
        Formula.SpelledAlike formula node.home)) ∧
    (trace.mode = .dependents → (sheets.map fun sheet => sheetKey sheet.title).Nodup →
      (node.children.map Node.address).Nodup) := by
  obtain ⟨address, asked, stops, progress, _, _, made, walked⟩ := request_walked given rooted
  have truncated : trace.truncated = progress.truncated := by rw [made]; rfl
  rw [← Node.preorderAll_singleton] at inside
  have grows := walked.grows well (.start shows) node inside
  rcases grows with none | ⟨snapshot, finding, member, expands⟩
  · refine ⟨fun _ => .inl none, fun _ _ => ?_⟩
    rw [none]
    exact List.nodup_nil
  · have home : node.home = snapshot.home :=
      congrArg (fun address => (separate address).1.getD "") expands.address
    rw [expands.formula, home]
    constructor
    · intro direction
      rw [direction] at expands
      obtain ⟨_, formula, written, _⟩ := expands.distinct_eq well
      refine .inr ⟨formula, written, expands.nodup_of_alike well written, fun whole => ?_⟩
      rw [truncated, walked.truncated_eq, Bool.or_eq_false_iff, List.any_eq_false] at whole
      have uncut := whole.2 _ member
      rw [Bool.not_eq_true, Stop.cuts, Bool.or_eq_false_iff] at uncut
      exact expands.alike_of_nodup well written uncut.1
    · intro direction
      rw [direction] at expands
      exact expands.nodup_of_titles well

/-- A formula that spells a sheet in two ways and one that spells it in one way, both with two
references that start at one cell. -/
def spellings : List Sheet :=
  [("Data", [⟨⟨0, 0⟩, .int 1, none⟩]),
    ("Out", [⟨⟨0, 0⟩, .text "=Data!A1:A2+data!A1", none⟩,
      ⟨⟨1, 0⟩, .text "=Data!A1:A2+'Data'!A1+Data!A2", none⟩])].map
    fun entry : String × List Entry => Sheet.ofEntries entry.1 entry.2

theorem spellings_wellFormed : WellFormedSheets spellings :=
  wellFormedSheets_ofEntries (by decide) (by decide)

theorem children_differ_spellings :
    ∃ trace root after,
      (request source {} (.text "Out!B1") (some "precedents") .blank).Gives
        (start spellings none none) trace after ∧
      trace.root = some root ∧ root.children.map Node.address = ["Data!A1", "Data!A2"] ∧
      (root.children.map Node.address).Nodup := by
  obtain ⟨trace, root, after, given, rooted, checked⟩ := exists_rooted
    (show ((request source {} (.text "Out!B1") (some "precedents") .blank).run.run
      (start spellings none none)).1.toOption.any
        (fun trace => trace.root.isSome && decide (trace.mode = .precedents ∧
        trace.root.any (fun root => root.formula = some "=Data!A1:A2+'Data'!A1+Data!A2" ∧
          root.home = "Out" ∧
          root.children.map Node.address = ["Data!A1", "Data!A2"]))) = true by decide +kernel)
  rw [rooted] at checked
  simp only [Option.any_some, decide_eq_true_eq] at checked
  obtain ⟨direction, formula, home, children⟩ := checked
  have shows : Shows spellings none (none.map fun limit => Index.ofSheets limit spellings)
      (start spellings none none) :=
    shows_start spellings_wellFormed.spanned
  have inside : root ∈ root.preorder := by
    cases root
    exact List.mem_cons_self
  rcases (children_differ spellings_wellFormed shows given rooted inside).1
    direction with none | ⟨_, same, differ, _⟩
  · rw [none] at children
    cases children
  · cases formula.symm.trans same
    rw [home] at differ
    exact ⟨trace, root, after, given, rooted, children, differ (by decide +kernel)⟩

/-- A cell that is mentioned with its sheet in capitals and in small letters is a child twice, once
as a circular one. -/
theorem children_coincide :
    ∃ trace root after,
      (request source {} (.text "Out!A1") (some "precedents") .blank).Gives
        (start spellings none none) trace after ∧
      trace.root = some root ∧ root.children.map Node.address = ["Data!A1", "Data!A1"] ∧
      root.children.map Node.isCircular = [false, true] ∧
        ¬ (root.children.map Node.address).Nodup := by
  obtain ⟨trace, root, after, given, rooted, checked⟩ := exists_rooted
    (show ((request source {} (.text "Out!A1") (some "precedents") .blank).run.run
      (start spellings none none)).1.toOption.any
        (fun trace => trace.root.isSome && decide (trace.root.any fun root =>
          root.children.map Node.address = ["Data!A1", "Data!A1"] ∧
            root.children.map Node.isCircular = [false, true])) = true by decide +kernel)
  rw [rooted] at checked
  simp only [Option.any_some, decide_eq_true_eq] at checked
  obtain ⟨children, circular⟩ := checked
  exact ⟨trace, root, after, given, rooted, children, circular, by simp [children]⟩

end Trace

end FormulaTrace
