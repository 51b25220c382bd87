import FormulaTrace.Proofs.Trace.Beside
import FormulaTrace.Proofs.Workbook.Selection
import FormulaTrace.Proofs.Workbook.Titles

/-! Inventories of open workbooks within a budget of cells.
Used ranges are asked for first and grids are loaded afterwards; neither question changes what the
other answers, so that a grid has just the cells that its range was counted for. -/
namespace FormulaTrace
open Text

section Readings

variable {σ α β : Type} {shown : σ → Prop}

theorem Reading.Answers.mapM {step : β → Reading σ α} {value : β → α} {items : List β}
    (steps : ∀ item ∈ items, Answers shown (step item) (.ok (value item))) :
    Answers shown (items.mapM step) (.ok (items.map value)) := by
  induction items with
  | nil => exact .ofExcept (.ok [])
  | cons item rest ih =>
    obtain ⟨here, others⟩ := List.forall_mem_cons.1 steps
    rw [List.mapM_cons]
    change Answers shown _ (Except.ok (value item) >>= fun first =>
      Except.ok (rest.map value) >>= fun further => Except.ok (first :: further))
    exact here.bind fun _ _ => (ih others).bind fun _ _ => .ofExcept (.ok _)

theorem Reading.Answers.batch {delay : β → σ → Nat} {step : β → Reading σ α} {value : β → α}
    {items : List β} (steps : ∀ item ∈ items, Answers shown (step item) (.ok (value item))) :
    Answers shown (Reading.batch delay step items) (.ok (items.map value)) := by
  have yields : Yields shown (Reading.batch delay step items)
      (List.Forall₂ (fun item told => value item = told) items) :=
    .batch fun item inside => (steps item inside).yields.mono fun _ same => same.symm
  intro state related
  obtain ⟨values, after, given, listed, shows⟩ := yields state related
  obtain rfl : items.map value = values := by
    rw [← List.forall₂_eq_eq_eq, List.forall₂_map_left_iff]
    exact listed
  exact ⟨after, given, shows⟩

namespace Inventory

/-- How an inventory is taken: the used ranges are told, sheets are chosen by them, and their grids
are loaded. -/
inductive Loads (source : Source σ) (budget : Int) (state : σ) :
    List String → List (Option FormulaGrid) → Inventory → σ → Prop
  | taken {named between after : σ} {titles : List String} {ranges : List (Option String)}
      {selection : Selection} {grids : List (Option FormulaGrid)} {candidates : List Candidate}
      (listed : source.sheetNames.Gives state titles named)
      (told : (titles.mapM fun title => do
        source.checkCancelled "Dependents scan cancelled"
        source.usedRange title).Gives named ranges between)
      (selected : select budget (titles.zip ranges) = selection)
      (loaded : (Reading.batch source.delay source.formulaGrid selection.chosen).Gives between grids
        after)
      (read : allCandidates (selection.chosen.zip grids) = .ok candidates) :
      Loads source budget state selection.chosen grids
        ⟨candidates, selection.truncated, selection.skipped⟩ after

theorem checkCancelled_gives {source : Source σ} {message : String} {state after : σ}
    (given : (source.checkCancelled message).Gives state () after) : state = after := by
  unfold Reading.Gives Source.checkCancelled at given
  simp only [ExceptT.run_mk, StateT.run] at given
  split at given
  · cases given
  · cases given
    rfl

theorem take_loads {source : Source σ} {budget : Int} {state after : σ} {inventory : Inventory}
    (given : (take source budget).Gives state inventory after) :
    ∃ chosen grids, Loads source budget state chosen grids inventory after := by
  unfold take at given
  obtain ⟨_, _, checked, given⟩ := Reading.gives_bind.1 given
  obtain rfl := checkCancelled_gives checked
  obtain ⟨titles, named, listed, given⟩ := Reading.gives_bind.1 given
  obtain ⟨ranges, between, told, given⟩ := Reading.gives_bind.1 given
  generalize selected : select budget (titles.zip ranges) = selection at given
  obtain ⟨_, _, checked, given⟩ := Reading.gives_bind.1 given
  obtain rfl := checkCancelled_gives checked
  obtain ⟨grids, last, loaded, given⟩ := Reading.gives_bind.1 given
  obtain ⟨candidates, _, read, given⟩ := Reading.gives_bind.1 given
  obtain ⟨read, rfl⟩ := Reading.gives_ofExcept.1 read
  cases given
  refine ⟨selection.chosen, grids, .taken listed told selected loaded ?_⟩
  cases answer : allCandidates (selection.chosen.zip grids) with
  | error failure =>
    rw [answer] at read
    cases read
  | ok found =>
    rw [answer] at read
    cases read
    rfl

end Inventory

end Readings

/-- What is known of a sheet while used ranges and grids are read. -/
def Sheet.sight (sheet : Sheet) : Sheet.Face × Option Extent := (sheet.face, sheet.used)

namespace OpenWorkbook

variable {sheets : List Sheet} {workbook after : OpenWorkbook} {sheet : Sheet}

/-- An open workbook whose sheets look as some sheets do and have their used ranges. -/
structure Sees (sheets : List Sheet) (workbook : OpenWorkbook) : Prop where
  sights : workbook.sheets.map Sheet.sight = sheets.map Sheet.sight

theorem Sees.titles (sees : Sees sheets workbook) : workbook.titles = sheets.map Sheet.title := by
  have same := congrArg (List.map fun sight : Sheet.Face × Option Extent => sight.1.title)
    sees.sights
  rwa [List.map_map, List.map_map] at same

theorem Sees.exists_sheetNamed (sees : Sees sheets workbook)
    (differ : (sheets.map Sheet.title).Nodup) (listed : sheet ∈ sheets) :
    ∃ current, sheetNamed workbook.sheets sheet.title = some current ∧
      current.face = sheet.face ∧ current.used = sheet.used := by
  have found : sheet.title ∈ workbook.sheets.map Sheet.title := by
    change sheet.title ∈ workbook.titles
    rw [sees.titles]
    exact List.mem_map_of_mem listed
  obtain ⟨current, named⟩ := OpenWorkbook.exists_sheetNamed found
  have sight : current.sight ∈ sheets.map Sheet.sight := by
    rw [← sees.sights]
    exact List.mem_map_of_mem (List.mem_of_find?_eq_some named)
  obtain ⟨other, inside, same⟩ := List.mem_map.1 sight
  obtain ⟨face, used⟩ := Prod.mk.inj same
  have title : other.title = sheet.title :=
    (congrArg Sheet.Face.title face).trans (title_of_sheetNamed named)
  obtain rfl := List.inj_on_of_nodup_map differ inside listed title
  exact ⟨current, named, face.symm, used.symm⟩

theorem Sees.findTitle (sees : Sees sheets workbook) (plain : PlainWorksheets sheets)
    (listed : sheet ∈ sheets) :
    workbook.findTitle (some sheet.title) = .ok sheet.title := by
  have same : workbook.findTitle (some sheet.title) = titleIn sheets (some sheet.title) :=
    findTitle_congr sees.titles _
  rw [same]
  exact titleIn_self (plain.trimmed sheet listed) (titleFor?_self plain.caseless listed)

theorem resolveSheet_bind_keeps {α : Type} {step : Sheet → α × Sheet}
    (kept : ∀ sheet, (step sheet).2.sight = sheet.sight) (name : String) :
    Reading.Keeps (Sees sheets)
      (resolveSheet (some name) >>= fun title => visitSheet title step) := by
  refine Reading.Keeps.bind (fun _ sees => sees) fun title workbook sees => ?_
  rw [visitSheet_leaves]
  exact ⟨(amend_map (Sheet.inCells_view kept) workbook.sheets).trans sees.sights⟩

theorem sight_usedRange (sheet : Sheet) : sheet.usedRange.2.sight = sheet.sight := by
  unfold Sheet.sight
  rw [sheet.usedRange_face, sheet.used_usedRange]

variable (differ : (sheets.map Sheet.title).Nodup) (plain : PlainWorksheets sheets)
  (listed : sheet ∈ sheets)
include differ plain listed

theorem usedRange_sees :
    Reading.Answers (Sees sheets) (usedRange sheet.title) (.ok (sheet.used.map sheet.corners)) := by
  refine .of_outcome (fun workbook sees => ?_) (resolveSheet_bind_keeps sight_usedRange _)
  obtain ⟨current, named, face, used⟩ := sees.exists_sheetNamed differ listed
  rw [usedRange_outcome, sees.findTitle plain listed]
  dsimp only [Except.bind]
  rw [named]
  dsimp only
  rw [used, Sheet.answer_congr face]
  exact Sheet.answer_eq_ok.2 ⟨plain.worksheets sheet listed, rfl⟩

theorem formulaGrid_sees :
    Reading.Answers (Sees sheets) (formulaGrid sheet.title)
      (.ok (sheet.used.map sheet.gridAt)) := by
  have kept (sheet : Sheet) : sheet.grid.2.sight = sheet.sight := by
    rw [sheet.grid_after, sight_usedRange]
  refine .of_outcome (fun workbook sees => ?_) (resolveSheet_bind_keeps kept _)
  obtain ⟨current, named, face, used⟩ := sees.exists_sheetNamed differ listed
  have titles : current.title = sheet.title := congrArg Sheet.Face.title face
  have grids : current.gridAt = sheet.gridAt := by
    funext extent
    unfold Sheet.gridAt
    rw [titles, Sheet.formulas_congr face]
  rw [formulaGrid_outcome, sees.findTitle plain listed]
  dsimp only [Except.bind]
  rw [named]
  dsimp only
  rw [used, grids, Sheet.answer_congr face]
  exact Sheet.answer_eq_ok.2 ⟨plain.worksheets sheet listed, rfl⟩

end OpenWorkbook

theorem Sheet.peek_formula {sheet : Sheet} (spanned : sheet.Spanned) (place : Position) :
    ((sheet.face.peek place).bind fun content => content.value.formula?) =
      (sheet.content place).value.formula? := by
  unfold Face.peek
  split
  next behind =>
    cases written : (sheet.content place).value.formula? with
    | none => rfl
    | some formula =>
      obtain ⟨extent, same, _, across, _, down⟩ := holds_of_formula spanned written
      have last : sheet.face.last = ⟨extent.right, extent.bottom⟩ := by
        unfold face last
        rw [same]
      rw [last] at behind
      dsimp only at behind
      omega
  next => rfl

namespace OpenWorkbook

variable {workbook after : OpenWorkbook} {sheet : Sheet} {budget : Int} {inventory : Inventory}

def candidateAt (workbook : OpenWorkbook) (title : String) (place : Position) : Option Candidate :=
  ((source.readCell (qualify title (addressText place.col place.row))).outcome
      workbook).toOption.bind fun snapshot =>
    snapshot.formula.bind fun formula => Reader.candidate? ⟨title, place, formula⟩

theorem candidateAt_eq (well : WellFormedSheets workbook.sheets)
    (plain : PlainWorksheets workbook.sheets) (listed : sheet ∈ workbook.sheets)
    (valued : workbook.Valued) {place : Position} (inside : place.InGrid) :
    workbook.candidateAt sheet.title place = sheet.candidateAt place := by
  obtain ⟨snapshot, told, tells⟩ := exists_cellAnswer well listed (plain.trimmed sheet listed)
    (titleFor?_self plain.caseless listed) (plain.worksheets sheet listed)
      (valued sheet listed) inside
  unfold candidateAt Sheet.candidateAt
  rw [(Shows.self well.spanned).readCell_outcome, told]
  dsimp only [Except.toOption, Option.bind_some]
  rw [tells.formula, Sheet.peek_formula (well.spanned sheet listed)]

/-- What holds of an inventory that loaded the grids of some sheets within a budget. -/
structure Within (workbook : OpenWorkbook) (budget : Int) (loaded : List Sheet)
    (grids : List FormulaGrid) (inventory : Inventory) : Prop where
  bounded : ((grids.map FormulaGrid.size).sum : Int) ≤ max 0 budget
  inOrder : loaded.Sublist workbook.sheets
  skippedInOrder : inventory.skipped.Sublist workbook.titles
  used : ∀ sheet ∈ workbook.sheets, sheet ∈ loaded ∨ sheet.title ∈ inventory.skipped →
    sheet.used.isSome = true
  parted : ∀ sheet ∈ workbook.sheets, sheet.used.isSome = true →
    (sheet ∈ loaded ↔ sheet.title ∉ inventory.skipped)
  truncated : inventory.truncated = true ↔ inventory.skipped ≠ []
  candidates : inventory.candidates =
    loaded.flatMap fun sheet => gridPlaces.filterMap (workbook.candidateAt sheet.title)
  once : (inventory.candidates.map Candidate.address).Nodup

theorem ranges_sees {sheets : List Sheet} (differ : (sheets.map Sheet.title).Nodup)
    (plain : PlainWorksheets sheets) :
    Reading.Answers (Sees sheets)
      ((sheets.map Sheet.title).mapM fun title => do
        source.checkCancelled "Dependents scan cancelled"
        source.usedRange title)
      (.ok (sheets.map fun sheet => sheet.used.map sheet.corners)) := by
  rw [List.mapM_map]
  refine .mapM fun sheet listed => ?_
  have free : Reading.Answers (Sees sheets) (source.checkCancelled "Dependents scan cancelled")
      (.ok ()) :=
    fun state sees => ⟨state, rfl, sees⟩
  exact free.bind fun _ _ => usedRange_sees differ plain listed

section Loading

variable {sheets passed : List Sheet} {chosen : List (Sheet × Extent)}
  (well : WellFormedSheets sheets) (plain : PlainWorksheets sheets)
  (parted : Inventory.Parted sheets budget chosen passed)
include well plain parted

theorem grids_sees :
    Reading.Answers (Sees sheets)
      (Reading.batch source.delay source.formulaGrid (chosen.map fun entry => entry.1.title))
      (.ok (chosen.map fun entry => some (entry.1.gridAt entry.2))) := by
  rw [Reading.batch_map]
  refine .batch fun entry inside => ?_
  have answers := formulaGrid_sees well.differ plain
    (parted.choice.mem (List.mem_map_of_mem inside))
  rw [parted.used entry inside] at answers
  exact answers

theorem allCandidates_parted :
    Inventory.allCandidates ((chosen.map fun entry => entry.1.title).zip
      (chosen.map fun entry => some (entry.1.gridAt entry.2))) = .ok
        (Candidate.all (chosen.map Prod.fst)) := by
  have each : List.Forall₂ (fun sheet grid => Inventory.sheetCandidates sheet.title grid =
      .ok ((Reader.ofSheet sheet).filterMap Reader.candidate?)) (chosen.map Prod.fst)
        (chosen.map fun entry => some (entry.1.gridAt entry.2)) := by
    rw [List.forall₂_map_left_iff, List.forall₂_map_right_iff, List.forall₂_same]
    intro entry inside
    have listed := parted.choice.mem (List.mem_map_of_mem inside)
    have spanned := well.spanned entry.1 listed
    exact Inventory.sheetCandidates_grid (plain.worksheets entry.1 listed) spanned
      (well.named entry.1 listed) (plain.inGrid entry.1 listed)
      (Sheet.used_extent spanned (parted.used entry inside))
  have found := Inventory.allCandidates_grids each
  rwa [List.map_map] at found

end Loading

theorem take_parted (well : WellFormedSheets workbook.sheets)
    (plain : PlainWorksheets workbook.sheets)
    (given : (Inventory.take source budget).Gives workbook inventory after) :
    ∃ chosen passed, Inventory.Parted workbook.sheets budget chosen passed ∧
      Inventory.Loads source budget workbook (chosen.map fun entry => entry.1.title)
        (chosen.map fun entry => some (entry.1.gridAt entry.2)) inventory after ∧
      inventory = ⟨Candidate.all (chosen.map Prod.fst), !passed.isEmpty,
        passed.map Sheet.title⟩ := by
  obtain ⟨titles, grids, loads⟩ := Inventory.take_loads given
  have whole := loads
  cases loads with
  | taken listed told selected loaded read =>
    cases listed
    obtain ⟨same, sees⟩ := (ranges_sees well.differ plain).gives ⟨rfl⟩ told
    obtain rfl := Except.ok.inj same
    have costs : ∀ sheet ∈ workbook.sheets, ∀ extent, sheet.used = some extent →
        cellTotal (sheet.corners extent) sheet.title = extent.size := by
      intro sheet listed extent used
      exact Inventory.cellTotal_used (well.spanned sheet listed) (well.named sheet listed)
        (plain.inGrid sheet listed) used
    obtain ⟨chosen, passed, parted, parts⟩ := Inventory.select_parted costs budget
    unfold OpenWorkbook.titles at selected
    rw [List.zip_map', parts] at selected
    subst selected
    obtain ⟨same, _⟩ := (grids_sees well plain parted).gives sees loaded
    obtain rfl := Except.ok.inj same
    obtain rfl := Except.ok.inj ((allCandidates_parted well plain parted).symm.trans read)
    exact ⟨chosen, passed, parted, whole, rfl⟩

theorem candidates_eq (well : WellFormedSheets workbook.sheets)
    (plain : PlainWorksheets workbook.sheets) (valued : workbook.Valued) {loaded : List Sheet}
    (listed : ∀ sheet ∈ loaded, sheet ∈ workbook.sheets)
    (used : ∀ sheet ∈ loaded, ∃ extent, sheet.used = some extent) :
    Candidate.all loaded = loaded.flatMap fun sheet =>
      gridPlaces.filterMap (workbook.candidateAt sheet.title) := by
  unfold Candidate.all Reader.all
  rw [List.filterMap_flatMap]
  apply List.flatMap_congr
  intro sheet member
  have inside := listed sheet member
  obtain ⟨extent, used⟩ := used sheet member
  rw [← Sheet.filterMap_gridPlaces (plain.worksheets sheet inside) (well.spanned sheet inside)
    (plain.inGrid sheet inside) (Sheet.used_extent (well.spanned sheet inside) used)]
  apply List.filterMap_congr
  intro place placed
  exact (candidateAt_eq well plain inside valued (mem_gridPlaces.1 placed)).symm

/-- An inventory that is taken loads or skips every sheet that has a used range, within the budget,
and has the formulas with references that are told of the cells of the loaded sheets. -/
theorem take_within (well : WellFormedSheets workbook.sheets)
    (inGrid : ∀ sheet ∈ workbook.sheets, sheet.last.InGrid)
    (differ : (workbook.sheets.map fun sheet => sheetKey sheet.title).Nodup)
    (valued : workbook.Valued)
    (given : (Inventory.take source budget).Gives workbook inventory after) :
    ∃ loaded grids, Inventory.Loads source budget workbook (loaded.map Sheet.title)
      (grids.map some) inventory after ∧ Within workbook budget loaded grids inventory := by
  have plain := plainWorksheets_of_titleIn differ inGrid
    (take_gives (Shows.self well.spanned) given)
  obtain ⟨chosen, passed, parted, loads, rfl⟩ := take_parted well plain given
  have ranged : ∀ sheet ∈ chosen.map Prod.fst, ∃ extent, sheet.used = some extent := by
    intro sheet member
    obtain ⟨entry, inside, rfl⟩ := List.mem_map.1 member
    exact ⟨entry.2, parted.used entry inside⟩
  refine ⟨chosen.map Prod.fst, chosen.map fun entry => entry.1.gridAt entry.2, ?_, ?_⟩
  · rw [List.map_map, List.map_map]
    exact loads
  · exact {
      bounded := by
        rw [List.map_map]
        have sizes : (FormulaGrid.size ∘ fun entry : Sheet × Extent => entry.1.gridAt entry.2) =
            fun entry => entry.2.size := funext fun entry => entry.1.size_gridAt entry.2
        rw [sizes]
        exact parted.fits
      inOrder := parted.choice
      skippedInOrder := parted.rest.map Sheet.title
      used := by
        rintro sheet listed (loaded | skipped)
        · exact (parted.mem_filter_iff.2 (.inl loaded)).2
        · obtain ⟨other, inside, same⟩ := List.mem_map.1 skipped
          obtain rfl := List.inj_on_of_nodup_map well.differ (parted.rest.mem inside) listed same
          exact (parted.mem_filter_iff.2 (.inr inside)).2
      parted := fun sheet listed used => parted.mem_chosen_iff well.differ listed used
      truncated := by simp
      candidates := candidates_eq well plain valued (fun sheet member => parted.choice.mem member)
        ranged
      once := (Reader.addresses_nodup (well.differ.sublist (parted.choice.map Sheet.title))).sublist
        (Reader.candidates_sublist _) }

theorem take_within_ledger :
    ∃ inventory after loaded grids,
      (Inventory.take source 3).Gives (start Trace.ledger none none) inventory after ∧
      inventory.skipped = ["Sum 1"] ∧
      Inventory.Loads source 3 (start Trace.ledger none none) (loaded.map Sheet.title)
        (grids.map some) inventory after ∧
      Within (start Trace.ledger none none) 3 loaded grids inventory := by
  obtain ⟨inventory, after, given, found⟩ := Reading.exists_gives
    (show (((Inventory.take source 3).run.run (start Trace.ledger none none)).1.toOption.any
      fun inventory => inventory.skipped = ["Sum 1"]) = true by decide +kernel)
  have valued : (start Trace.ledger none none).Valued := valued_of_none Trace.ledger_wellFormed rfl
  obtain ⟨loaded, grids, loads, within⟩ := take_within Trace.ledger_wellFormed (by decide +kernel)
    (by decide +kernel) valued given
  exact ⟨inventory, after, loaded, grids, given, of_decide_eq_true found, loads, within⟩

/-- A formula on a sheet whose title differs from that of an empty sheet only in its outer white
space. -/
def shadowed : List Sheet :=
  [(" S", [⟨⟨0, 0⟩, .text "=B1", none⟩]), ("S", [])].map
    fun entry : String × List Entry => Sheet.ofEntries entry.1 entry.2

/-- In place of the used range of the sheet with the formula that of the empty one is told, and the
sheet is neither loaded nor skipped. -/
theorem take_shadowed_misses :
    WellFormedSheets shadowed ∧ (∀ sheet ∈ shadowed, sheet.last.InGrid) ∧
    ∃ inventory after, (Inventory.take source 0).Gives (start shadowed none none) inventory after ∧
      ∀ loaded grids, Inventory.Loads source 0 (start shadowed none none) (loaded.map Sheet.title)
        (grids.map some)
        inventory after → ¬ Within (start shadowed none none) 0 loaded grids inventory := by
  refine ⟨wellFormedSheets_ofEntries (by decide) (by decide), by decide +kernel, ?_⟩
  obtain ⟨inventory, after, given, found⟩ := Reading.exists_gives
    (show (((Inventory.take source 0).run.run (start shadowed none none)).1.toOption.any
      fun inventory => inventory.skipped = []) = true by decide +kernel)
  refine ⟨inventory, after, given, fun loaded grids loads within => ?_⟩
  have unskipped : inventory.skipped = [] := of_decide_eq_true found
  have empty : loaded.map Sheet.title = [] := by
    generalize loaded.map Sheet.title = chosen at loads
    cases loads with
    | taken listed told selected =>
      cases listed
      have ranges := Reading.Gives.check (show
        ((((start shadowed none none).titles.mapM fun title => do
          source.checkCancelled "Dependents scan cancelled"
          source.usedRange title).run.run (start shadowed none none)).1.toOption.all fun ranges =>
            ranges = [none, none]) = true by decide +kernel) told
      rw [of_decide_eq_true ranges] at selected
      exact (congrArg Inventory.Selection.chosen selected).symm
  obtain rfl := List.map_eq_nil_iff.1 empty
  have missed := (within.parted (Sheet.ofEntries " S" [⟨⟨0, 0⟩, .text "=B1", none⟩])
    List.mem_cons_self (by decide +kernel)).2 (by rw [unskipped]; exact List.not_mem_nil)
  cases missed

end OpenWorkbook

end FormulaTrace
