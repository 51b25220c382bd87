import FormulaTrace.Proofs.Formula.Areas
import FormulaTrace.Proofs.Trace.Agreement
import FormulaTrace.Proofs.Trace.Beside
import FormulaTrace.Proofs.Trace.Searches
import FormulaTrace.Proofs.Workbook.Edges
import FormulaTrace.Proofs.Workbook.Titles

/-! Traces of dependents with an index and without one.
The index expands the areas of every formula into cells and keeps for each cell the formulas that
read it; without an index a walk takes an inventory of all formulas once and asks of each whether
its areas hold the cell.  Unless the inventory skips a sheet both find the same cells in the same
order. -/
namespace FormulaTrace
open Text

/-- References that are expanded within a limit and name sheets without white space at the ends. -/
structure PlainReferences (limit : Int) (sheets : List Sheet) : Prop where
  narrow : ∀ reader ∈ Reader.all sheets, ∀ area ∈ reader.areas, area.cellCount ≤ limit
  qualified : ∀ reader ∈ Reader.all sheets, ∀ area ∈ reader.areas, EndsInk area.sheet.toList

section Sheets

variable {sheets : List Sheet} {values : Option (List Sheet)} {limit : Int}

theorem Reader.placed (well : WellFormedSheets sheets) {reader : Reader}
    (member : reader ∈ all sheets) :
    ∀ area ∈ reader.areas, area.Placed := by
  obtain ⟨sheet, listed, inside⟩ := List.mem_flatMap.1 member
  obtain ⟨title, _, _⟩ := mem_ofSheet.1 inside
  have named := well.named sheet listed
  rw [← title] at named
  intro area found
  simp only [areas] at found
  exact Formula.placed_of_mem_references named found

open OpenWorkbook

theorem Index.tells_dependents_unread (limit : Int) (unread : Reader.all sheets = [])
    (address : String) :
    (ofSheets limit sheets).tells .dependents address = [] := by
  rw [ofSheets_eq, unread]
  simp only [List.foldl_nil, tells, dependents, empty, Digraph.successors_empty, addWide]

theorem Index.tells_dependents (well : WellFormedSheets sheets)
    (references : PlainReferences limit sheets) {sheet : Sheet} {place : Position}
    {snapshot : Snapshot} (tells : Tells sheets sheet place snapshot) :
    ((ofSheets limit sheets).tells .dependents snapshot.address).flatten =
      ((Candidate.all sheets).filter fun candidate =>
        Formula.anyContains candidate.references ⟨sheet.title, place.col, place.row⟩).map
          Candidate.address := by
  unfold Candidate.all
  rw [Reader.candidates_containing]
  unfold Index.tells
  dsimp only
  rw [dependents_ofSheets well.differ references.narrow]
  refine congrArg (List.map Reader.address) (List.filter_congr fun reader member => ?_)
  rw [tells.address]
  exact reaches_eq_anyContains tells.meant tells.ends (Reader.placed well member)
    (references.qualified reader member) place

end Sheets

namespace Walk

variable {sheets : List Sheet} {values : Option (List Sheet)} {limits : Limits} {limit : Int}
  {held held' : Option (List Candidate) → Prop} {ready : OpenWorkbook → Prop}

open OpenWorkbook

/-- If the inventory has the candidates of all formulas, what the index tells is found in it. -/
theorem below_dependents_agree (well : WellFormedSheets sheets)
    (references : PlainReferences limit sheets)
    (taken : ∀ p s q t, Abreast held (Beside sheets values limit) p s q t → ready t →
      ∃ q' t', Gives (inventory source limits) q t (Candidate.all sheets) q' t' ∧
      Abreast held' (Beside sheets values limit) p s q' t') {snapshot : Snapshot}
    (known : Known sheets snapshot) :
    Agree (Abreast held fun s t => Beside sheets values limit s t ∧ ready t)
      (Abreast held' (Beside sheets values limit)) (fun _ => True)
      (below source limits .dependents snapshot) (below source limits .dependents snapshot) := by
  obtain ⟨sheet, place, tells⟩ := known
  have named := well.named sheet tells.listed
  have home : (separate snapshot.address).1.getD "" = sheet.title := by
    rw [tells.separate_address named]
    rfl
  refine below_agree ((Index.ofSheets limit sheets).tells .dependents snapshot.address) ?_
    fun p s q t related => ?_
  · dsimp only
    unfold fromInventory
    rw [tells.read?_address named, home, Index.tells_dependents well references tells]
    refine Agree.right (Candidate.all sheets) (Abreast held' (Beside sheets values limit)) ?_
      (gather_agree rfl)
    intro p s q t related
    obtain ⟨even, beside, prepared⟩ := related
    exact taken p s q t ⟨even, beside⟩ prepared
  · obtain ⟨even, beside, prepared⟩ := related
    obtain ⟨after, told, untold, kept⟩ := indexed_beside tells named .dependents p q beside
    exact ⟨after, t, told, untold, kept, prepared⟩

theorem inventory_held {σ : Type} {source : Source σ} {progress : Progress}
    {candidates : List Candidate} (taken : progress.candidates = some candidates) (state : σ) :
    Gives (inventory source limits) progress state candidates progress state := by
  unfold inventory
  apply gives_get_bind.2
  rw [taken]
  exact gives_pure.2 ⟨rfl, rfl, rfl⟩

theorem visit_dependents_agree (well : WellFormedSheets sheets)
    (references : PlainReferences limit sheets) (depth : Nat) (address : String) :
    Agree (Abreast (· = some (Candidate.all sheets)) (Beside sheets values limit))
      (Abreast (· = some (Candidate.all sheets)) (Beside sheets values limit)) (fun _ => True)
      (visit source limits .dependents depth address)
        (visit source limits .dependents depth address) := by
  refine visit_agree (fun child => read_agree (fun _ _ _ => rfl) (readCell_agree limit child))
    (fun snapshot known _ => ?_) depth address
  have found : Agree (Abreast (· = some (Candidate.all sheets)) fun s t =>
    Beside sheets values limit s t ∧ True)
      (Abreast (· = some (Candidate.all sheets)) (Beside sheets values limit)) (fun _ => True)
      (below source limits .dependents snapshot) (below source limits .dependents snapshot) :=
    below_dependents_agree well references
      (fun p s q t related _ => ⟨q, t, inventory_held related.1.candidates t, related⟩) known
  exact found.mono (fun p s q t related => ⟨related.1, related.2, trivial⟩) fun _ _ _ _ related =>
    related

def Full (limits : Limits) (workbook : OpenWorkbook) : Prop :=
  ∀ inventory after, (source.guard "dependents scan" none
    (Inventory.take source limits.maxScanCells)).Gives
    workbook inventory after → inventory.skipped = []

theorem inventory_taken (well : WellFormedSheets sheets) (plain : PlainWorksheets sheets)
    {p q : Progress} {s t : OpenWorkbook}
    (related : Abreast (· = none) (Beside sheets values limit) p s q t) (full : Full limits t) :
    ∃ q' t', Gives (inventory source limits) q t (Candidate.all sheets) q' t' ∧
      Abreast (· = some (Candidate.all sheets)) (Beside sheets values limit) p s q' t' := by
  obtain ⟨even, shows, unindexed⟩ := related
  obtain ⟨taken, after, given, listed, kept⟩ :=
    Inventory.take_yields well plain limits.maxScanCells t unindexed
  have guarded := Reading.gives_guard_of_free source_free "dependents scan" none given
  have none := full taken after guarded
  have candidates := listed none
  have whole : taken.truncated = false := by
    rw [Inventory.take_truncated given, none]
    rfl
  refine ⟨{ q with
      candidates := some taken.candidates
      skipped := q.skipped ++ taken.skipped
      truncated := q.truncated || taken.truncated }, after, ?_, ?_, shows, kept⟩
  · unfold inventory
    apply gives_get_bind.2
    rw [even.candidates]
    refine gives_bind.2 ⟨taken, q, after, gives_lift.2 ⟨guarded, rfl⟩, ?_⟩
    exact gives_modify_bind.2 (gives_note_bind.2 (gives_pure.2 ⟨candidates, rfl, rfl⟩))
  · refine ⟨even.visited, ?_, ?_, congrArg some candidates⟩
    · dsimp only
      rw [whole, Bool.or_false, even.truncated]
    · dsimp only
      rw [none, List.append_nil, even.skipped]

theorem reading_agree (limit : Int) (address : String) :
    Reading.Agree (Beside sheets values limit) (Beside sheets values limit) (Known sheets)
      (source.guard "read_cell" (some address) (source.readCell address))
      (source.guard "read_cell" (some address) (source.readCell address)) :=
  (readCell_agree limit address).guard fun _ _ _ => rfl

theorem descend_root_agree (well : WellFormedSheets sheets) (plain : PlainWorksheets sheets)
    (references : PlainReferences limit sheets) (depth : Nat) {snapshot : Snapshot}
    (known : Known sheets snapshot) :
    Agree (Abreast (· = none) fun s t => Beside sheets values limit s t ∧ Full limits t)
      (Abreast (· = some (Candidate.all sheets)) (Beside sheets values limit)) (fun _ => True)
      (descend source limits .dependents (depth + 1) snapshot)
      (descend source limits .dependents (depth + 1) snapshot) := by
  refine descend_succ_agree ?_ (visit_dependents_agree well references depth) fun address =>
    leaf_agree (.lift (reading_agree limit address))
  -- Only here is the inventory missing; the visits further down find it.
  exact below_dependents_agree well references
    (fun _ _ _ _ related full => inventory_taken well plain related full) known

theorem visit_root_agree (well : WellFormedSheets sheets) (plain : PlainWorksheets sheets)
    (references : PlainReferences limit sheets) {address : String} {start : OpenWorkbook}
    (full : ∀ snapshot place,
      (source.guard "read_cell" (some address) (source.readCell address)).Gives start
      snapshot place → Full limits place)
    (depth : Nat) :
    Agree (Abreast (· = none) fun s t => Beside sheets values limit s t ∧ t = start)
      (Abreast (fun _ => True) fun _ _ => True) (fun _ => True)
      (visit source limits .dependents (depth + 1) address)
      (visit source limits .dependents (depth + 1) address) := by
  have first : Reading.Agree (fun s t => Beside sheets values limit s t ∧ t = start)
      (Beside sheets values limit) (Known sheets)
      (source.guard "read_cell" (some address) (source.readCell address))
      (source.guard "read_cell" (some address) (source.readCell address)) :=
    fun s t related => reading_agree limit address s t related.1
  have prepared := first.and_second fun s t snapshot place related given => by
    rw [related.2] at given
    exact full snapshot place given
  refine visit_agree_of_descend (arrive_agree (.lift prepared))
    (fun snapshot known _ => descend_root_agree well plain references depth known)
    (fun _ _ _ _ related => ?_) fun _ _ _ _ related => ?_
  · obtain ⟨even, _⟩ := related
    exact ⟨⟨even.visited, even.truncated, even.skipped, trivial⟩, trivial⟩
  · obtain ⟨even, _⟩ := related
    exact ⟨⟨even.visited, even.truncated, even.skipped, trivial⟩, trivial⟩

theorem below_first (well : WellFormedSheets sheets) {snapshot : Snapshot}
    (known : Known sheets snapshot) {progress later : Progress} {workbook after : OpenWorkbook}
    (shows : Shows sheets values none workbook) (fresh : progress.candidates = none)
    {children : List String}
    (given : Gives (below source limits .dependents snapshot) progress workbook children later
      after) :
    ∃ taken place, (source.guard "dependents scan" none
      (Inventory.take source limits.maxScanCells)).Gives workbook taken place ∧
      later.candidates.isSome = true ∧ later.skipped = progress.skipped ++ taken.skipped := by
  obtain ⟨sheet, place, tells⟩ := known
  obtain ⟨answer, middle, between, asked, rest⟩ := gives_bind.1 given
  obtain ⟨same, rfl⟩ := asked.det (unindexed_gives shows snapshot.address .dependents progress)
  obtain ⟨rfl, rfl⟩ := Prod.mk.inj same
  have rest := gives_modify_bind.1 rest
  dsimp only at rest
  unfold fromInventory at rest
  rw [tells.read?_address (well.named sheet tells.listed)] at rest
  obtain ⟨candidates, further, beyond, found, rest⟩ := gives_bind.1 rest
  have searching : { middle with usedFormulas := true }.candidates = none := fresh
  obtain ⟨taken, guarded, held, skipped⟩ := inventory_first searching found
  have some : further.candidates.isSome = true := by
    rw [held]
    rfl
  obtain ⟨candidates, skips⟩ := (gather_searched rest).keeps some
  refine ⟨taken, beyond, guarded, ?_, ?_⟩
  · rw [candidates, some]
  · rw [skips, skipped]

/-! ### Steps of a walk that succeed or fail -/

section Arriving

variable {σ α β : Type} {source : Source σ} {walk : Walk σ α} {next : α → Walk σ β}
  {progress later : Progress} {state between after : σ}

theorem bind_outcome_of_gives {value : α} (given : Gives walk progress state value later after) :
    Reading.outcome ((walk >>= next).run progress) state = Reading.outcome ((next value).run later)
      after := by
  have answers : Reading.outcome (walk.run progress) state = .ok (value, later) :=
    congrArg Prod.fst given
  have leaves : Reading.leaves (walk.run progress) state = after := congrArg Prod.snd given
  rw [StateT.run_bind, Reading.bind_outcome, answers, leaves]

theorem bind_outcome_of_error {failure : Failure}
    (fails : Reading.outcome (walk.run progress) state = .error failure) :
    Reading.outcome ((walk >>= next).run progress) state = .error failure := by
  rw [StateT.run_bind, Reading.bind_outcome, fails]

theorem lift_outcome_of_error {reading : Reading σ α} {failure : Failure}
    (fails : reading.outcome state = .error failure) :
    Reading.outcome ((liftM reading : Walk σ α).run progress) state = .error failure := by
  change Reading.outcome (reading >>= fun value => pure (value, progress)) state = .error failure
  rw [Reading.bind_outcome, fails]

theorem arrive_entered {address : String} {snapshot : Snapshot}
    (reading : (source.guard "read_cell" (some address) (source.readCell address)).Gives state
      snapshot after)
    (new : snapshot.address ∉ progress.visited) :
    Gives (arrive source .dependents address) progress state (.entered snapshot)
      { progress with visited := snapshot.address :: progress.visited } after := by
  unfold arrive
  refine gives_bind.2 ⟨snapshot, progress, after, gives_lift.2 ⟨reading, rfl⟩, gives_get_bind.2 ?_⟩
  rw [if_neg new]
  exact gives_modify_bind.2 (gives_pure.2 ⟨rfl, rfl, rfl⟩)

theorem visit_alone {address : String} {snapshot : Snapshot}
    (reading : (source.guard "read_cell" (some address) (source.readCell address)).Gives state
      snapshot between)
    (told : Gives (indexed source .dependents snapshot.address)
      { visited := [snapshot.address] } between (some [])
      { visited := [snapshot.address] } after) (depth : Nat) :
    Gives (visit source limits .dependents (depth + 1) address)
      {} state (some (snapshot.node snapshot.formula []))
      { visited := [snapshot.address], usedIndex := true } after := by
  have gathered : Gives (gather limits ((separate snapshot.address).1.getD "") [])
      { visited := [snapshot.address], usedIndex := true } after []
        { visited := [snapshot.address], usedIndex := true }
      after :=
    gives_note_bind.2 (gives_pure.2 ⟨List.take_nil, rfl, rfl⟩)
  have found : Gives (below source limits .dependents snapshot)
    { visited := [snapshot.address] } between []
      { visited := [snapshot.address], usedIndex := true } after :=
    gives_bind.2 ⟨_, _, _, told, gives_modify_bind.2 gathered⟩
  rw [visit_eq]
  refine gives_bind.2 ⟨_, _, between, arrive_entered reading List.not_mem_nil, ?_⟩
  refine gives_bind.2 ⟨[], _, after, gives_bind.2 ⟨_, _, _, found, ?_⟩,
    gives_pure.2 ⟨rfl, rfl, rfl⟩⟩
  exact gives_pure.2 ⟨rfl, rfl, rfl⟩

theorem inventory_fails {failure : Failure} (none : progress.candidates = none)
    (fails : (source.guard "dependents scan" .none
      (Inventory.take source limits.maxScanCells)).outcome state =
      .error failure) : Reading.outcome ((inventory source limits).run progress) state =
        .error failure := by
  have asked : Gives get progress state progress progress state := rfl
  unfold inventory
  rw [bind_outcome_of_gives asked, none]
  exact bind_outcome_of_error (lift_outcome_of_error fails)

end Arriving

theorem visit_unscanned (well : WellFormedSheets sheets) {snapshot : Snapshot}
    (known : Known sheets snapshot)
    {address : String} {workbook after : OpenWorkbook} {failure : Failure}
    (shows : Shows sheets values none after)
    (reading : (source.guard "read_cell" (some address) (source.readCell address)).Gives workbook
      snapshot after)
    (fails : (source.guard "dependents scan" none
      (Inventory.take source limits.maxScanCells)).outcome after = .error failure) (depth : Nat) :
    Reading.outcome ((visit source limits .dependents (depth + 1) address).run {}) workbook =
      .error failure := by
  obtain ⟨sheet, place, tells⟩ := known
  rw [visit_eq, bind_outcome_of_gives (arrive_entered reading List.not_mem_nil)]
  refine bind_outcome_of_error (bind_outcome_of_error ?_)
  unfold below
  rw [bind_outcome_of_gives (unindexed_gives shows snapshot.address .dependents _)]
  have noted (progress : Progress) :
    Gives (modify fun progress => { progress with usedFormulas := true }) progress after ()
      { progress with usedFormulas := true } after := rfl
  dsimp only
  rw [bind_outcome_of_gives (noted _)]
  unfold fromInventory
  rw [tells.read?_address (well.named sheet tells.listed)]
  exact bind_outcome_of_error (inventory_fails rfl fails)

end Walk

theorem Limits.exists_boundDepth (limits : Limits) (asked : Option Int) :
    ∃ below, (limits.boundDepth asked).toNat = below + 1 := by
  have bound := limits.one_le_boundDepth asked
  exact ⟨(limits.boundDepth asked).toNat - 1, by omega⟩

namespace Trace

open OpenWorkbook Walk Reading

def scan {σ : Type} (source : Source σ) (limits : Limits) (target : Target) (depth : Value) :
    Reading σ Inventory := do
  let _ ← Reading.ofExcept depth.askedDepth
  let address ← Reading.ofExcept target.address
  let _ ← source.guard "read_cell" (some address) (source.readCell address)
  source.guard "dependents scan" none (Inventory.take source limits.maxScanCells)

theorem request_skippedSheets {sheets : List Sheet} {values : Option (List Sheet)}
    (well : WellFormedSheets sheets)
    {limits : Limits} {target : Target} {depth : Value} {trace : Trace} {after : OpenWorkbook}
    (given : (request source limits target (some "dependents") depth).Gives
      (start sheets values none) trace after) :
    ∃ inventory place, (scan source limits target depth).Gives (start sheets values none)
      inventory place ∧ trace.skippedSheets = inventory.skipped := by
  obtain ⟨direction, asked, read, counted, given⟩ := request_gives given
  have direction : Mode.dependents = direction := Except.ok.inj read
  subst direction
  obtain ⟨address, progress, resolved, visited, skipped⟩ := run_gives given
  obtain ⟨below, same⟩ := limits.exists_boundDepth asked
  rw [same] at visited
  rw [visit_eq] at visited
  obtain ⟨arrival, middle, between, arrived, rest⟩ := Walk.gives_bind.1 visited
  obtain ⟨snapshot, rfl, reading, rfl⟩ := arrive_first rfl arrived
  obtain ⟨known, shows⟩ := readCell_gives (shows_start well.spanned) (gives_guard reading)
  obtain ⟨children, last, final, descended, rest⟩ := Walk.gives_bind.1 rest
  obtain ⟨addresses, further, beyond, found, mapped⟩ := Walk.gives_bind.1 descended
  obtain ⟨taken, place, guarded, some, skips⟩ := below_first well known shows rfl found
  have walked := mapM_keeps addresses
    (fun _ _ _ _ _ _ given => child_keeps (fun _ _ _ _ _ _ visiting => visit_keeps below visiting)
      given) mapped
  have kept := (walked.trans (searched_pure rest).keeps) some
  refine ⟨taken, place, gives_bind.2 ⟨asked, _, gives_ofExcept.2 ⟨counted, rfl⟩, ?_⟩, ?_⟩
  · refine gives_bind.2 ⟨address, _, gives_ofExcept.2 ⟨resolved, rfl⟩, ?_⟩
    exact gives_bind.2 ⟨snapshot, between, reading, guarded⟩
  · rw [skipped, kept.2, skips]
    rfl

/-- Of a workbook with a chart no inventory is taken, and so a trace of dependents without an index
fails once the cell asked for was read. -/
theorem request_charted {sheets : List Sheet} (values : Option (List Sheet))
    (well : WellFormedSheets sheets) (plain : PlainSheets sheets) {limits : Limits}
    {target : Target} {depth : Value} {address : String} {asked : Option Int} {snapshot : Snapshot}
    {sheet : Sheet} (listed : sheet ∈ sheets) (chart : sheet.chart = true)
    (resolved : target.address = .ok address) (counted : depth.askedDepth = .ok asked)
    (told : (source.readCell address).outcome (start sheets values none) = .ok snapshot) :
    (request source limits target (some "dependents") depth).outcome (start sheets values none) =
      .error (Source.report "dependents scan" none Sheet.noCells) := by
  have shows : Shows sheets values none (start sheets values none) := shows_start well.spanned
  have read := gives_leaves told
  obtain ⟨known, kept⟩ := readCell_gives shows read
  have guarded := gives_guard_of_free source_free "read_cell" (some address) read
  obtain ⟨after, ran, _⟩ :=
    Inventory.take_charted well plain listed chart limits.maxScanCells _ kept
  have refused : (Inventory.take source limits.maxScanCells).outcome
      ((source.readCell address).leaves (start sheets values none)) = .error Sheet.noCells :=
        congrArg Prod.fst ran
  have fails :
    (source.guard "dependents scan" none (Inventory.take source limits.maxScanCells)).outcome
      ((source.readCell address).leaves (start sheets values none)) =
        .error (Source.report "dependents scan" none Sheet.noCells) := by
    rw [Source.guard_outcome, refused]
    rfl
  obtain ⟨below, same⟩ := limits.exists_boundDepth asked
  have walked := visit_unscanned well known kept guarded fails below
  unfold request run
  rw [bind_outcome, ofExcept_outcome, ofExcept_leaves]
  change (_ >>= fun _ => _ : Reading _ _).outcome _ = _
  rw [bind_outcome, ofExcept_outcome, ofExcept_leaves, counted]
  dsimp only
  rw [bind_outcome, ofExcept_outcome, ofExcept_leaves, resolved]
  dsimp only
  rw [same, bind_outcome, walked]

/-- Whether an index is used or not, a trace of dependents of a workbook without charts ends in the
same way, unless the scan without an index skips a sheet.  A chart makes each trace without an index
fail that reads its first cell. -/
theorem request_dependents_indexed {sheets : List Sheet} (values : Option (List Sheet))
    (limit : Int) (well : WellFormedSheets sheets) (plain : PlainSheets sheets)
    (references : PlainReferences limit sheets) {limits : Limits} (target : Target) (depth : Value)
    (full : ∀ inventory after, (scan source limits target depth).Gives (start sheets values none)
      inventory after → inventory.skipped = []) :
    ((∀ sheet ∈ sheets, sheet.chart = false) →
      ((request source limits target (some "dependents") depth).run.run
        (start sheets values (some limit))).1.map withoutOrigin =
        ((request source limits target (some "dependents") depth).run.run
          (start sheets values none)).1.map withoutOrigin) ∧
    ∀ sheet ∈ sheets, sheet.chart = true → ∀ address asked snapshot, target.address = .ok address →
      depth.askedDepth = .ok asked → (source.readCell address).outcome (start sheets values none) =
        .ok snapshot →
      (request source limits target (some "dependents") depth).outcome (start sheets values none) =
        .error (Source.report "dependents scan" none Sheet.noCells) := by
  refine ⟨fun worksheets => ?_,
    fun sheet listed chart address asked snapshot resolved counted told =>
      request_charted values well plain listed chart resolved counted told⟩
  apply request_agree
  intro direction asked read counted
  have direction : Mode.dependents = direction := Except.ok.inj read
  subst direction
  have started : Beside sheets values limit (start sheets values (some limit))
      (start sheets values none) :=
    ⟨shows_start_indexed well.spanned limit, shows_start well.spanned⟩
  have even : Even (· = none) {} {} := ⟨rfl, rfl, rfl, rfl⟩
  refine run_agree (Abreast (· = none) fun s t => Beside sheets values limit s t ∧
    t = start sheets values none) ⟨even, started, rfl⟩ fun address resolved => ?_
  obtain ⟨below, same⟩ := limits.exists_boundDepth asked
  rw [same]
  refine visit_root_agree well ⟨plain, worksheets⟩ references
    (fun snapshot place given inventory after taken => ?_) below
  refine full inventory after (gives_bind.2 ⟨asked, _, gives_ofExcept.2 ⟨counted, rfl⟩, ?_⟩)
  refine gives_bind.2 ⟨address, _, gives_ofExcept.2 ⟨resolved, rfl⟩, ?_⟩
  exact gives_bind.2 ⟨snapshot, place, given, taken⟩

theorem ledger_plainSheets : PlainSheets ledger where
  inGrid := by decide +kernel
  trimmed := by decide +kernel
  caseless := by decide +kernel

theorem ledger_plainReferences : PlainReferences 10000 ledger where
  narrow := by decide +kernel
  qualified := by decide +kernel

theorem request_dependents_indexed_ledger :
    (∀ inventory after, (scan source {} (.text "data!A1") .blank).Gives (start ledger none none)
      inventory after → inventory.skipped = []) ∧
      ((request source {} (.text "data!A1") (some "dependents") .blank).run.run
          (start ledger none (some 10000))).1.map withoutOrigin =
        ((request source {} (.text "data!A1") (some "dependents") .blank).run.run
          (start ledger none none)).1.map withoutOrigin ∧
      ((request source {} (.text "data!A1") (some "dependents") .blank).run.run
          (start ledger none none)).1.toOption.map nodeCount = some 3 := by
  have full : ∀ inventory after,
      (scan source {} (.text "data!A1") .blank).Gives (start ledger none none) inventory after →
        inventory.skipped = [] := by
    intro inventory after given
    have whole :
      (((scan source {} (.text "data!A1") .blank).run.run (start ledger none none)).1.toOption.all
        fun inventory => inventory.skipped.isEmpty) = true := by decide +kernel
    have none := Reading.Gives.check whole given
    exact List.isEmpty_iff.1 none
  have indexed := request_dependents_indexed none 10000 ledger_wellFormed ledger_plainSheets
    ledger_plainReferences (.text "data!A1") .blank full
  exact ⟨full, indexed.1 (by decide +kernel), by decide +kernel⟩

theorem request_alone {sheets : List Sheet} {values : Option (List Sheet)} {limit : Int}
    {limits : Limits} {target : Target} {depth : Value} {asked : Option Int} {address : String}
    {snapshot : Snapshot} (spanned : ∀ sheet ∈ sheets, sheet.Spanned)
    (counted : depth.askedDepth = .ok asked) (resolved : target.address = .ok address)
    (answer : cellAnswer sheets values address = .ok snapshot)
    (settles : settled sheets snapshot.address = .ok snapshot.address)
    (tells : (Index.ofSheets limit sheets).tells .dependents snapshot.address = []) :
    ((request source limits target (some "dependents") depth).outcome
      (start sheets values (some limit))).map nodeCount = .ok 1 := by
  have started : Shows sheets values (some (Index.ofSheets limit sheets))
      (start sheets values (some limit)) :=
    shows_start_indexed spanned limit
  obtain ⟨between, ran, shows⟩ := readCell_answers address _ started
  rw [answer] at ran
  obtain ⟨after, told, _⟩ :=
    indexed_gives shows settles .dependents { visited := [snapshot.address] }
  rw [tells] at told
  obtain ⟨below, same⟩ := limits.exists_boundDepth asked
  have visited : Walk.Gives (visit source limits .dependents (below + 1) address) {}
    (start sheets values (some limit)) _ _ after :=
    visit_alone (gives_guard_of_free source_free "read_cell" (some address) ran) told below
  rw [← same] at visited
  have given : (request source limits target (some "dependents") depth).Gives
    (start sheets values (some limit)) _ after :=
    gives_bind.2 ⟨.dependents, _, rfl, gives_bind.2 ⟨asked, _, gives_ofExcept.2 ⟨counted, rfl⟩,
      gives_bind.2 ⟨_, _, gives_ofExcept.2 ⟨resolved, rfl⟩, gives_bind.2 ⟨_, _, visited, rfl⟩⟩⟩⟩
  have answers := congrArg Prod.fst given
  exact congrArg (Except.map nodeCount) answers

theorem exists_cellAnswer_charts :
    ∃ snapshot, cellAnswer charts none "Data!A1" = .ok snapshot ∧ snapshot.address = "Data!A1" := by
  have address : qualify "Data" (addressText 0 0) = "Data!A1" := by decide +kernel
  have first : (⟨0, 0⟩ : Position).InGrid := by decide
  have listed : Sheet.ofEntries "Data" [⟨⟨0, 0⟩, .int 1, none⟩] ∈ charts := List.mem_cons_self
  obtain ⟨snapshot, answered, tells⟩ :=
    exists_cellAnswer charts_wellFormed listed (by decide +kernel) (by decide +kernel)
    rfl (valued_of_none (show WellFormedSheets (start charts none none).sheets
      from charts_wellFormed) rfl _ listed) first
  rw [← address]
  exact ⟨snapshot, answered, tells.address⟩

/-- With an index the number is found to be read by no cell, and without one the trace fails because
of the chart. -/
theorem request_charted_fails :
    ((request source {} (.text "Data!A1") (some "dependents") .blank).outcome
      (start charts none (some 10000))).map nodeCount = .ok 1 ∧
      (match (request source {} (.text "Data!A1") (some "dependents") .blank).outcome
        (start charts none none) with
        | .error (.source message none _) =>
          message == "dependents scan failed for ?: 'Chartsheet' object has no attribute 'max_row'"
        | _ => false) = true := by
  obtain ⟨snapshot, answered, address⟩ := exists_cellAnswer_charts
  have settles : settled charts "Data!A1" = .ok "Data!A1" :=
    Except.toOption_eq_some (by decide +kernel)
  have tells := Index.tells_dependents_unread 10000 (show Reader.all charts = [] from rfl) "Data!A1"
  rw [← address] at settles tells
  exact ⟨request_alone charts_wellFormed.spanned rfl (Except.toOption_eq_some (by decide +kernel))
    answered settles tells, by decide +kernel⟩

end Trace

end FormulaTrace
