import FormulaTrace.Proofs.Workbook.Cells
import FormulaTrace.Proofs.Workbook.Ranges

/-! Sequences of questions to an open workbook.
Every question may let sheets have more cells than before.  Nothing that a sheet shows is changed by
that, and so the answers about cells and from the index stay what they were, and so do the formulas
that grids show. -/
namespace FormulaTrace
open Text

section Readings

variable {σ α β : Type}

namespace Reading

/-- Whatever a reading answers, it leads from states of a kind to states of that kind. -/
def Keeps (shown : σ → Prop) (reading : Reading σ α) : Prop :=
  ∀ state, shown state → shown (reading.leaves state)

variable {shown : σ → Prop} {reading : Reading σ α} {state : σ} {next : α → Reading σ β}

theorem Answers.outcome_eq {answer : Except Failure α} (answers : Answers shown reading answer)
    (related : shown state) : reading.outcome state = answer := by
  obtain ⟨after, ran, _⟩ := answers state related
  exact congrArg Prod.fst ran

theorem Answers.keeps {answer : Except Failure α} (answers : Answers shown reading answer) :
    Keeps shown reading := by
  intro state related
  obtain ⟨after, ran, shows⟩ := answers state related
  unfold leaves
  rwa [ran]

theorem Answers.of_outcome {answer : Except Failure α}
    (told : ∀ state, shown state → reading.outcome state = answer) (keeps : Keeps shown reading) :
    Answers shown reading answer :=
  fun state related => ⟨reading.leaves state, Prod.ext (told state related) rfl,
    keeps state related⟩

theorem Answers.get_bind {next : σ → Reading σ β} {answer : Except Failure β}
    (rest : ∀ state, shown state → Answers shown (next state) answer) :
    Answers shown (get >>= next) answer :=
  fun state related => rest state related state related

theorem Keeps.bind (first : Keeps shown reading) (rest : ∀ value, Keeps shown (next value)) :
    Keeps shown (reading >>= next) := by
  intro state related
  rw [bind_leaves]
  cases reading.outcome state with
  | error failure => exact first state related
  | ok value => exact rest value _ (first state related)

end Reading

end Readings

namespace OpenWorkbook

variable {sheets : List Sheet} {values : Option (List Sheet)} {index : Option Index} {α : Type}
  {workbook : OpenWorkbook} {title : String} {step : Sheet → α × Sheet}

def sheetNamed (sheets : List Sheet) (title : String) : Option Sheet :=
  sheets.find? fun sheet => sheet.title = title

theorem sheetNamed_cons (sheet : Sheet) (rest : List Sheet) (title : String) :
    sheetNamed (sheet :: rest) title = if sheet.title = title then some sheet
      else sheetNamed rest title := by
  unfold sheetNamed
  by_cases same : sheet.title = title <;> simp [same]

theorem title_of_sheetNamed {sheet : Sheet} (found : sheetNamed sheets title = some sheet) :
    sheet.title = title := by
  have titled := List.find?_some found
  exact of_decide_eq_true titled

theorem exists_sheetNamed (listed : title ∈ sheets.map Sheet.title) :
    ∃ sheet, sheetNamed sheets title = some sheet := by
  cases found : sheetNamed sheets title with
  | some sheet => exact ⟨sheet, rfl⟩
  | none =>
    obtain ⟨sheet, member, titled⟩ := List.mem_map.1 listed
    exact absurd (decide_eq_true titled) (List.find?_eq_none.1 found sheet member)

theorem sheetNamed_of_mem (differ : (sheets.map Sheet.title).Nodup) {sheet : Sheet}
    (listed : sheet ∈ sheets) :
    sheetNamed sheets sheet.title = some sheet := by
  obtain ⟨other, found⟩ := exists_sheetNamed (List.mem_map_of_mem listed)
  rw [found]
  exact congrArg some
    (List.inj_on_of_nodup_map differ (List.mem_of_find?_eq_some found) listed
      (title_of_sheetNamed found))

theorem look_eq (sheets : List Sheet) (title : String) (view : Sheet.Face → α) :
    look sheets title view = match sheetNamed sheets title with
      | some sheet => sheet.answer (view sheet.face)
      | none => .error (missingSheet title) := by
  induction sheets with
  | nil => rfl
  | cons sheet rest ih =>
    rw [look_cons, sheetNamed_cons, ih]
    split <;> rfl

/-- The sheets after something was done to the one with a title. -/
def amend (title : String) (step : Sheet → Sheet) : List Sheet → List Sheet
  | [] => []
  | sheet :: rest =>
    if sheet.title = title then step sheet :: rest else sheet :: amend title step rest

theorem amend_cons (title : String) (change : Sheet → Sheet) (sheet : Sheet) (rest : List Sheet) :
    amend title change (sheet :: rest) =
      if sheet.title = title then change sheet :: rest else sheet :: amend title change rest := rfl

theorem onSheet_eq (sheets : List Sheet) :
    onSheet title step sheets = (sheetNamed sheets title).map fun sheet =>
      ((step sheet).1, amend title (fun sheet => (step sheet).2) sheets) := by
  induction sheets with
  | nil => rfl
  | cons sheet rest ih =>
    unfold onSheet
    rw [sheetNamed_cons, amend_cons]
    by_cases same : sheet.title = title
    · simp only [if_pos same, Option.map_some]
    · rw [if_neg same, if_neg same, if_neg same, ih, Option.map_map]
      rfl

section Amending

variable {change : Sheet → Sheet}

theorem amend_of_absent (absent : sheetNamed sheets title = none) :
    amend title change sheets = sheets := by
  induction sheets with
  | nil => rfl
  | cons sheet rest ih =>
    rw [sheetNamed_cons] at absent
    rw [amend_cons]
    split at absent
    · cases absent
    next other => rw [if_neg other, ih absent]

theorem amend_amend (again : ∀ sheet, change (change sheet) = change sheet)
    (titles : ∀ sheet, (change sheet).title = sheet.title) (sheets : List Sheet) :
    amend title change (amend title change sheets) = amend title change sheets := by
  induction sheets with
  | nil => rfl
  | cons sheet rest ih =>
    rw [amend_cons]
    by_cases same : sheet.title = title
    · rw [if_pos same, amend_cons, if_pos ((titles sheet).trans same), again]
    · rw [if_neg same, amend_cons, if_neg same, ih]

theorem amend_map {β : Type} {view : Sheet → β} (kept : ∀ sheet, view (change sheet) = view sheet)
    (sheets : List Sheet) : (amend title change sheets).map view = sheets.map view := by
  induction sheets with
  | nil => rfl
  | cons sheet rest ih =>
    rw [amend_cons]
    split
    · rw [List.map_cons, List.map_cons, kept]
    · rw [List.map_cons, List.map_cons, ih]

theorem amend_forall {holds : Sheet → Prop} (keeps : ∀ sheet, holds sheet → holds (change sheet))
    (all : ∀ sheet ∈ sheets, holds sheet) : ∀ sheet ∈ amend title change sheets, holds sheet := by
  induction sheets with
  | nil => exact all
  | cons sheet rest ih =>
    obtain ⟨here, others⟩ := List.forall_mem_cons.1 all
    rw [amend_cons]
    split
    · exact List.forall_mem_cons.2 ⟨keeps sheet here, others⟩
    · exact List.forall_mem_cons.2 ⟨here, ih others⟩

theorem sheetNamed_amend (titles : ∀ sheet, (change sheet).title = sheet.title)
    (sheets : List Sheet) (other : String) :
    sheetNamed (amend title change sheets) other =
      (sheetNamed sheets other).map fun sheet => if sheet.title = title then change sheet
        else sheet := by
  induction sheets with
  | nil => rfl
  | cons sheet rest ih =>
    rw [amend_cons, sheetNamed_cons]
    by_cases same : sheet.title = title
    · rw [if_pos same, sheetNamed_cons, titles]
      by_cases here : sheet.title = other
      · rw [if_pos here, if_pos here, Option.map_some, if_pos same]
      · rw [if_neg here, if_neg here]
        cases found : sheetNamed rest other with
        | none => rfl
        | some later =>
          have unlike : later.title ≠ title := by
            rw [title_of_sheetNamed found, ← same]
            exact Ne.symm here
          rw [Option.map_some, if_neg unlike]
    · rw [if_neg same, sheetNamed_cons, ih]
      split
      · rw [Option.map_some, if_neg same]
      · rfl

end Amending

theorem exists_look (named : (sheetNamed sheets title).map Sheet.chart = some false)
    (view : Sheet.Face → α) :
    ∃ value, look sheets title view = .ok value := by
  obtain ⟨sheet, found, worksheet⟩ := Option.map_eq_some_iff.1 named
  rw [look_eq, found]
  exact ⟨view sheet.face, Sheet.answer_eq_ok.2 ⟨worksheet, rfl⟩⟩

theorem look_of_mem (differ : (sheets.map Sheet.title).Nodup) {sheet : Sheet}
    (listed : sheet ∈ sheets) (view : Sheet.Face → α) :
    look sheets sheet.title view = sheet.answer (view sheet.face) := by
  rw [look_eq, sheetNamed_of_mem differ listed]

theorem visitSheet_outcome (title : String) (step : Sheet → α × Sheet) (workbook : OpenWorkbook) :
    (visitSheet title step).outcome workbook = match sheetNamed workbook.sheets title with
      | some sheet => sheet.answer (step sheet).1
      | none => .error (missingSheet title) := by
  unfold Reading.outcome visitSheet
  simp only [ExceptT.run_mk, StateT.run, onSheet_eq]
  cases sheetNamed workbook.sheets title <;> rfl

theorem visitSheet_leaves (title : String) (step : Sheet → α × Sheet) (workbook : OpenWorkbook) :
    (visitSheet title step).leaves workbook =
      { workbook with
        sheets := amend title (fun sheet => (Sheet.inCells step sheet).2) workbook.sheets } := by
  unfold Reading.leaves visitSheet
  simp only [ExceptT.run_mk, StateT.run, onSheet_eq]
  cases found : sheetNamed workbook.sheets title with
  | none =>
    rw [amend_of_absent found]
    rfl
  | some sheet => rfl

theorem visitSheet_keeps (faces : ∀ sheet, (step sheet).2.face = sheet.face)
    (spans : ∀ sheet, sheet.Spanned → (step sheet).2.Spanned) :
    Reading.Keeps (Shows sheets values index) (visitSheet title step) := by
  intro workbook shows
  rw [visitSheet_leaves]
  exact ⟨(amend_map (Sheet.inCells_view faces) _).trans shows.sheets, shows.values, shows.index,
    amend_forall (Sheet.inCells_spanned spans) shows.spanned⟩

theorem usedRange_keeps (name : String) :
    Reading.Keeps (Shows sheets values index) (usedRange name) :=
  (resolveSheet_answers (some name)).keeps.bind fun _ =>
    visitSheet_keeps Sheet.usedRange_face fun _ => Sheet.usedRange_spanned

theorem formulaGrid_keeps (name : String) :
    Reading.Keeps (Shows sheets values index) (formulaGrid name) :=
  (resolveSheet_answers (some name)).keeps.bind fun _ =>
    visitSheet_keeps Sheet.grid_face fun _ => Sheet.grid_spanned

theorem precedents_answers (address : String) :
    Reading.Answers (Shows sheets values index) (precedents address) (match index with
      | none => .ok none
      | some index => do return some (index.precedents (← settled sheets address))) := by
  apply Reading.Answers.get_bind
  intro workbook shows
  rw [shows.index]
  cases index with
  | none => exact .ofExcept (.ok none)
  | some index => exact (settle_answers address).bind fun known _ => .ofExcept (.ok _)

theorem dependents_answers (address : String) :
    Reading.Answers (Shows sheets values index) (dependents address) (match index with
      | none => .ok none
      | some index => do
        let known ← settled sheets address
        return some (index.dependents known (Cell.read? known ""))) := by
  apply Reading.Answers.get_bind
  intro workbook shows
  rw [shows.index]
  cases index with
  | none => exact .ofExcept (.ok none)
  | some index => exact (settle_answers address).bind fun known _ => .ofExcept (.ok _)

theorem findTitle_congr {first second : OpenWorkbook} (same : first.titles = second.titles)
    (name : Option String) :
    first.findTitle name = second.findTitle name := by
  unfold findTitle
  rw [same]

theorem resolveSheet_outcome (name : Option String) (workbook : OpenWorkbook) :
    (resolveSheet name).outcome workbook = workbook.findTitle name := rfl

theorem resolveSheet_leaves (name : Option String) (workbook : OpenWorkbook) :
    (resolveSheet name).leaves workbook = workbook := rfl

theorem resolveSheet_bind_outcome (name : String) (step : Sheet → α × Sheet)
    (workbook : OpenWorkbook) :
    (resolveSheet (some name) >>= fun title => visitSheet title step).outcome workbook =
      (workbook.findTitle (some name)).bind fun title =>
        match sheetNamed workbook.sheets title with
        | some sheet => sheet.answer (step sheet).1
        | none => .error (missingSheet title) := by
  rw [Reading.bind_outcome, resolveSheet_outcome, resolveSheet_leaves]
  cases workbook.findTitle (some name) with
  | error failure => rfl
  | ok title => exact visitSheet_outcome title step workbook

theorem resolveSheet_bind_sheets (name : String) (step : Sheet → α × Sheet)
    (workbook : OpenWorkbook) :
    ((resolveSheet (some name) >>= fun title => visitSheet title step).leaves workbook).sheets =
      match (workbook.findTitle (some name)).toOption with
      | some title => amend title (fun sheet => (Sheet.inCells step sheet).2) workbook.sheets
      | none => workbook.sheets := by
  rw [Reading.bind_leaves, resolveSheet_outcome, resolveSheet_leaves]
  cases workbook.findTitle (some name) with
  | error failure => rfl
  | ok title => exact congrArg OpenWorkbook.sheets (visitSheet_leaves title step workbook)

theorem usedRange_outcome (name : String) (workbook : OpenWorkbook) :
    (usedRange name).outcome workbook = (workbook.findTitle (some name)).bind fun title =>
      match sheetNamed workbook.sheets title with
      | some sheet => sheet.answer (sheet.used.map fun extent => qualify title extent.text)
      | none => .error (missingSheet title) := by
  refine (resolveSheet_bind_outcome name Sheet.usedRange workbook).trans ?_
  refine congrArg (Except.bind _) (funext fun title => ?_)
  cases named : sheetNamed workbook.sheets title with
  | none => rfl
  | some sheet =>
    rw [← title_of_sheetNamed named]
    exact congrArg sheet.answer sheet.usedRange_result

theorem formulaGrid_outcome (name : String) (workbook : OpenWorkbook) :
    (formulaGrid name).outcome workbook = (workbook.findTitle (some name)).bind fun title =>
      match sheetNamed workbook.sheets title with
      | some sheet => sheet.answer (sheet.used.map sheet.gridAt)
      | none => .error (missingSheet title) := by
  refine (resolveSheet_bind_outcome name Sheet.grid workbook).trans ?_
  refine congrArg (Except.bind _) (funext fun title => ?_)
  cases sheetNamed workbook.sheets title with
  | none => rfl
  | some sheet => exact congrArg sheet.answer sheet.grid_result

end OpenWorkbook

/-- The formula cells that the grid of a sheet shows, if the sheet has a grid. -/
def Sheet.Face.cells (face : Sheet.Face) : Option (Set (String × String)) :=
  if face.unused then none else some face.formulas

theorem Sheet.cells_grid {sheet : Sheet} (spanned : sheet.Spanned) :
    (sheet.used.map sheet.gridAt).map FormulaGrid.cells = sheet.face.cells := by
  unfold Face.cells
  cases used : sheet.used with
  | none =>
    rw [if_pos (used_eq_none_iff.1 used)]
    rfl
  | some extent =>
    have filled : ¬ sheet.face.unused = true := by
      rw [← used_eq_none_iff, used]
      exact Option.some_ne_none extent
    rw [if_neg filled, Option.map_some, Option.map_some, cells_gridAt spanned used]

inductive Question where
  | titles
  | cell (address : String)
  | range (sheet : String)
  | grid (sheet : String)
  | precedents (address : String)
  | dependents (address : String)

namespace OpenWorkbook

variable {sheets : List Sheet} {values : Option (List Sheet)} {index : Option Index}
  {workbook : OpenWorkbook}

def asked (workbook : OpenWorkbook) : Question → OpenWorkbook
  | .titles => source.sheetNames.leaves workbook
  | .cell address => (source.readCell address).leaves workbook
  | .range sheet => (source.usedRange sheet).leaves workbook
  | .grid sheet => (source.formulaGrid sheet).leaves workbook
  | .precedents address => (source.precedents address).leaves workbook
  | .dependents address => (source.dependents address).leaves workbook

def after (workbook : OpenWorkbook) (questions : List Question) : OpenWorkbook :=
  questions.foldl asked workbook

theorem Shows.asked (shows : Shows sheets values index workbook) (question : Question) :
    Shows sheets values index (workbook.asked question) := by
  cases question with
  | titles => exact shows
  | cell address => exact (readCell_answers address).keeps workbook shows
  | range sheet => exact usedRange_keeps sheet workbook shows
  | grid sheet => exact formulaGrid_keeps sheet workbook shows
  | precedents address => exact (precedents_answers address).keeps workbook shows
  | dependents address => exact (dependents_answers address).keeps workbook shows

theorem Shows.after (shows : Shows sheets values index workbook) (questions : List Question) :
    Shows sheets values index (workbook.after questions) := by
  induction questions generalizing workbook with
  | nil => exact shows
  | cons question rest ih => exact ih (shows.asked question)

theorem Shows.readCell_outcome (shows : Shows sheets values index workbook) (address : String) :
    (source.readCell address).outcome workbook = cellAnswer sheets values address :=
  (readCell_answers address).outcome_eq shows

def gridCells (workbook : OpenWorkbook) (name : String) :
    Except Failure (Option (Set (String × String))) :=
  ((source.formulaGrid name).outcome workbook).map (Option.map FormulaGrid.cells)

theorem Shows.gridCells (shows : Shows sheets values index workbook) (name : String) :
    workbook.gridCells name = (titleIn sheets name).bind fun title =>
      look sheets title Sheet.Face.cells := by
  have titles : workbook.findTitle (some name) = titleIn sheets name :=
    (resolveSheet_answers (some name)).outcome_eq shows
  unfold OpenWorkbook.gridCells
  change Except.map _ ((formulaGrid name).outcome workbook) = _
  rw [formulaGrid_outcome, titles]
  cases titleIn sheets name with
  | error failure => rfl
  | ok title =>
    change Except.map _ (match sheetNamed workbook.sheets title with
      | some sheet => _
      | none => _) = look sheets title Sheet.Face.cells
    rw [← look_congr shows.sheets, look_eq]
    cases found : sheetNamed workbook.sheets title with
    | none => rfl
    | some sheet =>
      dsimp only
      rw [Sheet.answer_map, Sheet.cells_grid
        (shows.spanned sheet (List.mem_of_find?_eq_some found))]

theorem Shows.ofStart (spanned : ∀ sheet ∈ sheets, sheet.Spanned) (limit : Option Int) :
    Shows sheets values (limit.map fun limit => Index.ofSheets limit sheets)
      (start sheets values limit) := by
  cases limit with
  | none => exact shows_start spanned
  | some limit => exact shows_start_indexed spanned limit

/-- After any questions, whether they were answered or not, a workbook tells of every cell what it
told when it was opened, and so does its index; the grids show the same formula cells.  Of a cell it
tells the same with an index and without. -/
theorem outcome_after_questions (spanned : ∀ sheet ∈ sheets, sheet.Spanned) (limit : Option Int)
    (questions : List Question) :
    (∀ address,
      (source.readCell address).outcome ((start sheets values limit).after questions) =
        (source.readCell address).outcome (start sheets values limit) ∧
      (source.precedents address).outcome ((start sheets values limit).after questions) =
        (source.precedents address).outcome (start sheets values limit) ∧
      (source.dependents address).outcome ((start sheets values limit).after questions) =
        (source.dependents address).outcome (start sheets values limit)) ∧
    (∀ name, ((start sheets values limit).after questions).gridCells name =
      (start sheets values limit).gridCells name) ∧
    ∀ address, (source.readCell address).outcome (start sheets values limit) =
      (source.readCell address).outcome (start sheets values none) := by
  have fresh : Shows sheets values _ (start sheets values limit) := .ofStart spanned limit
  have unindexed : Shows sheets values _ (start sheets values none) := .ofStart spanned none
  have later := fresh.after questions
  refine ⟨fun address => ⟨?_, ?_, ?_⟩, fun name => ?_, fun address => ?_⟩
  · rw [later.readCell_outcome, fresh.readCell_outcome]
  · exact ((precedents_answers address).outcome_eq later).trans
      ((precedents_answers address).outcome_eq fresh).symm
  · exact ((dependents_answers address).outcome_eq later).trans
      ((dependents_answers address).outcome_eq fresh).symm
  · rw [later.gridCells, fresh.gridCells]
  · rw [fresh.readCell_outcome, unindexed.readCell_outcome]

/-- A formula away from the first cell, which it refers to. -/
def offset : List Sheet := [Sheet.ofEntries "S" [⟨⟨2, 4⟩, .text "=A1", none⟩]]

theorem offset_spanned : ∀ sheet ∈ offset, sheet.Spanned := by
  intro sheet member
  obtain rfl := List.mem_singleton.1 member
  exact Sheet.ofEntries_spanned _ _

theorem outcome_after_questions_offset :
    (∀ sheet ∈ offset, sheet.Spanned) ∧
    ((source.readCell "S!C5").outcome
      ((start offset none (some 100)).after [.cell "S!B2", .grid "S", .dependents "S!A1",
        .cell "T!A1"])).toOption.map Snapshot.formula = some (some "=A1") ∧
    ((start offset none none).after [.cell "S!A1"]).gridCells "S" =
      (start offset none none).gridCells "S" := by
  refine ⟨offset_spanned, ?_, (outcome_after_questions offset_spanned none [.cell "S!A1"]).2.1 "S"⟩
  obtain ⟨cells, _, unindexed⟩ := @outcome_after_questions offset none offset_spanned (some 100)
    [.cell "S!B2", .grid "S", .dependents "S!A1", .cell "T!A1"]
  rw [(cells "S!C5").1, unindexed "S!C5"]
  decide +kernel

end OpenWorkbook

end FormulaTrace
