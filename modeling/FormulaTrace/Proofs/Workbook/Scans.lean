import FormulaTrace.Proofs.Workbook.Cells
import FormulaTrace.Proofs.Workbook.Grids
import Mathlib.Data.List.Forall2

/-! Scans of open workbooks.
Where every title means its own sheet, the inventory of a workbook can always be taken, and if it
skips no sheet its candidates are those among all formula cells. -/
namespace FormulaTrace
open Text

section Readings

variable {σ α β γ : Type}

/-- From every state of a kind the reading succeeds with a result that something holds of, in a
state of that kind. -/
def Reading.Yields (shown : σ → Prop) (reading : Reading σ α) (holds : α → Prop) : Prop :=
  ∀ state, shown state → ∃ value after, reading.Gives state value after ∧ holds value ∧ shown after

namespace Reading

variable {shown : σ → Prop} {holds : α → Prop} {final : β → Prop}

theorem Answers.yields {reading : Reading σ α} {value : α}
    (answers : Answers shown reading (.ok value)) :
    Yields shown reading (· = value) := by
  intro state related
  obtain ⟨after, ran, shows⟩ := answers state related
  exact ⟨value, after, ran, rfl, shows⟩

theorem Yields.pure {value : α} (known : holds value) :
    Yields shown (pure value : Reading σ α) holds :=
  fun state related => ⟨value, state, rfl, known, related⟩

theorem Yields.bind {reading : Reading σ α} {next : α → Reading σ β}
    (first : Yields shown reading holds)
    (rest : ∀ value, holds value → Yields shown (next value) final) :
    Yields shown (reading >>= next) final := by
  intro state related
  obtain ⟨value, between, given, known, middle⟩ := first state related
  obtain ⟨result, after, further, ends, shows⟩ := rest value known between middle
  exact ⟨result, after, gives_bind.2 ⟨value, between, given, further⟩, ends, shows⟩

theorem Yields.bind_answers {reading : Reading σ α} {next : α → Reading σ β}
    {answer : Except Failure β} (first : Yields shown reading holds)
    (rest : ∀ value, holds value → Answers shown (next value) answer) :
    Answers shown (reading >>= next) answer := by
  intro state related
  obtain ⟨value, between, given, known, middle⟩ := first state related
  obtain ⟨after, ran, shows⟩ := rest value known between middle
  refine ⟨after, ?_, shows⟩
  rw [ExceptT.run_bind, StateT.run_bind, given]
  exact ran

theorem Yields.mono {wider : α → Prop} {reading : Reading σ α} (yields : Yields shown reading holds)
    (widen : ∀ value, holds value → wider value) : Yields shown reading wider := by
  intro state related
  obtain ⟨value, after, given, known, shows⟩ := yields state related
  exact ⟨value, after, given, widen value known, shows⟩

variable {each : γ → α → Prop} {step : γ → Reading σ α}

theorem Yields.mapM {items : List γ}
    (steps : ∀ item ∈ items, Yields shown (step item) (each item)) :
    Yields shown (items.mapM step) (List.Forall₂ each items) := by
  induction items with
  | nil =>
    rw [List.mapM_nil]
    exact .pure .nil
  | cons item rest ih =>
    obtain ⟨here, others⟩ := List.forall_mem_cons.1 steps
    rw [List.mapM_cons]
    apply here.bind
    intro value known
    exact (ih others).bind fun values listed => .pure (.cons known listed)

theorem Answers.mapM_error {items : List γ} {failure : Failure}
    (first : FirstFails (fun item => Yields shown (step item) fun _ => True)
      (fun item => Answers shown (step item) (.error failure)) items) :
    Answers shown (items.mapM step) (.error failure) := by
  obtain ⟨before, item, after, rfl, yields, fails⟩ := first
  induction before with
  | nil =>
    rw [List.nil_append, List.mapM_cons]
    exact fails.bind_error _
  | cons earlier rest ih =>
    obtain ⟨here, others⟩ := List.forall_mem_cons.1 yields
    rw [List.cons_append, List.mapM_cons]
    exact here.bind_answers fun _ _ => (ih others).bind_error _

theorem Yields.batch {delay : γ → σ → Nat} {items : List γ}
    (steps : ∀ item ∈ items, Yields shown (step item) (each item)) :
    Yields shown (Reading.batch delay step items) (List.Forall₂ each items) := by
  induction items with
  | nil => exact .pure .nil
  | cons item rest ih =>
    obtain ⟨here, others⟩ := List.forall_mem_cons.1 steps
    intro state related
    obtain ⟨value, between, given, known, middle⟩ := here state related
    obtain ⟨values, after, further, listed, shows⟩ := ih others between middle
    exact ⟨value :: values, after, gives_batch_cons.2 ⟨value, between, values, given, further, rfl⟩,
      .cons known listed, shows⟩

variable (steps : ∀ item state value after, shown state → (step item).Gives state value after →
  each item value ∧ shown after)
include steps

theorem mapM_gives {items : List γ} {state after : σ} {values : List α} (related : shown state)
    (given : (items.mapM step).Gives state values after) : List.Forall₂ each items values ∧
      shown after := by
  induction items generalizing state values with
  | nil =>
    rw [List.mapM_nil] at given
    cases given
    exact ⟨.nil, related⟩
  | cons item rest ih =>
    rw [List.mapM_cons] at given
    obtain ⟨value, between, first, given⟩ := gives_bind.1 given
    obtain ⟨others, beyond, second, given⟩ := gives_bind.1 given
    cases given
    obtain ⟨here, kept⟩ := steps item state value between related first
    obtain ⟨further, last⟩ := ih kept second
    exact ⟨.cons here further, last⟩

theorem batch_gives {delay : γ → σ → Nat} {items : List γ} {state after : σ} {values : List α}
    (related : shown state) (given : (Reading.batch delay step items).Gives state values after) :
    List.Forall₂ each items values ∧ shown after := by
  induction items generalizing state values with
  | nil =>
    cases given
    exact ⟨.nil, related⟩
  | cons item rest ih =>
    obtain ⟨value, between, further, first, second, rfl⟩ := gives_batch_cons.1 given
    obtain ⟨here, kept⟩ := steps item state value between related first
    obtain ⟨listed, last⟩ := ih kept second
    exact ⟨.cons here listed, last⟩

end Reading

theorem exists_mem_zip {each : γ → α → Prop} {items : List γ} {values : List α}
    (related : List.Forall₂ each items values) {item : γ} (member : item ∈ items) :
    ∃ value, (item, value) ∈ items.zip values ∧ each item value := by
  have zipped : (items.zip values).map Prod.fst = items :=
    List.map_fst_zip (Nat.le_of_eq related.length_eq)
  rw [← zipped] at member
  obtain ⟨⟨_, value⟩, among, rfl⟩ := List.mem_map.1 member
  exact ⟨value, among, List.forall₂_zip related among⟩

end Readings

/-- Sheets within the grid whose titles differ in more than case and have no white space at their
ends. -/
structure PlainSheets (sheets : List Sheet) : Prop where
  inGrid : ∀ sheet ∈ sheets, sheet.last.InGrid
  trimmed : ∀ sheet ∈ sheets, EndsInk sheet.title.toList
  caseless : (sheets.map fun sheet => lower sheet.title.toList).Nodup

/-- Plain sheets none of which is a chart. -/
structure PlainWorksheets (sheets : List Sheet) : Prop extends PlainSheets sheets where
  worksheets : ∀ sheet ∈ sheets, sheet.chart = false

namespace OpenWorkbook

variable {sheets : List Sheet} {values : Option (List Sheet)} {index : Option Index} {sheet : Sheet}
  {α : Type}

theorem titleFor?_self (caseless : (sheets.map fun sheet => lower sheet.title.toList).Nodup)
    (listed : sheet ∈ sheets) :
    titleFor? (sheets.map Sheet.title) sheet.title = some sheet.title := by
  have member : sheet.title ∈ (sheets.map Sheet.title).reverse :=
    List.mem_reverse.2 (List.mem_map_of_mem listed)
  cases found : titleFor? (sheets.map Sheet.title) sheet.title with
  | none => exact absurd (List.find?_eq_none.1 found sheet.title member) (by simp)
  | some title =>
    obtain ⟨other, inside, rfl⟩ :=
      List.mem_map.1 (List.mem_reverse.1 (List.mem_of_find?_eq_some found))
    have same := List.inj_on_of_nodup_map caseless inside listed (lower_of_titleFor? found)
    rw [same]

theorem onSheet_found {title : String} {sheets : List Sheet} (step : Sheet → α × Sheet)
    (listed : title ∈ sheets.map Sheet.title) :
    ∃ current ∈ sheets, current.title = title ∧
      ∃ after, onSheet title step sheets = some ((step current).1, after) := by
  induction sheets with
  | nil => cases listed
  | cons sheet rest ih =>
    unfold onSheet
    by_cases same : sheet.title = title
    · rw [if_pos same]
      exact ⟨sheet, List.mem_cons_self, same, _, rfl⟩
    · rw [if_neg same]
      have later : title ∈ rest.map Sheet.title := by
        rcases List.mem_cons.1 listed with here | later
        · exact absurd here.symm same
        · exact later
      obtain ⟨current, member, titled, after, found⟩ := ih later
      rw [found]
      exact ⟨current, List.mem_cons_of_mem _ member, titled, _, rfl⟩

section Visits

variable (differ : (sheets.map Sheet.title).Nodup) (listed : sheet ∈ sheets)
  {step : Sheet → α × Sheet} (faces : ∀ sheet, (step sheet).2.face = sheet.face)
  (spans : ∀ sheet, sheet.Spanned → (step sheet).2.Spanned)
include differ listed faces spans

theorem exists_visit {workbook : OpenWorkbook} (shows : Shows sheets values index workbook) :
    ∃ (current : Sheet) (after : OpenWorkbook), current.face = sheet.face ∧ current.Spanned ∧
      (visitSheet sheet.title step).run.run workbook = (current.answer (step current).1, after) ∧
      Shows sheets values index after := by
  have title : sheet.title ∈ workbook.sheets.map Sheet.title := by
    change sheet.title ∈ workbook.titles
    rw [shows.titles]
    exact List.mem_map_of_mem listed
  obtain ⟨current, member, titled, after, found⟩ := onSheet_found (Sheet.inCells step) title
  have face : current.face = sheet.face := by
    obtain ⟨other, inside, same⟩ := shows.exists_face member
    have titles : other.title = sheet.title := (congrArg Sheet.Face.title same).trans titled
    rw [← same, List.inj_on_of_nodup_map differ inside listed titles]
  have kept := (onSheet_faces (Sheet.inCells_view faces) found).trans shows.sheets
  refine ⟨current, { workbook with sheets := after }, face, shows.spanned current member, ?_, kept,
    shows.values, shows.index, onSheet_forall (Sheet.inCells_spanned spans) found shows.spanned⟩
  unfold visitSheet
  simp only [ExceptT.run_mk, StateT.run]
  rw [found]
  rfl

theorem visitSheet_yields (worksheet : sheet.chart = false) :
    Reading.Yields (Shows sheets values index) (visitSheet sheet.title step) fun value =>
      ∃ current, current.face = sheet.face ∧ current.Spanned ∧ value = (step current).1 := by
  intro workbook shows
  obtain ⟨current, after, face, spanned, ran, kept⟩ := exists_visit differ listed faces spans shows
  have answered : current.answer (step current).1 = .ok (step current).1 :=
    Sheet.answer_eq_ok.2 ⟨(congrArg Sheet.Face.chart face).trans worksheet, rfl⟩
  rw [answered] at ran
  exact ⟨_, after, ran, ⟨current, face, spanned, rfl⟩, kept⟩

theorem visitSheet_charted (chart : sheet.chart = true) :
    Reading.Answers (Shows sheets values index) (visitSheet sheet.title step)
      (.error Sheet.noCells) := by
  intro workbook shows
  obtain ⟨current, after, face, _, ran, kept⟩ := exists_visit differ listed faces spans shows
  have refused : current.answer (step current).1 = .error Sheet.noCells :=
    if_pos ((congrArg Sheet.Face.chart face).trans chart)
  rw [refused] at ran
  exact ⟨after, ran, kept⟩

end Visits

theorem titleIn_of_plain (plain : PlainSheets sheets) (listed : sheet ∈ sheets) :
    titleIn sheets (some sheet.title) = .ok sheet.title :=
  titleIn_self (plain.trimmed sheet listed) (titleFor?_self plain.caseless listed)

section OwnTitle

variable (well : WellFormedSheets sheets) (listed : sheet ∈ sheets)
  (own : titleIn sheets (some sheet.title) = .ok sheet.title)
include own

theorem resolveSheet_yields :
    Reading.Yields (Shows sheets values index) (resolveSheet (some sheet.title))
      (· = sheet.title) := by
  have answers : Reading.Answers (Shows sheets values index) (resolveSheet (some sheet.title))
      (titleIn sheets (some sheet.title)) := resolveSheet_answers _
  rw [own] at answers
  exact answers.yields

include well listed

theorem usedRange_charted (chart : sheet.chart = true) :
    Reading.Answers (Shows sheets values index) (usedRange sheet.title) (.error Sheet.noCells) := by
  unfold usedRange
  apply (resolveSheet_yields own).bind_answers
  intro title same
  subst same
  exact visitSheet_charted well.differ listed Sheet.usedRange_face
    (fun _ => Sheet.usedRange_spanned) chart

variable (worksheet : sheet.chart = false)
include worksheet

theorem usedRange_yields :
    Reading.Yields (Shows sheets values index) (usedRange sheet.title) fun range =>
      range = none → Reader.ofSheet sheet = [] := by
  unfold usedRange
  apply (resolveSheet_yields own).bind
  intro title same
  subst same
  apply (visitSheet_yields well.differ listed Sheet.usedRange_face
    (fun _ => Sheet.usedRange_spanned) worksheet).mono
  rintro _ ⟨current, face, spanned, rfl⟩ none
  rw [← Sheet.ofSheet_congr face spanned (well.spanned sheet listed)]
  rcases Sheet.usedRange_cases spanned with ⟨_, empty⟩ | ⟨extent, used, _⟩
  · exact empty
  · rw [none] at used
    cases used

theorem formulaGrid_yields (inside : sheet.last.InGrid) :
    Reading.Yields (Shows sheets values index) (formulaGrid sheet.title) fun grid =>
      Inventory.sheetCandidates sheet.title grid =
        .ok ((Reader.ofSheet sheet).filterMap Reader.candidate?) := by
  unfold formulaGrid
  apply (resolveSheet_yields own).bind
  intro title same
  subst same
  refine (visitSheet_yields well.differ listed (fun sheet => ?_)
    (fun sheet spanned => ?_) worksheet).mono ?_
  · rw [← sheet.usedRange_face]
    split <;> simp only [*]
  · have after := Sheet.usedRange_spanned spanned
    split <;> simpa only [*] using after
  · rintro _ ⟨current, face, spanned, rfl⟩
    have titles : current.title = sheet.title := congrArg Sheet.Face.title face
    have lasts : current.last = sheet.last := congrArg Sheet.Face.last face
    have named := well.named sheet listed
    rw [← titles] at named
    rw [← lasts] at inside
    have cells : current.chart = false := (congrArg Sheet.Face.chart face).trans worksheet
    have candidates := Inventory.sheetCandidates_usedRange cells spanned named inside
    rw [titles, Sheet.ofSheet_congr face spanned (well.spanned sheet listed)] at candidates
    rw [← candidates]
    split <;> simp only [*]

end OwnTitle

end OpenWorkbook

namespace Inventory

theorem select_kept {sheets : List Sheet} {ranges : List (Option String)}
    (used : List.Forall₂ (fun sheet range => range = none → Reader.ofSheet sheet = [])
      sheets ranges) (budget : Int) :
    ∃ kept, kept.Sublist sheets ∧
      (select budget ((sheets.map Sheet.title).zip ranges)).chosen = kept.map Sheet.title ∧
      ((select budget ((sheets.map Sheet.title).zip ranges)).skipped = [] →
        Reader.all kept = Reader.all sheets) := by
  induction used generalizing budget with
  | nil => exact ⟨[], .slnil, rfl, fun _ => rfl⟩
  | @cons sheet range sheets ranges here _ ih =>
    rw [List.map_cons, List.zip_cons_cons]
    cases range with
    | none =>
      obtain ⟨kept, sublist, chosen, full⟩ := ih budget
      refine ⟨kept, sublist.cons sheet, chosen, fun none => ?_⟩
      rw [Reader.all_cons, here rfl, full none, List.nil_append]
    | some address =>
      unfold select
      dsimp only
      split
      · obtain ⟨kept, sublist, chosen, _⟩ := ih budget
        exact ⟨kept, sublist.cons sheet, chosen, nofun⟩
      · obtain ⟨kept, sublist, chosen, full⟩ := ih (budget - cellTotal address sheet.title)
        refine ⟨sheet :: kept, sublist.cons_cons sheet, ?_, fun none => ?_⟩
        · rw [List.map_cons, ← chosen]
        · rw [Reader.all_cons, Reader.all_cons, full none]

theorem allCandidates_grids {sheets : List Sheet} {grids : List (Option FormulaGrid)}
    (read : List.Forall₂ (fun sheet grid => sheetCandidates sheet.title grid =
      .ok ((Reader.ofSheet sheet).filterMap Reader.candidate?)) sheets grids) :
    allCandidates ((sheets.map Sheet.title).zip grids) = .ok (Candidate.all sheets) := by
  unfold Candidate.all
  induction read with
  | nil => rfl
  | cons here _ ih =>
    rw [List.map_cons, List.zip_cons_cons, allCandidates, here, ih, Reader.all_cons,
      List.filterMap_append]
    rfl

variable {sheets : List Sheet} {values : Option (List Sheet)}

open OpenWorkbook

theorem check_yields {index : Option Index} (message : String) :
    Reading.Yields (Shows sheets values index) (source.checkCancelled message) fun _ => True :=
  fun workbook shows => ⟨(), workbook, rfl, trivial, shows⟩

theorem sheetNames_yields {index : Option Index} :
    Reading.Yields (Shows sheets values index) source.sheetNames (· = sheets.map Sheet.title) :=
  fun workbook shows => ⟨workbook.titles, workbook, rfl, shows.titles, shows⟩

/-- No inventory is taken of a workbook with a chart, which has no used range to be told. -/
theorem take_charted {index : Option Index} (well : WellFormedSheets sheets)
    (plain : PlainSheets sheets) {sheet : Sheet} (listed : sheet ∈ sheets)
    (chart : sheet.chart = true) (budget : Int) :
    Reading.Answers (Shows sheets values index) (take source budget) (.error Sheet.noCells) := by
  unfold take
  refine (check_yields _).bind_answers fun _ _ => sheetNames_yields.bind_answers
    fun titles same => ?_
  subst same
  refine Reading.Answers.bind_error ?_ _
  rw [List.mapM_map]
  refine .mapM_error (firstFails_of_mem (fun other among => ?_) listed ?_)
  · have own := titleIn_of_plain plain among
    cases kind : other.chart with
    | false =>
      refine .inl ((check_yields _).bind fun _ _ => ?_)
      exact (usedRange_yields well among own kind).mono fun _ _ => trivial
    | true =>
      exact .inr ((check_yields _).bind_answers fun _ _ => usedRange_charted well among own kind)
  · exact (check_yields _).bind_answers fun _ _ =>
      usedRange_charted well listed (titleIn_of_plain plain listed) chart

/-- An inventory that skips no sheet has the candidates of all formula cells. -/
theorem take_yields {index : Option Index} (well : WellFormedSheets sheets)
    (plain : PlainWorksheets sheets) (budget : Int) :
    Reading.Yields (Shows sheets values index) (take source budget) fun inventory =>
      inventory.skipped = [] → inventory.candidates = Candidate.all sheets := by
  unfold take
  refine (check_yields _).bind fun _ _ => sheetNames_yields.bind fun titles same => ?_
  subst same
  have ranges : Reading.Yields (Shows sheets values index)
      ((sheets.map Sheet.title).mapM fun title => do
        source.checkCancelled "Dependents scan cancelled"
        source.usedRange title)
      (List.Forall₂ (fun sheet range => range = none → Reader.ofSheet sheet = []) sheets) := by
    rw [List.mapM_map]
    refine .mapM fun sheet listed => (check_yields _).bind fun _ _ => ?_
    exact usedRange_yields well listed (titleIn_of_plain plain.toPlainSheets listed)
      (plain.worksheets sheet listed)
  apply ranges.bind
  intro ranges used
  -- Besides skipped sheets only those without a used range fall out, and they have no formulas.
  obtain ⟨kept, sublist, chosen, full⟩ := select_kept used budget
  generalize select budget ((sheets.map Sheet.title).zip ranges) = selection at chosen full
  obtain ⟨titles, left, skipped⟩ := selection
  dsimp only at chosen full ⊢
  subst chosen
  apply (check_yields _).bind
  intro _ _
  have grids : Reading.Yields (Shows sheets values index)
      (Reading.batch source.delay source.formulaGrid (kept.map Sheet.title))
      (List.Forall₂ (fun sheet grid => sheetCandidates sheet.title grid =
        .ok ((Reader.ofSheet sheet).filterMap Reader.candidate?)) kept) := by
    rw [Reading.batch_map]
    refine .batch fun sheet inside => ?_
    have listed := sublist.mem inside
    exact formulaGrid_yields well listed (titleIn_of_plain plain.toPlainSheets listed)
      (plain.worksheets sheet listed) (plain.inGrid sheet listed)
  apply grids.bind
  intro grids read
  rw [allCandidates_grids read]
  refine ((Reading.Answers.ofExcept _).yields).bind fun candidates same => .pure fun none => ?_
  dsimp only at none ⊢
  unfold Candidate.all
  rw [same, Candidate.all, full none]

end Inventory

namespace OpenWorkbook

variable {sheets : List Sheet} {values : Option (List Sheet)} {index : Option Index}
  {workbook after : OpenWorkbook}

theorem usedRange_gives {name : String} {range : Option String}
    (shows : Shows sheets values index workbook)
    (given : (usedRange name).Gives workbook range after) :
    (∃ sheet ∈ sheets, titleIn sheets (some name) = .ok sheet.title ∧ sheet.chart = false) ∧
      Shows sheets values index after := by
  obtain ⟨title, between, resolved, given⟩ := Reading.gives_bind.1 given
  obtain ⟨meant, kept⟩ := (resolveSheet_answers (some name)).gives shows resolved
  obtain ⟨⟨sheet, listed, rfl, worksheet⟩, shows⟩ :=
    visitSheet_gives Sheet.usedRange_face (fun _ => Sheet.usedRange_spanned) kept given
  exact ⟨⟨sheet, listed, meant, worksheet⟩, shows⟩

theorem take_gives {budget : Int} {inventory : Inventory}
    (shows : Shows sheets values index workbook)
    (given : (Inventory.take source budget).Gives workbook inventory after) :
    ∀ sheet ∈ sheets, ∃ found ∈ sheets, titleIn sheets (some sheet.title) = .ok found.title ∧
      found.chart = false := by
  unfold Inventory.take at given
  obtain ⟨_, _, checked, given⟩ := Reading.gives_bind.1 given
  cases checked
  obtain ⟨titles, _, listed, given⟩ := Reading.gives_bind.1 given
  cases listed
  obtain ⟨ranges, between, used, given⟩ := Reading.gives_bind.1 given
  have found : List.Forall₂
    (fun title _ => ∃ found ∈ sheets, titleIn sheets (some title) = .ok found.title ∧
      found.chart = false) workbook.titles ranges :=
    (Reading.mapM_gives (fun title state range after shows step => by
      obtain ⟨_, _, checked, step⟩ := Reading.gives_bind.1 step
      cases checked
      exact usedRange_gives shows step) shows used).1
  rw [shows.titles] at found
  intro sheet member
  obtain ⟨_, _, meant⟩ := exists_mem_zip found (List.mem_map_of_mem member)
  exact meant

/-- Where every title means a sheet of cells, each means its own sheet if no other differs from it
only in case and outer white space. -/
theorem plainWorksheets_of_titleIn (differ : (sheets.map fun sheet => sheetKey sheet.title).Nodup)
    (inGrid : ∀ sheet ∈ sheets, sheet.last.InGrid)
    (meant : ∀ sheet ∈ sheets, ∃ found ∈ sheets, titleIn sheets (some sheet.title) =
      .ok found.title ∧ found.chart = false) : PlainWorksheets sheets := by
  have own : ∀ sheet ∈ sheets, titleIn sheets (some sheet.title) = .ok sheet.title ∧
      sheet.chart = false := by
    intro sheet listed
    obtain ⟨found, inside, named, worksheet⟩ := meant sheet listed
    have same := List.inj_on_of_nodup_map differ inside listed (sheetKey_of_titleIn named)
    rw [same] at named worksheet
    exact ⟨named, worksheet⟩
  have trimmed (sheet : Sheet) (listed : sheet ∈ sheets) : EndsInk sheet.title.toList :=
    (facts_of_titleIn (own sheet listed).1).1
  refine ⟨⟨inGrid, trimmed, ?_⟩, fun sheet listed => (own sheet listed).2⟩
  have keys : (sheets.map fun sheet => sheetKey sheet.title) =
      (sheets.map fun sheet => lower sheet.title.toList).map String.ofList := by
    rw [List.map_map]
    apply List.map_congr_left
    intro sheet listed
    change String.ofList (lower (trim sheet.title.toList)) = String.ofList
      (lower sheet.title.toList)
    rw [trim_eq_self (trimmed sheet listed)]
  rw [keys] at differ
  exact differ.of_map

end OpenWorkbook

end FormulaTrace
