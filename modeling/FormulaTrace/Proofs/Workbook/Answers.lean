import FormulaTrace.Proofs.Trace.Agreement
import FormulaTrace.Proofs.Workbook.Sheets
import FormulaTrace.Workbook.Open

/-! What open workbooks answer.
The answers of an open workbook about cells depend on what its sheets show, and reading cells
changes nothing about that.  An index has no part in it. -/
namespace FormulaTrace
open Text

section Readings

variable {σ τ α β : Type}

/-- From every state of a kind the reading ends with the same answer, in a state of that kind. -/
def Reading.Answers (shown : σ → Prop) (reading : Reading σ α) (answer : Except Failure α) : Prop :=
  ∀ state, shown state → ∃ after, reading.run.run state = (answer, after) ∧ shown after

namespace Reading.Answers

variable {shown : σ → Prop} {shown' : τ → Prop}

theorem ofExcept (answer : Except Failure α) : Answers shown (Reading.ofExcept answer) answer :=
  fun state related => ⟨state, rfl, related⟩

theorem bind {reading : Reading σ α} {answer : Except Failure α} {next : α → Reading σ β}
    {further : α → Except Failure β} (first : Answers shown reading answer)
    (rest : ∀ value, answer = .ok value → Answers shown (next value) (further value)) :
    Answers shown (reading >>= next) (answer >>= further) := by
  intro state related
  obtain ⟨between, ran, middle⟩ := first state related
  rw [ExceptT.run_bind, StateT.run_bind, ran]
  cases answer with
  | error failure => exact ⟨between, rfl, middle⟩
  | ok value => exact rest value rfl between middle

theorem bind_error {reading : Reading σ α} {failure : Failure}
    (fails : Answers shown reading (.error failure)) (next : α → Reading σ β) :
    Answers shown (reading >>= next) (.error failure) := by
  intro state related
  obtain ⟨after, ran, shows⟩ := fails state related
  rw [ExceptT.run_bind, StateT.run_bind, ran]
  exact ⟨after, rfl, shows⟩

theorem agree {first : Reading σ α} {second : Reading τ α} {answer : Except Failure α}
    (left : Answers shown first answer) (right : Answers shown' second answer) :
    Reading.Agree (fun s t => shown s ∧ shown' t) (fun s t => shown s ∧ shown' t)
      (fun value => answer = .ok value) first second := by
  rintro state other ⟨related, related'⟩
  obtain ⟨after, ran, shows⟩ := left state related
  obtain ⟨after', ran', shows'⟩ := right other related'
  rw [ran, ran']
  cases answer with
  | error failure => exact .error failure after after'
  | ok value => exact .ok ⟨rfl, rfl, shows, shows'⟩

theorem gives {reading : Reading σ α} {answer : Except Failure α}
    (answers : Answers shown reading answer) {state after : σ} {value : α} (related : shown state)
    (given : reading.Gives state value after) :
    answer = .ok value ∧ shown after := by
  obtain ⟨place, ran, kept⟩ := answers state related
  obtain ⟨same, rfl⟩ := Prod.mk.inj (ran.symm.trans given)
  exact ⟨same, kept⟩

end Reading.Answers

end Readings

namespace OpenWorkbook

variable {sheets : List Sheet} {values : Option (List Sheet)} {index : Option Index} {α : Type}

/-- An open workbook shows some sheets if it differs from them at most in cells that were looked
at. -/
structure Shows (sheets : List Sheet) (values : Option (List Sheet)) (index : Option Index)
    (workbook : OpenWorkbook) : Prop where
  sheets : workbook.sheets.map Sheet.face = sheets.map Sheet.face
  values : workbook.values.map (List.map Sheet.face) = values.map (List.map Sheet.face)
  index : workbook.index = index
  spanned : ∀ sheet ∈ workbook.sheets, sheet.Spanned

theorem shows_start (spanned : ∀ sheet ∈ sheets, sheet.Spanned) :
    Shows sheets values none (start sheets values none) :=
  ⟨rfl, rfl, rfl, spanned⟩

theorem shows_start_indexed (spanned : ∀ sheet ∈ sheets, sheet.Spanned) (limit : Int) :
    Shows sheets values (some (Index.ofSheets limit sheets))
      (start sheets values (some limit)) where
  sheets := by
    change (sheets.map Sheet.fill).map Sheet.face = sheets.map Sheet.face
    rw [List.map_map]
    exact List.map_congr_left fun sheet _ => sheet.fill_face
  values := rfl
  index := rfl
  spanned := by
    intro sheet member
    obtain ⟨original, inside, rfl⟩ := List.mem_map.1 member
    exact Sheet.fill_spanned (spanned original inside)

def look (sheets : List Sheet) (title : String) (view : Sheet.Face → α) : Except Failure α :=
  match (sheets.map Sheet.face).find? fun face => face.title = title with
  | some face => face.answer (view face)
  | none => .error (missingSheet title)

theorem look_cons (sheet : Sheet) (rest : List Sheet) (title : String) (view : Sheet.Face → α) :
    look (sheet :: rest) title view =
      if sheet.title = title then sheet.answer (view sheet.face) else look rest title view := by
  have titled : sheet.face.title = sheet.title := rfl
  by_cases same : sheet.title = title <;> simp [look, titled, same, Sheet.answer_face]

theorem look_congr {sheets others : List Sheet}
    (same : others.map Sheet.face = sheets.map Sheet.face)
    (title : String) (view : Sheet.Face → α) : look others title view = look sheets title view := by
  rw [look, look, same]

theorem onSheet_forall {holds : Sheet → Prop} {title : String} {step : Sheet → α × Sheet}
    (keeps : ∀ sheet, holds sheet → holds (step sheet).2) {sheets after : List Sheet} {value : α}
    (done : onSheet title step sheets = some (value, after)) (all : ∀ sheet ∈ sheets, holds sheet) :
    ∀ sheet ∈ after, holds sheet := by
  induction sheets generalizing after with
  | nil => cases done
  | cons sheet rest ih =>
    obtain ⟨here, others⟩ := List.forall_mem_cons.1 all
    unfold onSheet at done
    split at done
    · cases done
      exact List.forall_mem_cons.2 ⟨keeps sheet here, others⟩
    · obtain ⟨⟨result, tail⟩, further, same⟩ := Option.map_eq_some_iff.1 done
      cases same
      exact List.forall_mem_cons.2 ⟨here, ih further others⟩

theorem onSheet_faces {title : String} {step : Sheet → α × Sheet}
    (faces : ∀ sheet, (step sheet).2.face = sheet.face) {sheets after : List Sheet} {value : α}
    (done : onSheet title step sheets = some (value, after)) :
    after.map Sheet.face = sheets.map Sheet.face := by
  induction sheets generalizing after with
  | nil => cases done
  | cons sheet rest ih =>
    unfold onSheet at done
    split at done
    · cases done
      rw [List.map_cons, List.map_cons, faces]
    · obtain ⟨⟨result, tail⟩, further, same⟩ := Option.map_eq_some_iff.1 done
      cases same
      rw [List.map_cons, List.map_cons, ih further]

section Steps

variable {title : String} {step : Sheet → α × Sheet} {view : Sheet.Face → α}
  (result : ∀ sheet, (step sheet).1 = view sheet.face)
  (faces : ∀ sheet, (step sheet).2.face = sheet.face)
include result faces

omit faces in
theorem onSheet_look (sheets : List Sheet) :
    (onSheet title (Sheet.inCells step) sheets = none ∧ look sheets title view = .error
      (missingSheet title)) ∨
      ∃ after, onSheet title (Sheet.inCells step) sheets = some
        (look sheets title view, after) := by
  induction sheets with
  | nil => exact .inl ⟨rfl, rfl⟩
  | cons sheet rest ih =>
    rw [look_cons]
    unfold onSheet
    by_cases same : sheet.title = title
    · rw [if_pos same, if_pos same, ← result]
      exact .inr ⟨_, rfl⟩
    · rw [if_neg same, if_neg same]
      rcases ih with ⟨none, missing⟩ | ⟨after, found⟩
      · exact .inl ⟨by rw [none]; rfl, missing⟩
      · exact .inr ⟨sheet :: after, by rw [found]; rfl⟩

variable (spans : ∀ sheet, sheet.Spanned → (step sheet).2.Spanned)
include spans

theorem visitSheet_answers :
    Reading.Answers (Shows sheets values index) (visitSheet title step)
      (look sheets title view) := by
  intro workbook shows
  rw [← look_congr shows.sheets]
  unfold visitSheet
  simp only [ExceptT.run_mk, StateT.run]
  rcases onSheet_look result workbook.sheets with ⟨none, missing⟩ | ⟨after, found⟩
  · rw [none, missing]
    exact ⟨workbook, rfl, shows⟩
  · rw [found]
    have kept := (onSheet_faces (Sheet.inCells_view faces) found).trans shows.sheets
    exact ⟨{ workbook with sheets := after }, rfl, kept, shows.values, shows.index,
      onSheet_forall (Sheet.inCells_spanned spans) found shows.spanned⟩

theorem visitValues_answers :
    Reading.Answers (Shows sheets values index) (visitValues title step)
      (look (values.getD sheets) title view) := by
  intro workbook shows
  have same := shows.values
  unfold visitValues
  simp only [ExceptT.run_mk, StateT.run]
  cases recorded : workbook.values with
  | none =>
    rw [recorded] at same
    cases values with
    | none => exact visitSheet_answers result faces spans workbook shows
    | some values => cases same
  | some recordedValues =>
    rw [recorded] at same
    cases values with
    | none => cases same
    | some values =>
      have same := Option.some.inj same
      rw [Option.getD_some, ← look_congr same]
      rcases onSheet_look result recordedValues with ⟨none, missing⟩ | ⟨after, found⟩
      · rw [missing]
        simp only [none]
        exact ⟨workbook, rfl, shows⟩
      · simp only [found]
        refine ⟨{ workbook with values := some after }, rfl, shows.sheets, ?_, shows.index,
          shows.spanned⟩
        exact congrArg some ((onSheet_faces (Sheet.inCells_view faces) found).trans same)

end Steps

theorem exists_of_onSheet {title : String} {step : Sheet → α × Sheet} {sheets after : List Sheet}
    {value : α} (done : onSheet title step sheets = some (value, after)) :
    ∃ sheet ∈ sheets, sheet.title = title ∧ (step sheet).1 = value := by
  induction sheets generalizing after with
  | nil => cases done
  | cons sheet rest ih =>
    unfold onSheet at done
    split at done
    next same =>
      cases done
      exact ⟨sheet, List.mem_cons_self, same, rfl⟩
    next =>
      obtain ⟨⟨result, tail⟩, further, same⟩ := Option.map_eq_some_iff.1 done
      cases same
      obtain ⟨other, inside, titled, answers⟩ := ih further
      exact ⟨other, List.mem_cons_of_mem _ inside, titled, answers⟩

theorem Shows.exists_face {workbook : OpenWorkbook} (shows : Shows sheets values index workbook)
    {sheet : Sheet} (current : sheet ∈ workbook.sheets) :
    ∃ original ∈ sheets, original.face = sheet.face := by
  have shown : sheet.face ∈ sheets.map Sheet.face := by
    rw [← shows.sheets]
    exact List.mem_map_of_mem current
  exact List.mem_map.1 shown

theorem visitSheet_gives {workbook after : OpenWorkbook} {title : String} {step : Sheet → α × Sheet}
    (faces : ∀ sheet, (step sheet).2.face = sheet.face)
    (spans : ∀ sheet, sheet.Spanned → (step sheet).2.Spanned) {value : α}
    (shows : Shows sheets values index workbook)
    (given : (visitSheet title step).Gives workbook value after) :
    (∃ sheet ∈ sheets, sheet.title = title ∧ sheet.chart = false) ∧
      Shows sheets values index after := by
  unfold Reading.Gives visitSheet at given
  simp only [ExceptT.run_mk, StateT.run] at given
  split at given
  next result others done =>
    cases given
    obtain ⟨current, inside, titled, answers⟩ := exists_of_onSheet done
    obtain ⟨original, listed, face⟩ := shows.exists_face inside
    refine ⟨⟨original, listed, (congrArg Sheet.Face.title face).trans titled, ?_⟩,
      (onSheet_faces (Sheet.inCells_view faces) done).trans shows.sheets, shows.values, shows.index,
      onSheet_forall (Sheet.inCells_spanned spans) done shows.spanned⟩
    exact (congrArg Sheet.Face.chart face).trans (Sheet.answer_eq_ok.1 answers).1
  next => cases given

theorem Shows.titles {workbook : OpenWorkbook} (shows : Shows sheets values index workbook) :
    workbook.titles = sheets.map Sheet.title := by
  have same := congrArg (List.map Sheet.Face.title) shows.sheets
  rwa [List.map_map, List.map_map] at same

def titleIn (sheets : List Sheet) (name : Option String) : Except Failure String :=
  findTitle ⟨sheets, none, none⟩ name

theorem resolveSheet_answers (name : Option String) :
    Reading.Answers (Shows sheets values index) (resolveSheet name) (titleIn sheets name) := by
  intro workbook shows
  have same : workbook.findTitle name = titleIn sheets name := by
    unfold titleIn findTitle
    rw [shows.titles]
    rfl
  rw [← same]
  exact ⟨workbook, rfl, shows⟩

def cellAnswer (sheets : List Sheet) (values : Option (List Sheet)) (address : String) :
    Except Failure Snapshot :=
  match (separate address).1 with
  | none =>
    .error (.source ("Address is not sheet-qualified: " ++ quotation address) (some address) none)
  | some name => do
    let title ← titleIn sheets (some name)
    let cell ← locate address title
    let place : Position := ⟨cell.col, cell.row⟩
    let content ← look sheets title (Sheet.Face.peek · place)
    let value ← look (values.getD sheets) title (Sheet.Face.peek · place)
    return snapshot (qualify title (addressText cell.col cell.row)) content value

theorem readCell_answers (address : String) :
    Reading.Answers (Shows sheets values index) (readCell address)
      (cellAnswer sheets values address) := by
  unfold readCell cellAnswer
  cases (separate address).1 with
  | none => exact .ofExcept _
  | some name =>
    apply (resolveSheet_answers (some name)).bind
    intro title _
    apply (Reading.Answers.ofExcept _).bind
    intro cell _
    have peeks (sheet : Sheet) := sheet.peek_result ⟨cell.col, cell.row⟩
    have faces (sheet : Sheet) := sheet.peek_face ⟨cell.col, cell.row⟩
    have spans (sheet : Sheet) (spanned : sheet.Spanned) :=
      Sheet.peek_spanned spanned ⟨cell.col, cell.row⟩
    apply (visitSheet_answers peeks faces spans).bind
    intro content _
    apply (visitValues_answers peeks faces spans).bind
    intro value _
    exact .ofExcept (.ok _)

def settled (sheets : List Sheet) (address : String) : Except Failure String := do
  let title ← titleIn sheets (separate address).1
  let cell ← locate address title
  return qualify title (addressText cell.col cell.row)

theorem settle_answers (address : String) :
    Reading.Answers (Shows sheets values index) (settle address) (settled sheets address) := by
  unfold settle settled
  apply (resolveSheet_answers _).bind
  intro title _
  apply (Reading.Answers.ofExcept _).bind
  intro cell _
  exact .ofExcept (.ok _)

end OpenWorkbook

end FormulaTrace
