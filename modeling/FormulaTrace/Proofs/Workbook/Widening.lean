import FormulaTrace.Proofs.Workbook.Questions

/-! Questions that widen used ranges.
A cell that is read in front of the used range of its sheet, but not behind its last column or row,
makes the range begin there.  Nothing else changes a used range, and after an index was built
nothing does. -/
namespace FormulaTrace
open Text

namespace Extent

/-- Whether a rectangle is another one, perhaps widened to the left and upwards. -/
structure Extends (first later : Extent) : Prop where
  left : later.left ≤ first.left
  top : later.top ≤ first.top
  right : later.right = first.right
  bottom : later.bottom = first.bottom

namespace Extends

variable {first middle later : Extent}

theorem refl (extent : Extent) : extent.Extends extent := ⟨Nat.le_refl _, Nat.le_refl _, rfl, rfl⟩

theorem trans (one : first.Extends middle) (other : middle.Extends later) : first.Extends later :=
  ⟨Nat.le_trans other.left one.left, Nat.le_trans other.top one.top, other.right.trans one.right,
    other.bottom.trans one.bottom⟩

theorem antisymm (one : first.Extends later) (other : later.Extends first) : later = first := by
  obtain ⟨left, top, right, bottom⟩ := one
  obtain ⟨left', top', _, _⟩ := other
  obtain ⟨_, _, _, _⟩ := first
  obtain ⟨_, _, _, _⟩ := later
  simp only at left top right bottom left' top'
  rw [Nat.le_antisymm left left', Nat.le_antisymm top top', right, bottom]

end Extends

theorem extends_look (extent : Extent) (place : Position) : extent.Extends (extent.look place) :=
  ⟨look_left_le extent place, look_top_le extent place, look_right extent place,
    look_bottom extent place⟩

theorem look_eq_self_iff {extent : Extent} {place : Position} :
    extent.look place = extent ↔ ¬ extent.WidenedBy place := by
  constructor
  · intro same widened
    have front := look_lt_of_widened widened
    rw [same] at front
    omega
  · exact look_of_not_widened

end Extent

theorem Sheet.peek_peek (sheet : Sheet) (place : Position) :
    ((sheet.peek place).2.peek place).2 = (sheet.peek place).2 := by
  have last : (sheet.peek place).2.last = sheet.last := congrArg Face.last (sheet.peek_face place)
  by_cases behind : sheet.last.row < place.row ∨ sheet.last.col < place.col
  · have same : (sheet.peek place).2 = sheet := by rw [Sheet.peek, if_pos behind]
    rw [same, same]
  · have touched : (sheet.peek place).2 = sheet.touch place := by rw [Sheet.peek, if_neg behind]
    rw [← last] at behind
    have again : ((sheet.peek place).2.peek place).2 = (sheet.peek place).2.touch place := by
      rw [Sheet.peek, if_neg behind]
    rw [again, touched]
    unfold Sheet.touch
    cases sheet.extent with
    | none => simp [Extent.ofPosition, Extent.add]
    | some extent => simp [Extent.add]

theorem Sheet.used_fill {sheet : Sheet} {extent : Extent} (used : sheet.fill.used = some extent) :
    extent.left = 0 ∧ extent.top = 0 := by
  unfold Sheet.used at used
  split at used
  · split at used
    · cases used
    · cases used
      exact ⟨rfl, rfl⟩
  · cases same : sheet.extent with
    | none =>
      rw [fill, same] at used
      cases same.symm.trans used
    | some other =>
      rw [fill, same] at used
      simp only [touch, same] at used
      cases used
      exact ⟨Nat.min_zero _, Nat.min_zero _⟩

namespace Sheet

/-- The used range of a sheet as far as one can be told. -/
def reach (sheet : Sheet) : Except Failure (Option Extent) := sheet.answer sheet.used

section Cells

variable {α : Type} {step : Sheet → α × Sheet}

theorem inCells_inCells (again : ∀ sheet, (step (step sheet).2).2 = (step sheet).2)
    (faces : ∀ sheet, (step sheet).2.face = sheet.face) (sheet : Sheet) :
    (inCells step (inCells step sheet).2).2 = (inCells step sheet).2 := by
  have chart : (inCells step sheet).2.chart = sheet.chart :=
    congrArg Face.chart (inCells_view faces sheet)
  cases kind : sheet.chart with
  | true => simp [inCells, kind]
  | false =>
    rw [kind] at chart
    simp only [inCells, kind, Bool.false_eq_true, ↓reduceIte] at chart ⊢
    rw [if_neg (by simp [chart]), again]

theorem reach_inCells {widen : Extent → Extent} (faces : ∀ sheet, (step sheet).2.face = sheet.face)
    (used : ∀ sheet, (step sheet).2.used = sheet.used.map widen) (sheet : Sheet) :
    (inCells step sheet).2.reach = sheet.reach.map (Option.map widen) := by
  unfold reach
  rw [answer_map, answer_congr (inCells_view faces sheet)]
  unfold answer inCells
  dsimp only
  cases sheet.chart with
  | true => rfl
  | false => exact congrArg Except.ok (used sheet)

end Cells

end Sheet

theorem Except.map_injective {ε α β : Type} {change : α → β}
    (injective : Function.Injective change) :
    Function.Injective (Except.map change : Except ε α → Except ε β) := by
  intro one other same
  cases one <;> cases other <;> simp_all [Except.map, injective.eq_iff]

namespace OpenWorkbook

variable {workbook first second : OpenWorkbook} {name title address : String} {question : Question}

def looksAt (workbook : OpenWorkbook) (address : String) : Option (String × Position) :=
  match (separate address).1 with
  | none => none
  | some name =>
    match workbook.findTitle (some name) with
    | .error _ => none
    | .ok title => (Cell.read? address title).map fun cell => (title, ⟨cell.col, cell.row⟩)

/-- The title of the sheet that a question may change, and the change. -/
def visit (workbook : OpenWorkbook) : Question → Option (String × (Sheet → Sheet))
  | .cell address => (workbook.looksAt address).map fun look =>
    (look.1, fun sheet => (Sheet.inCells (fun sheet => sheet.peek look.2) sheet).2)
  | .range name | .grid name =>
    (workbook.findTitle (some name)).toOption.map fun title =>
      (title, fun sheet => (Sheet.inCells Sheet.usedRange sheet).2)
  | _ => none

theorem visitValues_sheets {α : Type} (title : String) (step : Sheet → α × Sheet)
    (workbook : OpenWorkbook) :
    ((visitValues title step).leaves workbook).sheets = match workbook.values with
      | some _ => workbook.sheets
      | none => amend title (fun sheet => (Sheet.inCells step sheet).2) workbook.sheets := by
  obtain ⟨sheets, values, index⟩ := workbook
  cases values with
  | none =>
    have same : (visitValues title step).leaves ⟨sheets, none, index⟩ =
      (visitSheet title step).leaves ⟨sheets, none, index⟩ := rfl
    rw [same, visitSheet_leaves]
  | some values =>
    unfold Reading.leaves visitValues
    simp only [ExceptT.run_mk, StateT.run]
    cases onSheet title (Sheet.inCells step) values <;> rfl

/-- A sheet is looked at twice where it stands for its own values, and the second look finds the
cell there. -/
theorem peeks_sheets (title : String) (place : Position)
    (told : Option Content → Option Content → Snapshot) (workbook : OpenWorkbook) :
    ((visitSheet title (fun sheet => sheet.peek place) >>= fun content =>
      visitValues title (fun sheet => sheet.peek place) >>= fun value =>
      (pure (told content value) : Reading OpenWorkbook Snapshot)).leaves workbook).sheets =
        amend title (fun sheet => (Sheet.inCells (fun sheet => sheet.peek place) sheet).2)
          workbook.sheets := by
  rw [Reading.bind_leaves, visitSheet_outcome, visitSheet_leaves]
  cases sheetNamed workbook.sheets title with
  | none => rfl
  | some sheet =>
    dsimp only
    have last (content : Option Content) (state : OpenWorkbook) :
        (visitValues title (fun sheet => sheet.peek place) >>= fun value =>
          (pure (told content value) : Reading OpenWorkbook Snapshot)).leaves state =
        (visitValues title fun sheet => sheet.peek place).leaves state := by
      rw [Reading.bind_leaves]
      split <;> rfl
    cases sheet.answer (sheet.peek place).1 with
    | error failure => rfl
    | ok content =>
      dsimp only
      rw [last, visitValues_sheets]
      have faces (sheet : Sheet) := sheet.peek_face place
      split
      · rfl
      · exact amend_amend (Sheet.inCells_inCells (fun sheet => sheet.peek_peek place) faces)
          (fun sheet => congrArg Sheet.Face.title (Sheet.inCells_view faces sheet)) workbook.sheets

theorem readCell_sheets (address : String) (workbook : OpenWorkbook) :
    ((readCell address).leaves workbook).sheets = match workbook.looksAt address with
      | some (title, place) => amend title
          (fun sheet => (Sheet.inCells (fun sheet => sheet.peek place) sheet).2) workbook.sheets
      | none => workbook.sheets := by
  unfold readCell looksAt
  cases (separate address).1 with
  | none => rfl
  | some name =>
    dsimp only
    rw [Reading.bind_leaves, resolveSheet_outcome, resolveSheet_leaves]
    cases workbook.findTitle (some name) with
    | error failure => rfl
    | ok title =>
      dsimp only
      rw [Reading.bind_leaves, Reading.ofExcept_outcome, Reading.ofExcept_leaves]
      unfold locate
      cases Cell.read? address title with
      | none => rfl
      | some cell => exact peeks_sheets title ⟨cell.col, cell.row⟩ _ workbook

theorem settle_leaves (address : String) (workbook : OpenWorkbook) :
    (settle address).leaves workbook = workbook := by
  unfold settle
  rw [Reading.bind_leaves]
  split
  · rw [Reading.bind_leaves]
    split <;> rfl
  · rfl

theorem consulted_leaves {α : Type} (address : String) (answer : Index → String → α)
    (workbook : OpenWorkbook) :
    ((do match (← get).index with
      | none => return none
      | some index =>
        return some (answer index (← settle address)) : Reading OpenWorkbook (Option α)).leaves
        workbook) = workbook := by
  rw [Reading.bind_leaves]
  change Reading.leaves _ workbook = workbook
  split
  · rfl
  · rw [Reading.bind_leaves, settle_leaves]
    split <;> rfl

theorem asked_sheets (workbook : OpenWorkbook) (question : Question) :
    (workbook.asked question).sheets = match workbook.visit question with
      | some (title, change) => amend title change workbook.sheets
      | none => workbook.sheets := by
  cases question with
  | titles => rfl
  | cell address =>
    refine (readCell_sheets address workbook).trans ?_
    dsimp only [visit]
    cases workbook.looksAt address <;> rfl
  | range name =>
    refine (resolveSheet_bind_sheets name Sheet.usedRange workbook).trans ?_
    dsimp only [visit]
    cases (workbook.findTitle (some name)).toOption <;> rfl
  | grid name =>
    refine (resolveSheet_bind_sheets name Sheet.grid workbook).trans ?_
    dsimp only [visit]
    simp only [Sheet.inCells, Sheet.grid_after]
    cases (workbook.findTitle (some name)).toOption <;> rfl
  | precedents address =>
    exact congrArg OpenWorkbook.sheets (consulted_leaves address Index.precedents workbook)
  | dependents address =>
    exact congrArg OpenWorkbook.sheets
      (consulted_leaves address (fun index known => index.dependents known (Cell.read? known ""))
        workbook)

theorem visit_face {change : Sheet → Sheet}
    (visited : workbook.visit question = some (title, change)) (sheet : Sheet) :
    (change sheet).face = sheet.face := by
  cases question with
  | cell address =>
    obtain ⟨look, _, same⟩ := Option.map_eq_some_iff.1 visited
    cases same
    exact Sheet.inCells_view (fun sheet => sheet.peek_face look.2) sheet
  | range name | grid name =>
    obtain ⟨other, _, same⟩ := Option.map_eq_some_iff.1 visited
    cases same
    exact Sheet.inCells_view Sheet.usedRange_face sheet
  | titles | precedents address | dependents address => cases visited

theorem titles_asked (workbook : OpenWorkbook) (question : Question) :
    (workbook.asked question).titles = workbook.titles := by
  unfold titles
  rw [asked_sheets]
  cases visited : workbook.visit question with
  | none => rfl
  | some visit =>
    exact amend_map (fun sheet => congrArg Sheet.Face.title (visit_face visited sheet))
      workbook.sheets

theorem titles_after (workbook : OpenWorkbook) (questions : List Question) :
    (workbook.after questions).titles = workbook.titles := by
  induction questions generalizing workbook with
  | nil => rfl
  | cons question rest ih => exact (ih _).trans (workbook.titles_asked question)

theorem looksAt_congr (same : first.titles = second.titles) (address : String) :
    first.looksAt address = second.looksAt address := by
  unfold looksAt
  simp only [findTitle_congr same]

def usedOn (workbook : OpenWorkbook) (title : String) : Option (Except Failure (Option Extent)) :=
  (sheetNamed workbook.sheets title).map Sheet.reach

/-- The used range of a sheet after a question, from what it was before. -/
def widening (workbook : OpenWorkbook) (title : String) (extent : Extent) : Question → Extent
  | .cell address =>
    match workbook.looksAt address with
    | some (other, place) => if title = other then extent.look place else extent
    | none => extent
  | _ => extent

def widened (widen : Extent → Extent) (told : Option (Except Failure (Option Extent))) :
    Option (Except Failure (Option Extent)) :=
  told.map (Except.map (Option.map widen))

theorem widened_self (told : Option (Except Failure (Option Extent))) :
    widened (fun extent => extent) told = told := by
  rcases told with _ | _ | _ | _ <;> rfl

theorem widened_widened (first later : Extent → Extent)
    (told : Option (Except Failure (Option Extent))) :
    widened later (widened first told) = widened (fun extent => later (first extent)) told := by
  rcases told with _ | _ | _ | _ <;> rfl

section Visits

variable {α : Type} {step : Sheet → α × Sheet} {widen : Extent → Extent}

theorem usedOn_amend (faces : ∀ sheet, (step sheet).2.face = sheet.face)
    (used : ∀ sheet, (step sheet).2.used = sheet.used.map widen) (sheets : List Sheet)
    (title other : String) :
    (sheetNamed (amend other (fun sheet => (Sheet.inCells step sheet).2) sheets) title).map
      Sheet.reach = widened (fun extent => if title = other then widen extent else extent)
        ((sheetNamed sheets title).map Sheet.reach) := by
  rw [sheetNamed_amend fun sheet => congrArg Sheet.Face.title (Sheet.inCells_view faces sheet)]
  cases found : sheetNamed sheets title with
  | none => rfl
  | some sheet =>
    rw [Option.map_some, Option.map_some, Option.map_some, title_of_sheetNamed found]
    split
    · exact congrArg some (Sheet.reach_inCells faces used sheet)
    · exact (widened_self _).symm

end Visits

theorem usedOn_asked (workbook : OpenWorkbook) (question : Question) (title : String) :
    (workbook.asked question).usedOn title =
      widened (fun extent => workbook.widening title extent question) (workbook.usedOn title) := by
  have still := widened_self (workbook.usedOn title)
  unfold usedOn at still ⊢
  rw [asked_sheets]
  cases question with
  | titles | precedents address | dependents address => exact still.symm
  | range name | grid name =>
    dsimp only [visit, widening]
    cases (workbook.findTitle (some name)).toOption with
    | none => exact still.symm
    | some other =>
      have kept (sheet : Sheet) : sheet.usedRange.2.used = sheet.used.map fun extent => extent := by
        rw [sheet.used_usedRange, Option.map_id']
      refine (usedOn_amend Sheet.usedRange_face kept workbook.sheets title other).trans ?_
      simp only [ite_self]
  | cell address =>
    dsimp only [visit, widening]
    cases workbook.looksAt address with
    | none => exact still.symm
    | some look =>
      exact usedOn_amend (fun sheet => sheet.peek_face look.2) (fun sheet => sheet.used_peek look.2)
        workbook.sheets title look.1

def widenings (workbook : OpenWorkbook) (title : String) (questions : List Question)
    (extent : Extent) : Extent :=
  questions.foldl (workbook.widening title) extent

theorem widening_congr (same : first.titles = second.titles) (title : String) :
    first.widening title = second.widening title := by
  funext extent question
  unfold widening
  simp only [looksAt_congr same]

theorem usedOn_after (workbook : OpenWorkbook) (questions : List Question) (title : String) :
    (workbook.after questions).usedOn title = widened (workbook.widenings title questions)
      (workbook.usedOn title) := by
  induction questions generalizing workbook with
  | nil => exact (widened_self _).symm
  | cons question rest ih =>
    refine (ih (workbook.asked question)).trans ?_
    rw [usedOn_asked, widened_widened]
    unfold widenings
    rw [widening_congr (workbook.titles_asked question)]
    rfl

theorem extends_widening (workbook : OpenWorkbook) (title : String) (extent : Extent)
    (question : Question) :
    extent.Extends (workbook.widening title extent question) := by
  unfold widening
  split
  · split
    · split
      · exact extent.extends_look _
      · exact .refl extent
    · exact .refl extent
  · exact .refl extent

theorem extends_widenings (workbook : OpenWorkbook) (title : String) (questions : List Question)
    (extent : Extent) :
    extent.Extends (workbook.widenings title questions extent) := by
  induction questions generalizing extent with
  | nil => exact .refl extent
  | cons question rest ih => exact (workbook.extends_widening title extent question).trans (ih _)

/-- A used range is in the end what it was only if no question changed it, for none makes it smaller
again. -/
theorem widenings_eq_self_iff {questions : List Question} {extent : Extent} :
    workbook.widenings title questions extent = extent ↔
      ∀ question ∈ questions, workbook.widening title extent question = extent := by
  induction questions with
  | nil => simp [widenings]
  | cons question rest ih =>
    rw [List.forall_mem_cons, ← ih]
    have first := workbook.extends_widening title extent question
    constructor
    · intro same
      have further := workbook.extends_widenings title rest
        (workbook.widening title extent question)
      have still : workbook.widening title extent question = extent := by
        apply first.antisymm
        have ends : workbook.widenings title rest (workbook.widening title extent question) =
          extent := same
        rwa [ends] at further
      refine ⟨still, ?_⟩
      unfold widenings at same ⊢
      rwa [List.foldl_cons, still] at same
    · rintro ⟨still, others⟩
      unfold widenings at others ⊢
      rwa [List.foldl_cons, still]

theorem widening_eq_self_iff {extent : Extent} :
    workbook.widening title extent question = extent ↔
      ∀ address place, question = .cell address → workbook.looksAt address = some (title, place) →
        ¬ extent.WidenedBy place := by
  constructor
  · rintro same address place rfl looks
    unfold widening at same
    simp only [looks, if_pos] at same
    exact Extent.look_eq_self_iff.1 same
  · intro never
    unfold widening
    split
    next address =>
      split
      next other place looks =>
        split
        next same =>
          rw [← same] at looks
          exact Extent.look_eq_self_iff.2 (never address place rfl looks)
        next => rfl
      next => rfl
    next => rfl

theorem usedOn_after_eq_iff {questions : List Question} :
    (workbook.after questions).usedOn title = workbook.usedOn title ↔
      ∀ extent, workbook.usedOn title = some (.ok (some extent)) →
        ∀ address place, .cell address ∈ questions →
        workbook.looksAt address = some (title, place) → ¬ extent.WidenedBy place := by
  rw [usedOn_after]
  rcases workbook.usedOn title with _ | failure | _ | extent
  · simp [widened]
  · simp [widened, Except.map]
  · simp [widened, Except.map]
  · simp only [widened, Except.map, Option.map_some, Option.some.injEq, Except.ok.injEq, forall_eq']
    rw [widenings_eq_self_iff]
    simp only [widening_eq_self_iff]
    constructor
    · intro kept address place asked
      exact kept _ asked address place rfl
    · rintro kept question asked address place rfl
      exact kept address place asked

theorem usedRange_outcome_inj (same : first.titles = second.titles) :
    (usedRange name).outcome first = (usedRange name).outcome second ↔
      ∀ title, second.findTitle (some name) = .ok title →
        first.usedOn title = second.usedOn title := by
  rw [usedRange_outcome, usedRange_outcome, findTitle_congr same]
  cases second.findTitle (some name) with
  | error failure => simp [Except.bind]
  | ok title =>
    have written : Function.Injective fun extent : Extent => qualify title extent.text := by
      intro one other both
      exact Extent.text_injective (qualify_injective one.isPlace_text other.isPlace_text both).2
    have told (sheet : Sheet) :
      sheet.answer (sheet.used.map fun extent => qualify title extent.text) =
        sheet.reach.map (Option.map fun extent => qualify title extent.text) :=
          (Sheet.answer_map _ sheet sheet.used).symm
    have ranges (one other : Sheet) :
      one.answer (one.used.map fun extent => qualify title extent.text) =
        other.answer (other.used.map fun extent => qualify title extent.text) ↔
          one.reach = other.reach := by
      rw [told, told]
      exact (Except.map_injective (Option.map_injective written)).eq_iff
    have missing (sheet : Sheet) :
      sheet.answer (sheet.used.map fun extent => qualify title extent.text) ≠
        .error (missingSheet title) := by
      unfold Sheet.answer
      split <;> simp [Sheet.noCells, missingSheet]
    unfold usedOn
    simp only [Except.bind, Except.ok.injEq, forall_eq']
    cases sheetNamed first.sheets title <;> cases sheetNamed second.sheets title <;>
      simp only [Option.map_some, Option.map_none, Option.some.injEq, ranges, reduceCtorEq, missing,
        Ne.symm (missing _)]

/-- Whether reading a cell widens the used range of the sheet that a name means. -/
def Widens (workbook : OpenWorkbook) (name address : String) : Prop :=
  ∃ title extent place, workbook.findTitle (some name) = .ok title ∧
    workbook.usedOn title = some (.ok (some extent)) ∧
    workbook.looksAt address = some (title, place) ∧ extent.WidenedBy place

/-- Once all cells from the first on were looked at for an index, no question changes a used
range. -/
theorem usedRange_after_indexed (sheets : List Sheet) (values : Option (List Sheet)) (limit : Int)
    (questions : List Question) (name : String) :
    (source.usedRange name).outcome ((start sheets values (some limit)).after questions) =
      (source.usedRange name).outcome (start sheets values (some limit)) := by
  refine (usedRange_outcome_inj (titles_after _ questions)).2 fun title _ =>
    usedOn_after_eq_iff.2 ?_
  rintro extent used address place _ _ ⟨_, _, front⟩
  obtain ⟨sheet, found, used⟩ := Option.map_eq_some_iff.1 used
  have used := (Sheet.answer_eq_ok.1 used).2
  obtain ⟨original, _, rfl⟩ := List.mem_map.1 (List.mem_of_find?_eq_some found)
  obtain ⟨left, top⟩ := original.used_fill used
  omega

end OpenWorkbook

end FormulaTrace
