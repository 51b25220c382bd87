import FormulaTrace.Proofs.Workbook.Cells
import FormulaTrace.Proofs.Workbook.Readers

/-! An open workbook with an index beside the same workbook without one. Both tell the same about
every cell.  The one answers from its index what a cell leads to, and the other leaves that to its
formulas. -/
namespace FormulaTrace
open Text

def Index.tells (index : Index) : Mode → String → List (List String)
  | .precedents, known => index.precedents known
  | .dependents, known => index.dependents known (Cell.read? known "")

namespace OpenWorkbook

variable {sheets : List Sheet} {values : Option (List Sheet)} {limits : Limits}

/-- Two states of a workbook that show the same, one with an index of the sheets. -/
def Beside (sheets : List Sheet) (values : Option (List Sheet)) (limit : Int)
    (first second : OpenWorkbook) :
    Prop :=
  Shows sheets values (some (Index.ofSheets limit sheets)) first ∧ Shows sheets values none second

def Known (sheets : List Sheet) (snapshot : Snapshot) : Prop :=
  ∃ sheet place, Tells sheets sheet place snapshot

theorem readCell_agree (limit : Int) (address : String) :
    Reading.Agree (Beside sheets values limit) (Beside sheets values limit) (Known sheets)
      (readCell address) (readCell address) := by
  intro first second related
  apply ((readCell_answers address).agree (readCell_answers address) first second related).mono
  rintro snapshot s _ t ⟨rfl, told, shows⟩
  exact ⟨rfl, exists_tells told, shows⟩

theorem readCell_gives {index : Option Index} {workbook after : OpenWorkbook} {address : String}
    {snapshot : Snapshot} (shows : Shows sheets values index workbook)
    (given : (readCell address).Gives workbook snapshot after) :
    Known sheets snapshot ∧ Shows sheets values index after := by
  obtain ⟨told, kept⟩ := (readCell_answers address).gives shows given
  exact ⟨exists_tells told, kept⟩

theorem Tells.reader {sheet : Sheet} {place : Position} {snapshot : Snapshot} {formula : String}
    (tells : Tells sheets sheet place snapshot) (spanned : sheet.Spanned)
    (written : snapshot.formula = some formula) :
    (⟨sheet.title, place, formula⟩ : Reader) ∈ Reader.all sheets := by
  have shown : (sheet.content place).value.formula? = some formula := by
    have facts := tells.formula
    rw [written] at facts
    unfold Sheet.Face.peek at facts
    split at facts
    · cases facts
    · exact facts.symm
  exact List.mem_flatMap.2 ⟨sheet, tells.listed,
    Reader.mem_ofSheet.2 ⟨rfl, Sheet.mem_positions_of_formula spanned shown, shown,
      tells.worksheet⟩⟩

theorem source_free (workbook : OpenWorkbook) : source.cancelled workbook = false := rfl

def consult {α : Type} (question : Index → Reading OpenWorkbook (Option α)) :
    Reading OpenWorkbook (Option α) := do
  match (← get).index with
  | none => return none
  | some index => question index

section Consulting

variable {workbook after : OpenWorkbook} {index : Index} {α : Type} {answer : Option α}
  {question : Index → Reading OpenWorkbook (Option α)}

theorem consult_gives (indexed : workbook.index = some index)
    (given : (question index).Gives workbook answer after) :
    (consult question).Gives workbook answer after := by
  apply Reading.gives_get_bind.2
  rw [indexed]
  exact given

theorem consult_gives_none (unindexed : workbook.index = none) :
    (consult question).Gives workbook none workbook := by
  apply Reading.gives_get_bind.2
  rw [unindexed]
  rfl

end Consulting

end OpenWorkbook

namespace Walk

open OpenWorkbook

variable {sheets : List Sheet} {values : Option (List Sheet)} {limit : Int}
  {workbook : OpenWorkbook}

theorem indexed_eq (mode : Mode) (address : String) :
    ∃ what, indexed source mode address = liftM (source.guard what (some address)
      (consult fun index => do return some (index.tells mode (← settle address)))) := by
  cases mode with
  | precedents => exact ⟨"get_direct_precedents", rfl⟩
  | dependents => exact ⟨"get_direct_dependents", rfl⟩

theorem indexed_gives {index : Index} (shows : Shows sheets values (some index) workbook)
    {address known : String} (settles : settled sheets address = .ok known) (mode : Mode)
    (progress : Progress) :
    ∃ after, Gives (indexed source mode address) progress workbook (some (index.tells mode known))
      progress after ∧ Shows sheets values (some index) after := by
  obtain ⟨after, ran, kept⟩ := settle_answers address workbook shows
  rw [settles] at ran
  obtain ⟨what, same⟩ := indexed_eq mode address
  have answered : (settle address >>= fun known => pure (some (index.tells mode known))).Gives
    workbook (some (index.tells mode known)) after := Reading.gives_bind.2 ⟨known, after, ran, rfl⟩
  refine ⟨after, ?_, kept⟩
  rw [same]
  exact gives_lift.2 ⟨Reading.gives_guard_of_free source_free what _
    (consult_gives shows.index answered), rfl⟩

theorem unindexed_gives (shows : Shows sheets values none workbook) (address : String) (mode : Mode)
    (progress : Progress) : Gives (indexed source mode address) progress workbook none progress
      workbook := by
  obtain ⟨what, same⟩ := indexed_eq mode address
  rw [same]
  exact gives_lift.2 ⟨Reading.gives_guard_of_free source_free what _
    (consult_gives_none shows.index), rfl⟩

theorem indexed_beside {sheet : Sheet} {place : Position} {snapshot : Snapshot}
    (tells : Tells sheets sheet place snapshot) (named : sheet.title ≠ "") (mode : Mode)
    (p q : Progress)
    {first second : OpenWorkbook} (beside : Beside sheets values limit first second) :
    ∃ after, Gives (indexed source mode snapshot.address) p first
        (some ((Index.ofSheets limit sheets).tells mode snapshot.address)) p after ∧
      Gives (indexed source mode snapshot.address) q second none q second ∧
      Beside sheets values limit after second := by
  obtain ⟨shows, unindexed⟩ := beside
  obtain ⟨after, told, kept⟩ := indexed_gives shows (tells.settled_address named) mode p
  exact ⟨after, told, unindexed_gives unindexed snapshot.address mode q, kept, unindexed⟩

end Walk

namespace Trace

/-- Two amounts on one sheet, their sum on another, and its double. -/
def ledger : List Sheet :=
  [("Data", [⟨⟨0, 0⟩, .int 2, none⟩, ⟨⟨0, 1⟩, .int 3, none⟩]),
    ("Sum 1", [⟨⟨0, 0⟩, .text "=SUM(data!A1:A2)", none⟩, ⟨⟨1, 0⟩, .text "=A1*2", none⟩])].map
    fun entry : String × List Entry => Sheet.ofEntries entry.1 entry.2

theorem ledger_wellFormed : WellFormedSheets ledger :=
  wellFormedSheets_ofEntries (by decide) (by decide)

end Trace

end FormulaTrace
