import FormulaTrace.Proofs.Trace.Records

/-! The order in which a trace loads grids.
A scan asks every sheet for its used range and then loads grids of some of these sheets, one after
another as they were listed, whichever of the calls fail. -/
namespace FormulaTrace

variable {σ α β : Type}

def gridSheets (calls : List MadeCall) : List String :=
  calls.filterMap fun made => made.call.gridSheet?

def rangeSheets (calls : List MadeCall) : List String :=
  calls.filterMap fun made => made.call.rangeSheet?

/-- Grids are loaded of sheets that were asked for their used ranges, in the same order. -/
def InSheetOrder (calls : List MadeCall) : Prop := (gridSheets calls).Sublist (rangeSheets calls)

variable {calls more : List MadeCall} {sheets : List String}

theorem gridSheets_append (calls more : List MadeCall) :
    gridSheets (calls ++ more) = gridSheets calls ++ gridSheets more :=
  List.filterMap_append

theorem rangeSheets_append (calls more : List MadeCall) :
    rangeSheets (calls ++ more) = rangeSheets calls ++ rangeSheets more := List.filterMap_append

theorem gridSheets_of_batch (asked : calls.map MadeCall.call = sheets.map Call.formulaGrid) :
    gridSheets calls = sheets := by
  have seen : gridSheets calls = (calls.map MadeCall.call).filterMap Call.gridSheet? := by
    rw [List.filterMap_map]
    rfl
  rw [seen, asked, List.filterMap_map]
  exact List.filterMap_some

theorem InSheetOrder.ofNoGrid (none : gridSheets calls = []) : InSheetOrder calls := by
  unfold InSheetOrder
  rw [none]
  exact List.nil_sublist _

theorem InSheetOrder.append (first : InSheetOrder calls) (second : InSheetOrder more) :
    InSheetOrder (calls ++ more) := by
  unfold InSheetOrder
  rw [gridSheets_append, rangeSheets_append]
  exact List.Sublist.append first second

namespace Inventory

theorem select_sublist (budget : Int) (sheets : List String) (ranges : List (Option String)) :
    (select budget (sheets.zip ranges)).chosen.Sublist sheets := by
  induction sheets generalizing budget ranges with
  | nil => exact .slnil
  | cons sheet rest ih =>
    cases ranges with
    | nil => exact List.nil_sublist _
    | cons range ranges =>
      rw [List.zip_cons_cons]
      cases range with
      | none => exact (ih budget ranges).cons sheet
      | some address =>
        unfold select
        dsimp only
        split
        · exact (ih budget ranges).cons sheet
        · exact (ih _ ranges).cons_cons sheet

/-- A part of a scan that loads no grid and, where it succeeds, has asked for the used ranges of
some sheets. -/
def Asks (sheets : List String) (outcome : Except Failure α) (made : List MadeCall) : Prop :=
  gridSheets made = [] ∧ ∀ value, outcome = .ok value → rangeSheets made = sheets

theorem asks_pure (value : α) : (pure value : Reading (Recorded σ) α).Makes (Asks []) :=
  Reading.makes_ofExcept ⟨rfl, fun _ _ => rfl⟩

theorem asks_bind {first : Reading (Recorded σ) α} {next : α → Reading (Recorded σ) β}
    {before after : List String} (asks : first.Makes (Asks before))
    (rest : ∀ value, (next value).Makes (Asks after)) :
    (first >>= next).Makes (Asks (before ++ after)) := by
  refine asks.bind rest ?_ ?_
  · rintro failure made ⟨none, _⟩
    exact ⟨none, nofun⟩
  · rintro value made outcome more ⟨none, asked⟩ ⟨none', asked'⟩
    refine ⟨?_, fun answer given => ?_⟩
    · rw [gridSheets_append, none, none', List.nil_append]
    · rw [rangeSheets_append, asked value rfl, asked' answer given]

theorem asks_usedRange (source : Source σ) (moment : Option Nat) (sheet : String) :
    (checked (source.recorded moment) ((source.recorded moment).usedRange sheet)).Makes
      (Asks [sheet]) := by
  refine Reading.makes_checked ?_ ⟨rfl, nofun⟩
  intro record
  obtain ⟨made, adds, _, rfl⟩ := Reading.makes_recorded (.usedRange sheet)
    (source.usedRange sheet) record
  exact ⟨_, adds, rfl, fun _ _ => rfl⟩

theorem asks_usedRanges (source : Source σ) (moment : Option Nat) (sheets : List String) :
    (sheets.mapM fun sheet => checked (source.recorded moment)
      ((source.recorded moment).usedRange sheet)).Makes (Asks sheets) := by
  induction sheets with
  | nil =>
    rw [List.mapM_nil]
    exact asks_pure []
  | cons sheet rest ih =>
    have all := asks_bind (asks_usedRange source moment sheet) fun range =>
      asks_bind ih fun ranges => asks_pure (range :: ranges)
    rw [List.append_nil] at all
    rw [List.mapM_cons]
    exact all

theorem grids_makes (source : Source σ) (moment : Option Nat) (sheets : List String) :
    (checked (source.recorded moment) (grids (source.recorded moment) sheets)).Makes
      fun _ made => (gridSheets made).Sublist sheets := by
  refine Reading.makes_checked (fun record => ?_) (List.nil_sublist _)
  obtain ⟨made, adds, calls⟩ :=
    Reading.makes_batch .formulaGrid source.delay source.formulaGrid sheets record
  refine ⟨made, adds, ?_⟩
  simp only [gridSheets_of_batch calls, List.Sublist.refl]

theorem listing_makes (source : Source σ) (moment : Option Nat) (selection : Selection) :
    (do
      let found ← checked (source.recorded moment) (grids (source.recorded moment) selection.chosen)
      let candidates ← Reading.ofExcept
        ((allCandidates (selection.chosen.zip found)).mapError AddressError.failure)
      return (⟨candidates, selection.truncated, selection.skipped⟩ : Inventory) :
        Reading (Recorded σ) Inventory).Makes fun _ made =>
          (gridSheets made).Sublist selection.chosen := by
  have quiet (found : List (Option FormulaGrid)) : (do
      let candidates ← Reading.ofExcept
        ((allCandidates (selection.chosen.zip found)).mapError AddressError.failure)
      return (⟨candidates, selection.truncated, selection.skipped⟩ : Inventory) :
        Reading (Recorded σ) Inventory).Makes fun _ made => made = [] := by
    intro record
    refine ⟨[], ?_, rfl⟩
    rw [Reading.bind_leaves, Reading.ofExcept_outcome, Reading.ofExcept_leaves, List.append_nil]
    cases (allCandidates (selection.chosen.zip found)).mapError AddressError.failure <;> rfl
  refine (grids_makes source moment selection.chosen).bind quiet (fun _ _ within => within) ?_
  rintro found made _ _ within rfl
  rwa [List.append_nil]

theorem take_inSheetOrder (source : Source σ) (moment : Option Nat) (budget : Int) :
    (take (source.recorded moment) budget).Makes fun _ => InSheetOrder := by
  have named : (checked (source.recorded moment) (source.recorded moment).sheetNames).Makes
      fun _ made => gridSheets made = [] := by
    refine Reading.makes_checked (fun record => ?_) rfl
    obtain ⟨made, adds, _, rfl⟩ := Reading.makes_recorded .sheetNames source.sheetNames record
    exact ⟨_, adds, rfl⟩
  rw [take_eq]
  refine named.bind (fun sheets => ?_) (fun _ _ none => .ofNoGrid none) fun _ _ _ _ none later =>
    .append (.ofNoGrid none) later
  refine (asks_usedRanges source moment sheets).bind
    (fun ranges => listing_makes source moment (select budget (sheets.zip ranges)))
    (fun _ _ asked => .ofNoGrid asked.1) ?_
  rintro ranges made _ more ⟨none, asked⟩ within
  unfold InSheetOrder
  rw [gridSheets_append, rangeSheets_append, none, asked ranges rfl, List.nil_append]
  exact (within.trans (select_sublist budget sheets ranges)).trans (List.sublist_append_left _ _)

end Inventory

theorem Source.inSheetOrder_guard {source : Source (Recorded σ)} {what : String}
    {place : Option String} {call : Call} (none : call.gridSheet? = none) (reading : Reading σ α) :
    (source.guard what place (Reading.recorded call reading)).Makes fun _ => InSheetOrder := by
  refine Reading.makes_guard (Reading.makes_recorded call reading) ?_ (.ofNoGrid rfl)
  rintro _ _ ⟨moment, rfl⟩
  exact .ofNoGrid (by simp [gridSheets, none])

theorem Walk.inSheetOrder_asked (source : Source σ) (moment : Option Nat) :
    Walk.Asked (fun _ reading _ => reading.Makes fun _ => InSheetOrder) (source.recorded moment)
      (source.recorded moment) where
  pure _ := Reading.makes_ofExcept (.ofNoGrid rfl)
  bind first rest := first.bind rest (fun _ _ ordered => ordered) fun _ _ _ _ one other =>
    one.append other
  readCell _ := Source.inSheetOrder_guard rfl _
  precedents _ := Source.inSheetOrder_guard rfl _
  dependents _ := Source.inSheetOrder_guard rfl _
  inventory budget :=
    Reading.makes_guard (Inventory.take_inSheetOrder source moment budget)
      (fun _ _ ordered => ordered) (.ofNoGrid rfl)

theorem Trace.request_inSheetOrder (source : Source σ) (moment : Option Nat) (limits : Limits)
    (target : Target) (mode : Option String) (depth : Value) :
    (request (source.recorded moment) limits target mode depth).Makes fun _ => InSheetOrder := by
  have asked := Walk.inSheetOrder_asked source moment
  have taken : (Reading.ofExcept (arguments target mode depth) : Reading (Recorded σ) _).Makes
      fun _ => InSheetOrder :=
    Reading.makes_ofExcept (.ofNoGrid rfl)
  rw [request_eq]
  refine taken.bind ?_ (fun _ _ ordered => ordered) fun _ _ _ _ one other => one.append other
  rintro ⟨address, direction, bound⟩
  exact ofAddress_related asked limits address direction bound

end FormulaTrace
