import FormulaTrace.Proofs.Workbook.Budget

/-! What an inventory covers, sheet by sheet.
The candidates of an inventory are on sheets of the workbook.  A sheet that its own title means is
read under this title whatever becomes of the other sheets; and so an inventory that skips no sheet
has all its formulas among the candidates. -/
namespace FormulaTrace
open Text OpenWorkbook

theorem Reading.Keeps.gives {σ α : Type} {shown : σ → Prop} {reading : Reading σ α}
    (keeps : Keeps shown reading) {state after : σ} {value : α} (related : shown state)
    (given : reading.Gives state value after) : shown after := by
  have kept := keeps state related
  rwa [leaves, given] at kept

namespace Inventory

theorem mem_select {budget : Int} {entries : List (String × Option String)}
    (whole : (select budget entries).skipped = []) {title range : String}
    (listed : (title, some range) ∈ entries) :
    title ∈ (select budget entries).chosen := by
  induction entries generalizing budget with
  | nil => cases listed
  | cons entry rest ih =>
    obtain ⟨sheet, used⟩ := entry
    cases used with
    | none =>
      rcases List.mem_cons.1 listed with same | later
      · cases same
      · exact ih whole later
    | some address =>
      unfold select at whole ⊢
      dsimp only at whole ⊢
      split at whole
      next => cases whole
      next fits =>
        rw [if_neg fits]
        rcases List.mem_cons.1 listed with same | later
        · cases same
          exact List.mem_cons_self
        · exact List.mem_cons_of_mem _ (ih whole later)

theorem sheetCandidates_of_all {entries : List (String × Option FormulaGrid)}
    {candidates : List Candidate} (read : allCandidates entries = .ok candidates) {title : String}
    {grid : Option FormulaGrid} (listed : (title, grid) ∈ entries) :
    ∃ found, sheetCandidates title grid = .ok found ∧ found ⊆ candidates := by
  induction entries generalizing candidates with
  | nil => cases listed
  | cons entry rest ih =>
    obtain ⟨sheet, loaded⟩ := entry
    unfold allCandidates at read
    obtain ⟨first, here, read⟩ := Except.bind_eq_ok read
    obtain ⟨others, further, read⟩ := Except.bind_eq_ok read
    cases read
    rcases List.mem_cons.1 listed with same | later
    · cases same
      exact ⟨first, here, List.subset_append_left _ _⟩
    · obtain ⟨found, told, among⟩ := ih further later
      exact ⟨found, told, List.Subset.trans among (List.subset_append_right _ _)⟩

def OnSheet (sheet : String) (candidate : Candidate) : Prop :=
  ∃ place : Position, candidate.address = qualify sheet (addressText place.col place.row)

theorem candidate?_onSheet {sheet : String} {col row : Nat} {text : Option String}
    {found : Option Candidate} (read : candidate? sheet col row text = .ok found) :
    ∀ candidate ∈ found.toList, OnSheet sheet candidate := by
  unfold candidate? at read
  split at read
  · cases read
    nofun
  · split at read
    · split at read
      · cases read
        nofun
      · unfold namedAddress at read
        split at read
        · cases read
          rintro candidate ⟨⟩
          · exact ⟨⟨col, row⟩, rfl⟩
          · contradiction
        · cases read
    · cases read
      nofun

theorem rowCandidates_onSheet {sheet : String} {row col : Nat} {texts : List (Option String)}
    {found : List Candidate} (read : rowCandidates sheet row col texts = .ok found) :
    ∀ candidate ∈ found, OnSheet sheet candidate := by
  induction texts generalizing col found with
  | nil =>
    cases read
    nofun
  | cons text rest ih =>
    unfold rowCandidates at read
    obtain ⟨first, here, read⟩ := Except.bind_eq_ok read
    obtain ⟨others, further, read⟩ := Except.bind_eq_ok read
    cases read
    have further : rowCandidates sheet row ((col + 1 : Nat) : Int) rest = .ok others := further
    exact List.forall_mem_append.2 ⟨candidate?_onSheet here, ih further⟩

theorem gridCandidates_onSheet {sheet : String} {col row : Nat} {rows : List (List (Option String))}
    {found : List Candidate} (read : gridCandidates sheet col row rows = .ok found) :
    ∀ candidate ∈ found, OnSheet sheet candidate := by
  induction rows generalizing row found with
  | nil =>
    cases read
    nofun
  | cons texts rest ih =>
    unfold gridCandidates at read
    obtain ⟨first, here, read⟩ := Except.bind_eq_ok read
    obtain ⟨others, further, read⟩ := Except.bind_eq_ok read
    cases read
    have further : gridCandidates sheet col ((row + 1 : Nat) : Int) rest = .ok others := further
    exact List.forall_mem_append.2 ⟨rowCandidates_onSheet here, ih further⟩

theorem sheetCandidates_onSheet {sheet : String} {grid : Option FormulaGrid}
    {found : List Candidate} (read : sheetCandidates sheet grid = .ok found) :
    ∀ candidate ∈ found, OnSheet sheet candidate := by
  unfold sheetCandidates at read
  split at read
  · cases read
    nofun
  · split at read
    · cases read
      nofun
    · exact gridCandidates_onSheet read

theorem allCandidates_onSheet {entries : List (String × Option FormulaGrid)}
    {found : List Candidate} (read : allCandidates entries = .ok found) :
    ∀ candidate ∈ found, ∃ entry ∈ entries, OnSheet entry.1 candidate := by
  induction entries generalizing found with
  | nil =>
    cases read
    nofun
  | cons entry rest ih =>
    unfold allCandidates at read
    obtain ⟨first, here, read⟩ := Except.bind_eq_ok read
    obtain ⟨others, further, read⟩ := Except.bind_eq_ok read
    cases read
    refine List.forall_mem_append.2 ⟨fun candidate member => ?_, fun candidate member => ?_⟩
    · exact ⟨entry, List.mem_cons_self, sheetCandidates_onSheet here candidate member⟩
    · obtain ⟨other, listed, on⟩ := ih further candidate member
      exact ⟨other, List.mem_cons_of_mem _ listed, on⟩

theorem select_subset (budget : Int) (entries : List (String × Option String)) :
    (select budget entries).chosen ⊆ entries.map Prod.fst := by
  induction entries generalizing budget with
  | nil => exact List.nil_subset _
  | cons entry rest ih =>
    obtain ⟨sheet, used⟩ := entry
    cases used with
    | none => exact List.subset_cons_of_subset _ (ih budget)
    | some address =>
      unfold select
      dsimp only
      split
      · exact List.subset_cons_of_subset _ (ih budget)
      · exact List.cons_subset_cons _ (ih _)

variable {sheets : List Sheet} {values : Option (List Sheet)} {index : Option Index} {sheet : Sheet}
  {budget : Int} {workbook after : OpenWorkbook} {inventory : Inventory} {chosen : List String}
  {grids : List (Option FormulaGrid)}

theorem checked_usedRange_gives {name : String} {range : Option String}
    (shows : Shows sheets values index workbook)
    (given : (do source.checkCancelled "Dependents scan cancelled"; source.usedRange name :
    Reading _ _).Gives workbook
      range after) : (usedRange name).Gives workbook range after ∧
        Shows sheets values index after := by
  obtain ⟨_, _, checked, given⟩ := Reading.gives_bind.1 given
  cases checked
  exact ⟨given, (usedRange_gives shows given).2⟩

theorem Loads.shows (loads : Loads source budget workbook chosen grids inventory after)
    (shows : Shows sheets values index workbook) : Shows sheets values index after := by
  cases loads with
  | taken listed told selected loaded read =>
    cases listed
    have ranged : List.Forall₂ (fun _ _ => True) _ _ ∧ Shows sheets values index _ :=
      Reading.mapM_gives (fun _ _ _ _ shows step =>
        ⟨trivial, (checked_usedRange_gives shows step).2⟩) shows told
    have gridded : List.Forall₂ (fun _ _ => True) _ _ ∧ Shows sheets values index _ :=
      Reading.batch_gives (fun name _ _ _ shows step =>
        ⟨trivial, (formulaGrid_keeps name).gives shows step⟩) ranged.2 loaded
    exact gridded.2

theorem Loads.onSheets (loads : Loads source budget workbook chosen grids inventory after)
    (shows : Shows sheets values index workbook) :
    ∀ candidate ∈ inventory.candidates, ∃ sheet ∈ sheets, OnSheet sheet.title candidate := by
  cases loads with
  | @taken _ _ _ titles ranges _ _ _ listed told selected loaded read =>
    cases listed
    intro candidate member
    obtain ⟨⟨title, grid⟩, zipped, on⟩ := allCandidates_onSheet read candidate member
    have picked : title ∈ (select budget (workbook.titles.zip ranges)).chosen := by
      rw [selected]
      exact (List.of_mem_zip zipped).1
    obtain ⟨⟨_, range⟩, among, rfl⟩ := List.mem_map.1 (select_subset _ _ picked)
    have named := (List.of_mem_zip among).1
    rw [shows.titles] at named
    obtain ⟨sheet, inside, same⟩ := List.mem_map.1 named
    exact ⟨sheet, inside, same ▸ on⟩

section OwnTitle

variable (well : WellFormedSheets sheets) (listed : sheet ∈ sheets)
  (own : titleIn sheets (some sheet.title) = .ok sheet.title) (worksheet : sheet.chart = false)
include well listed own worksheet

/-- A sheet is told to be unused only if it has no formulas; of the others nothing is said. -/
theorem ranges_tell {titles : List String} {ranges : List (Option String)}
    (shows : Shows sheets values index workbook) (told : (titles.mapM fun title => do
      source.checkCancelled "Dependents scan cancelled"
      source.usedRange title).Gives workbook ranges after) :
    List.Forall₂ (fun title range => title = sheet.title → range = none → Reader.ofSheet sheet = [])
      titles ranges ∧ Shows sheets values index after := by
  refine Reading.mapM_gives (fun title state range after shows step => ?_) shows told
  obtain ⟨given, kept⟩ := checked_usedRange_gives shows step
  refine ⟨?_, kept⟩
  rintro rfl
  obtain ⟨_, _, yielded, known, _⟩ := usedRange_yields well listed own worksheet state shows
  obtain ⟨rfl, _⟩ := given.det yielded
  exact known

theorem grids_tell (inside : sheet.last.InGrid) (shows : Shows sheets values index workbook)
    (loaded : (Reading.batch source.delay source.formulaGrid chosen).Gives workbook grids after) :
    List.Forall₂ (fun title grid => title = sheet.title →
      sheetCandidates sheet.title grid = .ok ((Reader.ofSheet sheet).filterMap Reader.candidate?))
        chosen grids ∧
      Shows sheets values index after := by
  refine Reading.batch_gives (fun title state grid after shows step => ?_) shows loaded
  refine ⟨?_, (formulaGrid_keeps title).gives shows step⟩
  rintro rfl
  obtain ⟨_, _, yielded, known, _⟩ :=
    formulaGrid_yields well listed own worksheet inside state shows
  obtain ⟨rfl, _⟩ := Reading.Gives.det step yielded
  exact known

theorem Loads.subset_candidates (inside : sheet.last.InGrid)
    (loads : Loads source budget workbook chosen grids inventory after)
    (shows : Shows sheets values index workbook) (whole : inventory.skipped = []) :
    (Reader.ofSheet sheet).filterMap Reader.candidate? ⊆ inventory.candidates := by
  cases loads with
  | @taken _ _ _ _ ranges _ _ _ titled told selected loaded read =>
    cases titled
    obtain ⟨ranged, between⟩ := ranges_tell well listed own worksheet shows told
    obtain ⟨gridded, _⟩ := grids_tell well listed own worksheet inside between loaded
    have title : sheet.title ∈ workbook.titles := by
      rw [shows.titles]
      exact List.mem_map_of_mem listed
    obtain ⟨range, zipped, unused⟩ := exists_mem_zip ranged title
    cases range with
    | none =>
      rw [unused rfl rfl]
      exact List.nil_subset _
    | some address =>
      have skips : (select budget (workbook.titles.zip ranges)).skipped = [] := by
        rw [selected]
        exact whole
      have picked := mem_select skips zipped
      rw [selected] at picked
      obtain ⟨grid, zipped, candidates⟩ := exists_mem_zip gridded picked
      obtain ⟨found, told, among⟩ := sheetCandidates_of_all read zipped
      rw [candidates rfl] at told
      cases told
      exact among

end OwnTitle

end Inventory

end FormulaTrace
