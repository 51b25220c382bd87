import FormulaTrace.Proofs.Trace.Runs

/-!
What a search for the cells below a cell leaves as it was.

A search enters no cell, and an inventory that a walk has taken stays to its end: no other is taken,
and no more sheets are skipped.
-/
namespace FormulaTrace

variable {σ α β : Type}

namespace Progress

/-- An inventory that was taken is there still, and so are the sheets that it skipped. -/
def Keeps (progress later : Progress) : Prop :=
  progress.candidates.isSome = true →
    later.candidates = progress.candidates ∧ later.skipped = progress.skipped

variable {progress between later : Progress}

theorem Keeps.refl (progress : Progress) : progress.Keeps progress := fun _ => ⟨rfl, rfl⟩

theorem Keeps.trans (first : progress.Keeps between) (second : between.Keeps later) :
    progress.Keeps later := by
  intro taken
  obtain ⟨candidates, skipped⟩ := first taken
  rw [← candidates] at taken
  obtain ⟨candidates', skipped'⟩ := second taken
  exact ⟨candidates'.trans candidates, skipped'.trans skipped⟩

/-- What a search may do: no cell is entered, and an inventory stays. -/
structure Searched (progress later : Progress) : Prop where
  visited : later.visited = progress.visited
  keeps : progress.Keeps later

theorem Searched.trans (first : progress.Searched between) (second : between.Searched later) :
    progress.Searched later :=
  ⟨second.visited.trans first.visited, first.keeps.trans second.keeps⟩

end Progress

namespace Inventory

theorem select_truncated (budget : Int) (sheets : List (String × Option String)) :
    (select budget sheets).truncated = !(select budget sheets).skipped.isEmpty := by
  induction sheets generalizing budget with
  | nil => rfl
  | cons entry rest ih =>
    obtain ⟨sheet, _ | address⟩ := entry
    · exact ih budget
    · unfold select
      dsimp only
      split
      · rfl
      · exact ih _

theorem take_truncated {source : Source σ} {budget : Int} {state after : σ} {inventory : Inventory}
    (given : (take source budget).Gives state inventory after) :
    inventory.truncated = !inventory.skipped.isEmpty := by
  unfold take at given
  obtain ⟨_, _, _, given⟩ := Reading.gives_bind.1 given
  obtain ⟨sheets, _, _, given⟩ := Reading.gives_bind.1 given
  obtain ⟨ranges, _, _, given⟩ := Reading.gives_bind.1 given
  obtain ⟨_, _, _, given⟩ := Reading.gives_bind.1 given
  obtain ⟨grids, _, _, given⟩ := Reading.gives_bind.1 given
  obtain ⟨candidates, _, _, given⟩ := Reading.gives_bind.1 given
  cases given
  exact select_truncated budget (sheets.zip ranges)

end Inventory

namespace Walk

variable {source : Source σ} {limits : Limits} {mode : Mode} {progress later : Progress}
  {state after : σ}

theorem searched_pure {value result : α}
    (given : Gives (pure value) progress state result later after) :
    progress.Searched later := by
  obtain ⟨_, rfl, _⟩ := gives_pure.1 given
  exact ⟨rfl, .refl _⟩

theorem gather_searched {home : String} {addresses children : List String}
    (given : Gives (gather limits home addresses) progress state children later after) :
    progress.Searched later := by
  have rest := gives_note_bind.1 given
  obtain ⟨_, rfl, _⟩ := gives_pure.1 rest
  exact ⟨rfl, .refl _⟩

theorem fromFormula_searched {home : String} {formula : Option String} {children : List String}
    (given : Gives (fromFormula limits home formula) progress state children later after) :
    progress.Searched later := by
  unfold fromFormula at given
  cases formula with
  | none => exact searched_pure given
  | some text =>
    dsimp only at given
    split at given
    · exact searched_pure given
    · obtain ⟨visited, keeps⟩ := gather_searched (gives_note_bind.1 given)
      exact ⟨visited, keeps⟩

theorem inventory_searched {candidates : List Candidate}
    (given : Gives (inventory source limits) progress state candidates later after) :
    progress.Searched later := by
  have rest := gives_get_bind.1 given
  split at rest
  next => exact searched_pure rest
  next none =>
    obtain ⟨taken, middle, between, took, rest⟩ := gives_bind.1 rest
    obtain ⟨_, rfl⟩ := gives_lift.1 took
    have rest := gives_note_bind.1 (gives_modify_bind.1 rest)
    obtain ⟨_, rfl, _⟩ := gives_pure.1 rest
    refine ⟨rfl, fun some => ?_⟩
    rw [none] at some
    cases some

theorem fromInventory_searched {address : String} {children : List String}
    (given : Gives (fromInventory source limits address) progress state children later after) :
    progress.Searched later := by
  unfold fromInventory at given
  split at given
  · exact searched_pure given
  · obtain ⟨candidates, middle, between, took, rest⟩ := gives_bind.1 given
    exact (inventory_searched took).trans (gather_searched rest)

theorem below_searched {snapshot : Snapshot} {children : List String}
    (given : Gives (below source limits mode snapshot) progress state children later after) :
    progress.Searched later := by
  obtain ⟨answer, middle, between, asked, rest⟩ := gives_bind.1 given
  have kept : progress = middle := by
    cases mode <;> exact (gives_lift.1 asked).2
  subst kept
  cases answer with
  | some groups =>
    obtain ⟨visited, keeps⟩ := gather_searched (gives_modify_bind.1 rest)
    exact ⟨visited, keeps⟩
  | none =>
    have rest := gives_modify_bind.1 rest
    cases mode with
    | precedents =>
      obtain ⟨visited, keeps⟩ := fromFormula_searched rest
      exact ⟨visited, keeps⟩
    | dependents =>
      obtain ⟨visited, keeps⟩ := fromInventory_searched rest
      exact ⟨visited, keeps⟩

theorem arrive_keeps {address : String} {arrival : Arrival}
    (given : Gives (arrive source mode address) progress state arrival later after) :
    progress.Keeps later := by
  obtain ⟨snapshot, _, ⟨_, _, rfl⟩ | ⟨_, _, rfl⟩⟩ := arrive_gives given
  · exact .refl _
  · exact fun _ => ⟨rfl, rfl⟩

theorem leaf_keeps {address : String} {node : Node}
    (given : Gives (leaf source address) progress state node later after) :
    progress.Keeps later := by
  obtain ⟨snapshot, middle, between, reading, rest⟩ := gives_bind.1 given
  obtain ⟨_, rfl⟩ := gives_read reading
  exact (searched_pure rest).keeps

theorem mapM_keeps {step : α → Walk σ β} (items : List α)
    (steps : ∀ item progress state result later after,
      Gives (step item) progress state result later after → progress.Keeps later) {results : List β}
    (given : Gives (items.mapM step) progress state results later after) :
    progress.Keeps later := by
  induction items generalizing progress state results later after with
  | nil =>
    rw [List.mapM_nil] at given
    exact (searched_pure given).keeps
  | cons item rest ih =>
    rw [List.mapM_cons] at given
    obtain ⟨result, middle, between, first, given⟩ := gives_bind.1 given
    obtain ⟨others, further, beyond, second, given⟩ := gives_bind.1 given
    exact ((steps item progress state result middle between first).trans (ih second)).trans
      (searched_pure given).keeps

theorem child_keeps {depth : Nat}
    (visits : ∀ address progress state result later after,
      Gives (visit source limits mode depth address) progress state result later after →
      progress.Keeps later) {address : String} {node : Node}
    (given : Gives (child source limits mode depth address) progress state node later after) :
    progress.Keeps later := by
  obtain ⟨visited, middle, between, visiting, rest⟩ := gives_bind.1 given
  apply (visits _ _ _ _ _ _ visiting).trans
  cases visited with
  | some tree => exact (searched_pure rest).keeps
  | none => exact leaf_keeps rest

theorem visit_keeps_of_descend {depth : Nat}
    (inner : ∀ snapshot progress state children later after,
      Gives (descend source limits mode depth snapshot) progress state children later after →
      progress.Keeps later) {address : String} {result : Option Node}
    (given : Gives (visit source limits mode depth address) progress state result later after) :
    progress.Keeps later := by
  rw [visit_eq] at given
  obtain ⟨arrival, middle, between, arrived, rest⟩ := gives_bind.1 given
  apply (arrive_keeps arrived).trans
  cases arrival with
  | again snapshot => exact (searched_pure rest).keeps
  | constant => exact (searched_pure rest).keeps
  | entered snapshot =>
    obtain ⟨children, further, beyond, descended, rest⟩ := gives_bind.1 rest
    exact (inner _ _ _ _ _ _ descended).trans (searched_pure rest).keeps

theorem descend_keeps (depth : Nat) {snapshot : Snapshot} {children : List Node}
    (given : Gives (descend source limits mode depth snapshot) progress state children later
      after) :
    progress.Keeps later := by
  induction depth generalizing snapshot progress state children later after with
  | zero => exact (searched_pure given).keeps
  | succ depth ih =>
    obtain ⟨addresses, middle, between, found, rest⟩ := gives_bind.1 given
    apply (below_searched found).keeps.trans
    refine mapM_keeps addresses (fun address progress state node later after given => ?_) rest
    refine child_keeps (fun _ _ _ _ _ _ visiting => ?_) given
    exact visit_keeps_of_descend (fun _ _ _ _ _ _ descended => ih descended) visiting

theorem visit_keeps (depth : Nat) {address : String} {result : Option Node}
    (given : Gives (visit source limits mode depth address) progress state result later after) :
    progress.Keeps later :=
  visit_keeps_of_descend (fun _ _ _ _ _ _ descended => descend_keeps depth descended) given

theorem inventory_first {candidates : List Candidate} (none : progress.candidates = none)
    (given : Gives (inventory source limits) progress state candidates later after) :
    ∃ taken, (source.guard "dependents scan" Option.none
      (Inventory.take source limits.maxScanCells)).Gives state taken after ∧
      later.candidates = some taken.candidates ∧ later.skipped = progress.skipped ++
        taken.skipped := by
  have rest := gives_get_bind.1 given
  rw [none] at rest
  obtain ⟨taken, middle, between, took, rest⟩ := gives_bind.1 rest
  obtain ⟨guarded, rfl⟩ := gives_lift.1 took
  have rest := gives_note_bind.1 (gives_modify_bind.1 rest)
  obtain ⟨_, rfl, rfl⟩ := gives_pure.1 rest
  exact ⟨taken, guarded, rfl, rfl⟩

theorem arrive_first {address : String} {arrival : Arrival} (fresh : progress.visited = [])
    (given : Gives (arrive source .dependents address) progress state arrival later after) :
    ∃ snapshot, arrival = .entered snapshot ∧
      (source.guard "read_cell" (some address) (source.readCell address)).Gives state snapshot
        after ∧
      later = { progress with visited := [snapshot.address] } := by
  obtain ⟨snapshot, guarded, ⟨old, _, _⟩ | ⟨_, rfl, rfl⟩⟩ := arrive_gives given
  · rw [fresh] at old
    cases old
  · rw [fresh, if_neg (by simp)]
    exact ⟨snapshot, rfl, guarded, rfl⟩

end Walk

end FormulaTrace
