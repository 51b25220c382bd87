import FormulaTrace.Proofs.Trace.Reports

/-! Reports on traces that are cancelled before they start.
A cancelled trace stops before its first call.  The first sheet, which is asked for where a cell
names none and none is given, is looked for without a look at the cancellation. -/
namespace FormulaTrace

variable {σ α β : Type} {source : Source σ} {state : σ}

namespace Reading

/-- The reading fails with a failure and leaves the state as it is. -/
def Refuses (reading : Reading σ α) (state : σ) (failure : Failure) : Prop :=
  reading.outcome state = .error failure ∧ reading.leaves state = state

theorem Refuses.bind {reading : Reading σ α} {failure : Failure}
    (refuses : reading.Refuses state failure) (next : α → Reading σ β) :
    (reading >>= next).Refuses state failure := by
  unfold Refuses
  rw [bind_outcome, bind_leaves, refuses.1]
  exact ⟨rfl, refuses.2⟩

end Reading

theorem Source.guard_refuses (stopped : source.cancelled state = true) (what : String)
    (place : Option String) (reading : Reading σ α) :
    (source.guard what place reading).Refuses state
      (.cancelled ("Trace cancelled before " ++ what)) := by
  unfold Reading.Refuses
  rw [guard_outcome, guard_leaves, stopped]
  exact ⟨rfl, rfl⟩

theorem Walk.visit_refuses (stopped : source.cancelled state = true) (limits : Limits) (mode : Mode)
    (depth : Nat) (address : String) (progress : Progress) :
    Reading.Refuses ((visit source limits mode depth address).run progress) state
      (.cancelled "Trace cancelled before read_cell") := by
  rw [visit_eq]
  exact (((Source.guard_refuses stopped _ _ _).bind _).bind _).bind _

theorem Trace.run_cancelled (stopped : source.cancelled state = true) (limits : Limits)
    (target : Target) (mode : Mode) (asked : Option Int) :
    ∃ failure, (run source limits target mode asked).Refuses state failure ∧
      (failure = .cancelled "Trace cancelled before read_cell" ∨
        target.address = .error failure) := by
  unfold run
  cases named : target.address with
  | error failure => exact ⟨failure, ⟨rfl, rfl⟩, .inr rfl⟩
  | ok address => exact ⟨_, (Walk.visit_refuses stopped limits mode _ address {}).bind _, .inl rfl⟩

namespace Report

/-- A failure that says that the trace was cancelled or that there is no cell to be traced. -/
def Declines (failure : Failure) : Prop :=
  (∃ message, failure = .cancelled message) ∨ ∃ message, failure = .invalidInput message

theorem Declines.reported {failure : Failure} (declines : Declines failure) (cell : String) :
    ∃ report, ofFailure cell failure = .ok report ∧
      (report.status = .cancelled ∨ report.status = .invalidInput) := by
  rcases declines with ⟨message, rfl⟩ | ⟨message, rfl⟩
  · exact ⟨_, rfl, .inl rfl⟩
  · exact ⟨_, rfl, .inr rfl⟩

section Cancelled

variable (source : Source σ) (limits : Limits) (mode : Option String) (asked : Option Int)
  (state : σ)

theorem traced_cancelled (address : String) (record : Recorded σ) :
    ∃ failure, (traced (source.recorded (some 0)) limits mode (.ofDepth asked) address).Refuses
      record failure ∧ Declines failure := by
  have stopped : (source.recorded (some 0)).cancelled record = true := by
    simp [Reading.recorded_cancelled]
  rw [traced_ofDepth]
  obtain ⟨failure, refuses, cancelled | refused⟩ :=
    Trace.run_cancelled stopped limits (.text address) (Mode.ofText mode) asked
  · exact ⟨failure, refuses, .inl ⟨_, cancelled⟩⟩
  · exact ⟨failure, refuses, .inr (Trace.invalidInput_of_singleCell refused)⟩

variable (cell : String) (defaultSheet : Option String)

theorem produce_calls_cancelled :
    ((produce (source.recorded (some 0)) limits cell mode (.ofDepth asked) defaultSheet).leaves
      ⟨state, []⟩).calls =
      if seeksSheet cell defaultSheet then [⟨.sheetNames,
        Reading.failure? (source.sheetNames.outcome state), 0⟩]
      else [] := by
  cases several : coversSeveral cell with
  | true =>
    have idle : seeksSheet cell defaultSheet = false := by simp [seeksSheet, several]
    rw [(produce_several _ limits mode _ _ several).2, idle]
    rfl
  | false =>
    have stays : (produce (source.recorded (some 0)) limits cell mode (.ofDepth asked)
      defaultSheet).leaves ⟨state, []⟩ =
        (findTarget (source.recorded (some 0)) cell defaultSheet).leaves ⟨state, []⟩ := by
      rw [produce_leaves _ limits mode _ _ several]
      cases (findTarget (source.recorded (some 0)) cell defaultSheet).outcome ⟨state, []⟩ with
      | error failure => rfl
      | ok address =>
        obtain ⟨failure, refuses, _⟩ := traced_cancelled source limits mode asked address
          ((findTarget (source.recorded (some 0)) cell defaultSheet).leaves ⟨state, []⟩)
        exact refuses.2
    rw [stays, findTarget_leaves _ _ several]
    cases seeksSheet cell defaultSheet <;> rfl

end Cancelled

/-- A trace that is cancelled before it starts makes no call, and its report says that it was
cancelled or that the text is no cell, unless the first sheet is asked for.  That is the one call
then, and if it fails so does the trace; only a failure that has no message to be told gives way to
what comes of asking for it. -/
theorem produce_cancelled_beforehand (source : Source σ) (limits : Limits) (mode : Option String)
    (asked : Option Int) (state : σ) (cell : String) (defaultSheet : Option String) :
    let produced := produce (source.recorded (some 0)) limits cell mode (.ofDepth asked)
      defaultSheet
    let listed := source.sheetNames.outcome state
    (produced.leaves ⟨state, []⟩).calls =
        (if seeksSheet cell defaultSheet then [⟨.sheetNames, Reading.failure? listed, 0⟩] else []) ∧
      ((∃ report, produced.outcome ⟨state, []⟩ = .ok report ∧
          (report.status = .failed ↔ seeksSheet cell defaultSheet = true ∧
            ∃ failure, listed = .error failure) ∧
          (report.status = .failed ∨ report.status = .cancelled ∨ report.status = .invalidInput)) ∨
        seeksSheet cell defaultSheet = true ∧ ∃ failure instead, listed = .error failure ∧
          failure.message = .error instead ∧ produced.outcome ⟨state, []⟩ = ofUnfound instead) := by
  intro produced listed
  refine ⟨produce_calls_cancelled source limits mode asked state cell defaultSheet, ?_⟩
  cases several : coversSeveral cell with
  | true =>
    refine .inl ⟨_, (produce_several _ limits mode _ _ several).1, ?_, .inr (.inr rfl)⟩
    simp [seeksSheet, several, refusal]
  | false =>
    have ends : produced.outcome ⟨state, []⟩ = _ := produce_outcome _ limits mode _ _ several
    rw [ends]
    by_cases unlisted : seeksSheet cell defaultSheet = true ∧ ∃ cause, listed = .error cause
    · obtain ⟨seeks, cause, unnamed⟩ := unlisted
      have call : (source.recorded (some 0)).sheetNames.outcome ⟨state, []⟩ = .error cause :=
        unnamed
      rw [findTarget_unlisted seeks call]
      dsimp only
      cases told : cause.message with
      | ok text =>
        left
        unfold Failure.retold
        rw [told]
        exact ⟨_, rfl, ⟨fun _ => ⟨seeks, cause, unnamed⟩, fun _ => rfl⟩, .inl rfl⟩
      | error instead =>
        right
        unfold Failure.retold
        rw [told]
        exact ⟨seeks, cause, instead, unnamed, told, rfl⟩
    · left
      have declined : ∃ failure, Declines failure ∧
          produced.outcome ⟨state, []⟩ = ofFailure cell failure := by
        rw [ends]
        cases found : (findTarget (source.recorded (some 0)) cell defaultSheet).outcome
          ⟨state, []⟩ with
        | error failure =>
          rcases findTarget_eq_error several found with ⟨message, rfl⟩ | ⟨seeks, cause, unnamed, _⟩
          · exact ⟨_, .inr ⟨message, rfl⟩, rfl⟩
          · exact absurd ⟨seeks, cause, unnamed⟩ unlisted
        | ok address =>
          obtain ⟨failure, ⟨fails, _⟩, declines⟩ :=
            traced_cancelled source limits mode asked address
            ((findTarget (source.recorded (some 0)) cell defaultSheet).leaves ⟨state, []⟩)
          refine ⟨failure, declines, ?_⟩
          dsimp only
          rw [fails]
      obtain ⟨failure, declines, same⟩ := declined
      obtain ⟨report, reported, status⟩ := declines.reported cell
      rw [← ends]
      refine ⟨report, same.trans reported, ?_, .inr status⟩
      rcases status with cancelled | invalid
      · simp [cancelled, unlisted]
      · simp [invalid, unlisted]

def locked : Script where
  cells := []
  sheets := ["S"]
  ranges := []
  precedents := []
  dependents := []
  failures := [(.sheetNames, .system "locked")]
  cancelAfter := none

/-- The sheet of such a cell is asked for although the trace was cancelled, and the report says that
the trace failed. -/
theorem produce_cancelled_locked :
    let produced := produce (locked.source.recorded (some 0)) {} "A1" none (.ofDepth none) none
    (produced.leaves ⟨locked.start, []⟩).calls.map MadeCall.call = [.sheetNames] ∧
      (produced.outcome ⟨locked.start, []⟩).toOption.map Report.status = some .failed := by
  decide +kernel

end Report

end FormulaTrace
