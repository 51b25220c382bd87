import FormulaTrace.Proofs.Display.Unshown
import FormulaTrace.Proofs.Trace.Cancellation
import FormulaTrace.Trace.Report

/-! Reports on traces.
The search for the cell, the trace and the text of its outcome have their own reports on failures.
A failure that none of them reports is passed on; it comes from a call to the source or from a value
without a text. -/
namespace FormulaTrace

variable {σ α : Type}

namespace Report

open Trace (Stems)

variable {cell : String} {defaultSheet : Option String}

section Stages

theorem orReport_outcome (reading : Reading σ α) (report : Failure → Except Failure Report)
    (next : α → Reading σ Report) (state : σ) :
    (orReport reading report next).outcome state = match reading.outcome state with
      | .ok value => (next value).outcome (reading.leaves state)
      | .error failure => report failure := by
  unfold orReport
  rw [Reading.bind_outcome]
  have lifted : Reading.outcome (ExceptT.lift reading.run) state = .ok (reading.outcome state) :=
    rfl
  rw [lifted]
  cases reading.outcome state <;> rfl

theorem orReport_leaves (reading : Reading σ α) (report : Failure → Except Failure Report)
    (next : α → Reading σ Report) (state : σ) :
    (orReport reading report next).leaves state = match reading.outcome state with
      | .ok value => (next value).leaves (reading.leaves state)
      | .error _ => reading.leaves state := by
  unfold orReport
  rw [Reading.bind_leaves]
  have lifted : Reading.outcome (ExceptT.lift reading.run) state = .ok (reading.outcome state) :=
    rfl
  rw [lifted]
  cases reading.outcome state <;> rfl

variable (source : Source σ) (limits : Limits) (mode : Option String) (depth : Value) (state : σ)

theorem produce_several (several : coversSeveral cell = true) :
    (produce source limits cell mode depth defaultSheet).outcome state =
        .ok (refusal .invalidInput
          "Error: trace_dependencies expects a single cell, not a range.") ∧
      (produce source limits cell mode depth defaultSheet).leaves state = state := by
  unfold produce
  rw [if_pos several]
  exact ⟨rfl, rfl⟩

theorem produce_outcome (single : coversSeveral cell = false) :
    (produce source limits cell mode depth defaultSheet).outcome state =
      match (findTarget source cell defaultSheet).outcome state with
      | .error failure => ofUnfound failure
      | .ok address =>
        match (traced source limits mode depth address).outcome
          ((findTarget source cell defaultSheet).leaves state) with
        | .error failure => ofFailure cell failure
        | .ok trace => ofTrace cell trace := by
  unfold produce
  rw [if_neg (by simp [single]), orReport_outcome]
  cases (findTarget source cell defaultSheet).outcome state with
  | error failure => rfl
  | ok address =>
    dsimp only
    rw [orReport_outcome]
    cases (traced source limits mode depth address).outcome _ <;> rfl

theorem produce_leaves (single : coversSeveral cell = false) :
    (produce source limits cell mode depth defaultSheet).leaves state =
      match (findTarget source cell defaultSheet).outcome state with
      | .error _ => (findTarget source cell defaultSheet).leaves state
      | .ok address =>
        (traced source limits mode depth address).leaves
          ((findTarget source cell defaultSheet).leaves state) := by
  unfold produce
  rw [if_neg (by simp [single]), orReport_leaves]
  cases (findTarget source cell defaultSheet).outcome state with
  | error failure => rfl
  | ok address =>
    dsimp only
    rw [orReport_leaves]
    cases (traced source limits mode depth address).outcome _ <;> rfl

theorem traced_ofDepth (asked : Option Int) (address : String) :
    traced source limits mode (.ofDepth asked) address = Trace.run source limits (.text address)
      (Mode.ofText mode) asked := by
  unfold traced
  rw [Value.askedDepth_ofDepth]
  rfl

end Stages

/-! ### The search for the cell -/

def seeksSheet (cell : String) (defaultSheet : Option String) : Bool :=
  !coversSeveral cell && defaultSheet.isNone && (separate cell).1.isNone

theorem seeksSheet_of_single (single : coversSeveral cell = false) :
    seeksSheet cell defaultSheet = (defaultSheet.isNone && (separate cell).1.isNone) := by
  simp [seeksSheet, single]

section Search

variable (source : Source σ) (state : σ)

theorem firstSheet_outcome :
    (firstSheet source).outcome state = match source.sheetNames.outcome state with
      | .error failure => .error (failure.retold "list_sheets failed" none)
      | .ok [] => .error (.invalidInput "Workbook has no sheets")
      | .ok (sheet :: _) => .ok sheet := by
  unfold firstSheet
  rw [Reading.bind_outcome]
  have adapted : Reading.outcome
    (source.sheetNames.adapt fun failure => failure.retold "list_sheets failed" none) state =
      (source.sheetNames.outcome state).mapError fun failure =>
        failure.retold "list_sheets failed" none := rfl
  rw [adapted]
  cases source.sheetNames.outcome state with
  | error failure => rfl
  | ok sheets => cases sheets <;> rfl

theorem firstSheet_leaves : (firstSheet source).leaves state = source.sheetNames.leaves state := by
  unfold firstSheet
  rw [Reading.bind_leaves]
  have adapted : Reading.outcome
    (source.sheetNames.adapt fun failure => failure.retold "list_sheets failed" none) state =
      (source.sheetNames.outcome state).mapError fun failure =>
        failure.retold "list_sheets failed" none := rfl
  rw [adapted]
  cases source.sheetNames.outcome state with
  | error failure => rfl
  | ok sheets => cases sheets <;> rfl

theorem findTarget_leaves (single : coversSeveral cell = false) :
    (findTarget source cell defaultSheet).leaves state =
    if seeksSheet cell defaultSheet then source.sheetNames.leaves state else state := by
  rw [seeksSheet_of_single single]
  unfold findTarget
  cases defaultSheet with
  | some sheet => rfl
  | none =>
    dsimp only
    cases (separate cell).1.isNone with
    | false => rfl
    | true =>
      rw [if_pos rfl, Reading.bind_leaves, firstSheet_leaves]
      cases (firstSheet source).outcome state <;> rfl

variable {source state} {failure : Failure}

theorem findTarget_unlisted {cause : Failure} (seeks : seeksSheet cell defaultSheet = true)
    (unlisted : source.sheetNames.outcome state = .error cause) :
    (findTarget source cell defaultSheet).outcome state = .error
      (cause.retold "list_sheets failed" none) := by
  simp only [seeksSheet, Bool.and_eq_true, Option.isNone_iff_eq_none] at seeks
  obtain ⟨⟨_, rfl⟩, unnamed⟩ := seeks
  unfold findTarget
  dsimp only
  rw [if_pos (by simp [unnamed]), Reading.bind_outcome, firstSheet_outcome, unlisted]

theorem invalidInput_of_placed {home : Reading σ String}
    (failed : (home >>= fun home =>
      Reading.ofExcept ((singleCell cell home).mapError TargetError.failure)).outcome state =
        .error failure) : home.outcome state = .error failure ∨
        ∃ message, failure = .invalidInput message := by
  rw [Reading.bind_outcome] at failed
  cases found : home.outcome state with
  | error cause =>
    rw [found] at failed
    exact .inl failed
  | ok sheet =>
    rw [found] at failed
    dsimp only at failed
    rw [Reading.ofExcept_outcome] at failed
    exact .inr (Trace.invalidInput_of_singleCell failed)

theorem findTarget_eq_error (single : coversSeveral cell = false)
    (failed : (findTarget source cell defaultSheet).outcome state = .error failure) :
    (∃ message, failure = .invalidInput message) ∨ seeksSheet cell defaultSheet = true ∧
      ∃ cause, source.sheetNames.outcome state = .error cause ∧
        failure = cause.retold "list_sheets failed" none := by
  rw [seeksSheet_of_single single]
  unfold findTarget at failed
  cases defaultSheet with
  | some sheet =>
    rcases invalidInput_of_placed failed with lost | refused
    · cases lost
    · exact .inl refused
  | none =>
    dsimp only at failed
    split at failed
    next unnamed =>
      rcases invalidInput_of_placed failed with lost | refused
      · rw [firstSheet_outcome] at lost
        cases named : source.sheetNames.outcome state with
        | error cause =>
          rw [named] at lost
          cases lost
          exact .inr ⟨by simpa using unnamed, cause, rfl, rfl⟩
        | ok sheets =>
          rw [named] at lost
          cases sheets with
          | nil =>
            cases lost
            exact .inl ⟨_, rfl⟩
          | cons sheet rest => cases lost
      · exact .inl refused
    next =>
      rcases invalidInput_of_placed failed with lost | refused
      · cases lost
      · exact .inl refused

end Search

/-! ### Failures that are not reported -/

/-- What is passed on where a failure is not reported: the failure itself unless it is about the
input or of the source, and otherwise what comes of asking for its message. -/
def Escapes (cause failure : Failure) : Prop :=
  match cause.bare with
  | .invalidInput _ | .source _ _ _ => cause.message = .error failure
  | _ => failure = cause

section Escapes

variable {cause failure : Failure} {report : Report} {trace : Trace}

theorem ofUnfound_eq_error : ofUnfound cause = .error failure ↔ Escapes cause failure := by
  unfold ofUnfound Escapes
  cases cause.bare with
  | invalidInput message => exact Except.map_eq_error
  | source message address reason => exact Except.map_eq_error
  | _ => simp [eq_comm]

theorem ofFailure_eq_error :
    ofFailure cell cause = .error failure ↔ (∀ message, cause.bare ≠ .cancelled message) ∧
      Escapes cause failure := by
  rw [← ofUnfound_eq_error]
  unfold ofFailure
  split
  next message same => simp [same]
  next other => exact ⟨fun escapes => ⟨other, escapes⟩, And.right⟩

theorem ofTrace_eq_error : ofTrace cell trace = .error failure ↔
    ∃ root, trace.root = some root ∧ FirstFails Node.IsShown (·.Unshown failure) root.preorder := by
  unfold ofTrace
  cases trace.root with
  | none => simp
  | some root => simp [traceText, Except.map_eq_error, Node.render_eq_error]

theorem cancelled_of_escapes (plain : Trace.Plain cause) (escapes : Escapes cause failure) :
    ∃ message, cause.bare = .cancelled message := by
  cases plain with
  | invalidInput message => cases escapes
  | source message address reason => cases escapes
  | cancelled message => exact ⟨message, rfl⟩

theorem retold_eq (cause : Failure) (what : String) (address : Option String) :
    (∃ message, cause.retold what address = .source message address (some cause)) ∨
      cause.message = .error (cause.retold what address) := by
  unfold Failure.retold
  cases cause.message with
  | ok text => exact .inl ⟨_, rfl⟩
  | error instead => exact .inr rfl

/-- A report has a text, and a result with a root, just if it says that all went well. -/
def Consistent (report : Report) : Prop :=
  (report.status = .ok ↔ report.text.isSome = true) ∧
    (report.status = .ok ↔ ∃ root, report.result.bind Trace.root = some root)

theorem consistent_refusal {status : Status} (refused : status ≠ .ok) (message : String) :
    (refusal status message).Consistent := by
  simp [Consistent, refusal, refused]

theorem consistent_quoting {status : Status} (refused : status ≠ .ok) {opening : String}
    (given : quoting status opening cause = .ok report) : report.Consistent := by
  obtain ⟨message, -, rfl⟩ := Except.map_eq_ok given
  exact consistent_refusal refused _

theorem consistent_ofUnfound (given : ofUnfound cause = .ok report) : report.Consistent := by
  unfold ofUnfound at given
  split at given
  · exact consistent_quoting (by decide) given
  · exact consistent_quoting (by decide) given
  · cases given

theorem consistent_ofFailure (given : ofFailure cell cause = .ok report) : report.Consistent := by
  unfold ofFailure at given
  split at given
  · cases given
    exact consistent_refusal (by decide) _
  · exact consistent_ofUnfound given

theorem consistent_ofTrace (given : ofTrace cell trace = .ok report) : report.Consistent := by
  unfold ofTrace at given
  cases found : trace.root with
  | none =>
    rw [found] at given
    cases given
    simp [Consistent, found]
  | some root =>
    rw [found] at given
    obtain ⟨text, -, rfl⟩ := Except.map_eq_ok given
    simp [Consistent, found]

def ofCancelled (cell : String) : Report :=
  refusal .cancelled ("Trace of " ++ cell ++ " was cancelled.")

theorem ofFailure_cancelled {message : String} (cancelled : cause.bare = .cancelled message)
    (cell : String) :
    ofFailure cell cause = .ok (ofCancelled cell) := by
  unfold ofFailure
  rw [cancelled]
  rfl

end Escapes

/-! ### What comes of a report -/

theorem produce_consistent (source : Source σ) (limits : Limits) (mode : Option String)
    (depth : Value) (state : σ) {report : Report}
    (given : (produce source limits cell mode depth defaultSheet).outcome state = .ok report) :
    report.Consistent := by
  cases several : coversSeveral cell with
  | true =>
    rw [(produce_several source limits mode depth state several).1] at given
    cases given
    exact consistent_refusal (by decide) _
  | false =>
    rw [produce_outcome source limits mode depth state several] at given
    split at given
    · exact consistent_ofUnfound given
    · split at given
      · exact consistent_ofFailure given
      · exact consistent_ofTrace given

section Endings

variable (source : Source σ) (limits : Limits) (mode : Option String) (depth : Value) (state : σ)
  (single : coversSeveral cell = false)
include single

theorem produce_eq_error (failure : Failure) :
    (produce source limits cell mode depth defaultSheet).outcome state = .error failure ↔
      (∃ cause, ((findTarget source cell defaultSheet).outcome state = .error cause ∨
        ∃ address, (findTarget source cell defaultSheet).outcome state = .ok address ∧
          (traced source limits mode depth address).outcome
              ((findTarget source cell defaultSheet).leaves state) = .error cause ∧
            ∀ message, cause.bare ≠ .cancelled message) ∧ Escapes cause failure) ∨
        ∃ address result root, (findTarget source cell defaultSheet).outcome state = .ok address ∧
          (traced source limits mode depth address).outcome
              ((findTarget source cell defaultSheet).leaves state) = .ok result ∧
            result.root = some root ∧
              FirstFails Node.IsShown (·.Unshown failure) root.preorder := by
  rw [produce_outcome _ limits mode _ _ single]
  generalize (findTarget source cell defaultSheet).leaves state = between
  cases (findTarget source cell defaultSheet).outcome state with
  | error cause => simp [ofUnfound_eq_error]
  | ok address =>
    dsimp only
    cases ended : (traced source limits mode depth address).outcome between with
    | error cause => simp [ofFailure_eq_error, ended]
    | ok result => simp [ofTrace_eq_error, ended]

theorem produce_of_cancelled {address message : String} {cause : Failure}
    (placed : (findTarget source cell defaultSheet).outcome state = .ok address)
    (failed : (traced source limits mode depth address).outcome
      ((findTarget source cell defaultSheet).leaves state) = .error cause)
    (cancelled : cause.bare = .cancelled message) :
    (produce source limits cell mode depth defaultSheet).outcome state =
      .ok (ofCancelled cell) := by
  rw [produce_outcome _ limits mode _ _ single, placed]
  dsimp only
  rw [failed]
  exact ofFailure_cancelled cancelled cell

end Endings

section Produced

variable (source : Source σ) (event : Option Nat) (limits : Limits) (mode : Option String)
  (asked : Option Int) (cell : String) (defaultSheet : Option String) (state : σ)

/-- The search is the same whether or not the source is cancelled, and the trace is cancelled or it
is the same too. -/
theorem produce_follows :
    let produced (event : Option Nat) :=
      (produce (source.recorded event) limits cell mode (.ofDepth asked) defaultSheet).outcome
        ⟨state, []⟩
    produced event = produced none ∨ produced event = .ok (ofCancelled cell) := by
  intro produced
  cases several : coversSeveral cell with
  | true =>
    have refused (event : Option Nat) : produced event = _ :=
      (produce_several _ limits mode _ _ several).1
    exact .inl ((refused event).trans (refused none).symm)
  | false =>
    have reported (event : Option Nat) : produced event = _ :=
      produce_outcome _ limits mode _ _ several
    have search : findTarget (source.recorded event) cell defaultSheet =
        findTarget (source.recorded none) cell defaultSheet := rfl
    rw [reported, reported, search]
    cases (findTarget (source.recorded none) cell defaultSheet).outcome ⟨state, []⟩ with
    | error cause => exact .inl rfl
    | ok address =>
      dsimp only
      rw [traced_ofDepth, traced_ofDepth, Trace.run_eq, Trace.run_eq]
      rcases (Trace.request_follows source event limits (.text address) _ _ _).2 with ⟨same,
        _⟩ | ⟨⟨message, ended⟩, _⟩
      · left
        rw [same]
      · right
        rw [ended]
        rfl

variable {cell}

/-- A failure that is not reported comes from a call. -/
theorem stems_of_escapes (single : coversSeveral cell = false) {cause failure : Failure}
    (escapes : Escapes cause failure)
    (stopped : (findTarget (source.recorded event) cell defaultSheet).outcome ⟨state, []⟩ =
      .error cause ∨ ∃ address, (findTarget (source.recorded event) cell defaultSheet).outcome
      ⟨state, []⟩ = .ok address ∧
      (traced (source.recorded event) limits mode (.ofDepth asked) address).outcome
      ((findTarget (source.recorded event) cell defaultSheet).leaves ⟨state, []⟩) = .error cause ∧
      ∀ message, cause.bare ≠ .cancelled message) :
    Stems ((produce (source.recorded event) limits cell mode (.ofDepth asked) defaultSheet).leaves
      ⟨state, []⟩).calls cause := by
  rw [produce_leaves _ limits mode _ _ single]
  rcases stopped with lost | ⟨address, found, failed, other⟩
  · rw [lost]
    dsimp only
    rcases findTarget_eq_error single lost with ⟨message, rfl⟩ | ⟨seeks, reason, unlisted, rfl⟩
    · cases escapes
    · rw [findTarget_leaves _ _ single, if_pos seeks]
      rcases retold_eq reason "list_sheets failed" none with ⟨message, told⟩ | untold
      · rw [told] at escapes
        cases escapes
      · refine ⟨⟨.sheetNames, some reason, 0⟩, ?_, reason, rfl, .inr untold⟩
        have call : source.sheetNames.outcome state = .error reason := unlisted
        simp [Source.recorded, Reading.recorded_leaves, call, Reading.failure?]
  · rw [found]
    dsimp only
    rw [traced_ofDepth, Trace.run_eq] at failed ⊢
    obtain ⟨made, adds, accounted⟩ :=
      Trace.accounted_request source event limits address (Mode.ofText mode) asked
      ((findTarget (source.recorded event) cell defaultSheet).leaves ⟨state, []⟩)
    rw [adds]
    rcases accounted cause failed with plain | ⟨entry, inside, stem⟩
    · obtain ⟨message, cancelled⟩ := cancelled_of_escapes plain escapes
      exact absurd cancelled (other message)
    · exact ⟨entry, List.mem_append_right _ inside, stem⟩

end Produced

/-- What comes of a report.  There is none just if the search for the cell, or the trace without
being cancelled, fails with a failure that escapes, which comes from a call, or if the trace finds a
tree with a value that has no text. Otherwise the report has a text and a root just if it says that
all went well.  It is the report on the trace that is not cancelled, or it says that the trace was
cancelled; and so it does whenever the trace ended by that. -/
theorem produce_reports (source : Source σ) (limits : Limits) (cell : String) (mode : Option String)
    (asked : Option Int) (defaultSheet : Option String) (event : Option Nat) (state : σ) :
    let reading (event : Option Nat) :=
      produce (source.recorded event) limits cell mode (.ofDepth asked) defaultSheet
    let produced (event : Option Nat) := (reading event).outcome ⟨state, []⟩
    let search := findTarget (source.recorded event) cell defaultSheet
    let found := search.outcome ⟨state, []⟩
    let trace (address : String) :=
      (traced (source.recorded event) limits mode (.ofDepth asked) address).outcome
        (search.leaves ⟨state, []⟩)
    let stopped (cause : Failure) := found = .error cause ∨
      ∃ address, found = .ok address ∧ trace address = .error cause ∧
        ∀ message, cause.bare ≠ .cancelled message
    (∀ failure, produced event = .error failure ↔ coversSeveral cell = false ∧
      ((∃ cause, stopped cause ∧ Escapes cause failure) ∨
        ∃ address result root, found = .ok address ∧ trace address = .ok result ∧
          result.root = some root ∧ FirstFails Node.IsShown (·.Unshown failure) root.preorder)) ∧
    (∀ cause failure, coversSeveral cell = false → stopped cause → Escapes cause failure →
      Stems ((reading event).leaves ⟨state, []⟩).calls cause) ∧
    (∀ report, produced event = .ok report → report.Consistent) ∧
    (produced event = produced none ∨ produced event = .ok (ofCancelled cell)) ∧
    ∀ address cause message, coversSeveral cell = false → found = .ok address →
      trace address = .error cause →
      cause.bare = .cancelled message → produced event = .ok (ofCancelled cell) := by
  intro reading produced search found trace stopped
  refine ⟨fun failure => ?_, ?_, fun report given => produce_consistent _ limits mode _ _ given,
    produce_follows source event limits mode asked cell defaultSheet state, ?_⟩
  · cases several : coversSeveral cell with
    | true =>
      have refused : produced event = _ := (produce_several _ limits mode _ _ several).1
      rw [refused]
      exact ⟨nofun, fun ⟨single, _⟩ => nomatch single⟩
    | false =>
      exact (produce_eq_error _ limits mode _ _ several failure).trans
        (and_iff_right rfl).symm
  · exact fun cause failure single stopped escapes =>
      stems_of_escapes source event limits mode asked defaultSheet state single escapes stopped
  · exact fun address cause message single placed failed cancelled =>
      produce_of_cancelled _ limits mode _ _ single placed failed cancelled

/-- A cell with a formula whose value is a whole number of 310 digits. -/
def enormous : Script where
  cells := [("S!A1", ⟨.int (10 ^ 309), some "=B1", none, "S!A1"⟩)]
  sheets := []
  ranges := []
  precedents := []
  dependents := []
  failures := []
  cancelAfter := none

/-- Of such a cell there is no report, although every call succeeds and the trace comes to its
end. -/
theorem produce_reports_enormous :
    let produced := produce (enormous.source.recorded none) {} "S!A1" none (.int 1) none
    (∀ made ∈ (produced.leaves ⟨enormous.start, []⟩).calls, made.failure.isSome = false) ∧
      (match produced.outcome ⟨enormous.start, []⟩ with
        | .error (.overflow message) => message == "int too large to convert to float"
        | _ => false) = true := by
  decide +kernel

end Report

end FormulaTrace
