import FormulaTrace.Proofs.Trace.Relations
import FormulaTrace.Trace.Script

/-! Sources whose calls are recorded.
Every call is entered with the failure it ended in, and the source counts as cancelled from a moment
on, which is a number of calls.  Nothing else is changed: without such a moment a trace finds what
it finds without the record. -/
namespace FormulaTrace

variable {σ α β : Type}

namespace Call

def what : Call → String
  | readCell _ => "read_cell"
  | precedents _ => "get_direct_precedents"
  | dependents _ => "get_direct_dependents"
  | sheetNames | usedRange _ | formulaGrid _ => "dependents scan"

def place? : Call → Option String
  | readCell address | precedents address | dependents address => some address
  | sheetNames | usedRange _ | formulaGrid _ => none

def loadsGrid : Call → Bool
  | formulaGrid _ => true
  | _ => false

def gridSheet? : Call → Option String
  | formulaGrid sheet => some sheet
  | _ => none

def rangeSheet? : Call → Option String
  | usedRange sheet => some sheet
  | _ => none

end Call

/-- A call that was made, how it failed if it did, and how long its answer took to come. -/
structure MadeCall where
  call : Call
  failure : Option Failure
  delay : Nat

/-- A state of a source, and the calls made until then, the first of them first. -/
structure Recorded (σ : Type) where
  state : σ
  calls : List MadeCall

namespace Reading

def failure? : Except Failure α → Option Failure
  | .ok _ => none
  | .error failure => some failure

def recorded (call : Call) (reading : Reading σ α) (delay : σ → Nat := fun _ => 0) :
    Reading (Recorded σ) α :=
  ExceptT.mk fun record =>
    let (answer, after) := reading.run.run record.state
    (answer, ⟨after, record.calls ++ [⟨call, failure? answer, delay record.state⟩]⟩)

variable (call : Call) (reading : Reading σ α) (delay : σ → Nat) (record : Recorded σ)

theorem recorded_leaves :
    (recorded call reading delay).leaves record = ⟨reading.leaves record.state,
    record.calls ++ [⟨call, failure? (reading.outcome record.state), delay record.state⟩]⟩ := rfl

end Reading

namespace Source

/-- The source with a record of its calls, cancelled from a moment on if there is one. -/
def recorded (source : Source σ) (moment : Option Nat) : Source (Recorded σ) where
  readCell address := Reading.recorded (.readCell address) (source.readCell address)
  sheetNames := Reading.recorded .sheetNames source.sheetNames
  usedRange sheet := Reading.recorded (.usedRange sheet) (source.usedRange sheet)
  formulaGrid sheet := Reading.recorded (.formulaGrid sheet) (source.formulaGrid sheet)
    (source.delay sheet)
  precedents address := Reading.recorded (.precedents address) (source.precedents address)
  dependents address := Reading.recorded (.dependents address) (source.dependents address)
  cancelled record := moment.any fun count => count ≤ record.calls.length
  delay sheet record := source.delay sheet record.state

theorem recorded_none_cancelled (source : Source σ) (record : Recorded σ) :
    (source.recorded none).cancelled record = false := rfl

variable {source : Source σ}

theorem checkCancelled_outcome (message : String) (state : σ) :
    (source.checkCancelled message).outcome state =
    if source.cancelled state then .error (.cancelled message) else .ok () := rfl

theorem checkCancelled_leaves (message : String) (state : σ) :
    (source.checkCancelled message).leaves state = state := rfl

end Source

namespace Inventory

variable {source : Source σ}

theorem checked_outcome (reading : Reading σ α) (state : σ) :
    (checked source reading).outcome state =
      if source.cancelled state then .error (.cancelled "Dependents scan cancelled")
        else reading.outcome state := by
  unfold checked
  rw [Reading.bind_outcome, Source.checkCancelled_outcome, Source.checkCancelled_leaves]
  cases source.cancelled state <;> rfl

theorem checked_leaves (reading : Reading σ α) (state : σ) :
    (checked source reading).leaves state = if source.cancelled state then state
      else reading.leaves state := by
  unfold checked
  rw [Reading.bind_leaves, Source.checkCancelled_outcome, Source.checkCancelled_leaves]
  cases source.cancelled state <;> rfl

end Inventory

namespace Reading

/-- Without the record a reading gives and leaves the same. -/
def Mirrors : Relation (Recorded σ) σ := fun _ reading plain => ∀ record,
  reading.outcome record = plain.outcome record.state ∧ (reading.leaves record).state =
    plain.leaves record.state

theorem mirrors_recorded (call : Call) (reading : Reading σ α) {delay : σ → Nat} :
    Mirrors _ (recorded call reading delay) reading :=
  fun _ => ⟨rfl, rfl⟩

theorem mirrors_ofExcept (result : Except Failure α) :
    Mirrors (σ := σ) _ (ofExcept result) (ofExcept result) :=
  fun _ => ⟨rfl, rfl⟩

theorem mirrors_sequential : Sequential (Mirrors (σ := σ)) where
  pure _ _ := ⟨rfl, rfl⟩
  bind {_ _ first second _ _} same rest := by
    intro record
    obtain ⟨answers, leaves⟩ := same record
    rw [bind_outcome, bind_outcome, bind_leaves, bind_leaves, answers, ← leaves]
    cases second.outcome record.state with
    | error failure => exact ⟨rfl, rfl⟩
    | ok value => exact rest value _

theorem mirrors_batch {step : β → Reading (Recorded σ) α} {plain : β → Reading σ α}
    (delay : β → σ → Nat) (items : List β) (steps : ∀ item, Mirrors _ (step item) (plain item)) :
    Mirrors _ (batch (fun item record => delay item record.state) step items)
      (batch delay plain items) := by
  have same (record : Recorded σ) :
    jointly (fun item record => delay item record.state) step items record =
        jointly delay plain items record.state ∧
      ((batch (fun item record => delay item record.state) step items).leaves record).state =
        (batch delay plain items).leaves record.state := by
    induction items generalizing record with
    | nil => exact ⟨rfl, rfl⟩
    | cons item rest ih =>
      obtain ⟨answers, leaves⟩ := steps item record
      obtain ⟨others, further⟩ := ih ((step item).leaves record)
      rw [jointly_cons, jointly_cons, batch_leaves_cons, batch_leaves_cons, answers, ← leaves,
        others]
      exact ⟨rfl, further⟩
  intro record
  rw [batch_outcome, batch_outcome, (same record).1]
  exact ⟨rfl, (same record).2⟩

section Free

variable {source : Source σ} (free : ∀ state, source.cancelled state = false)
include free

theorem mirrors_guard (what : String) (place : Option String) {reading : Reading (Recorded σ) α}
    {plain : Reading σ α} (same : Mirrors _ reading plain) :
    Mirrors _ ((source.recorded none).guard what place reading)
      (source.guard what place plain) := by
  intro record
  obtain ⟨answers, leaves⟩ := same record
  rw [Source.guard_outcome, Source.guard_outcome, Source.guard_leaves, Source.guard_leaves, free,
    answers]
  exact ⟨rfl, leaves⟩

theorem mirrors_checked {reading : Reading (Recorded σ) α} {plain : Reading σ α}
    (same : Mirrors _ reading plain) :
    Mirrors _ (Inventory.checked (source.recorded none) reading)
      (Inventory.checked source plain) := by
  intro record
  rw [Inventory.checked_outcome, Inventory.checked_outcome, Inventory.checked_leaves,
    Inventory.checked_leaves, free]
  exact same record

theorem mirrors_scanned : Inventory.Scanned Mirrors (source.recorded none) source where
  toSequential := mirrors_sequential
  sheetNames := mirrors_checked free (mirrors_recorded _ _)
  usedRange _ := mirrors_checked free (mirrors_recorded _ _)
  grids sheets := mirrors_checked free (mirrors_batch source.delay sheets fun _ =>
    mirrors_recorded _ _)
  listed _ := mirrors_ofExcept _

theorem mirrors_asked : Walk.Asked Mirrors (source.recorded none) source where
  toSequential := mirrors_sequential
  readCell _ := mirrors_guard free _ _ (mirrors_recorded _ _)
  precedents _ := mirrors_guard free _ _ (mirrors_recorded _ _)
  dependents _ := mirrors_guard free _ _ (mirrors_recorded _ _)
  inventory budget := mirrors_guard free _ _ (Inventory.take_related (mirrors_scanned free) budget)

end Free

/-- From every record the reading makes further calls, and something holds of its outcome and of
these. -/
def Makes (holds : Except Failure α → List MadeCall → Prop) (reading : Reading (Recorded σ) α) :
    Prop :=
  ∀ record, ∃ made, (reading.leaves record).calls = record.calls ++ made ∧
    holds (reading.outcome record) made

theorem makes_ofExcept {holds : Except Failure α → List MadeCall → Prop} {result : Except Failure α}
    (fits : holds result []) : Makes holds (ofExcept result : Reading (Recorded σ) α) :=
  fun _ => ⟨[], (List.append_nil _).symm, fits⟩

theorem Makes.start {holds : Except Failure α → List MadeCall → Prop}
    {reading : Reading (Recorded σ) α} (makes : Makes holds reading) (state : σ) :
    holds (reading.outcome ⟨state, []⟩)
      (reading.leaves ⟨state, []⟩).calls := by
  obtain ⟨made, adds, fits⟩ := makes ⟨state, []⟩
  rw [adds]
  exact fits

theorem Makes.bind {holds : Except Failure α → List MadeCall → Prop}
    {each : α → Except Failure β → List MadeCall → Prop}
    {last : Except Failure β → List MadeCall → Prop} {first : Reading (Recorded σ) α}
    {next : α → Reading (Recorded σ) β} (makes : Makes holds first)
    (rest : ∀ value, Makes (each value) (next value))
    (fails : ∀ failure made, holds (.error failure) made → last (.error failure) made)
    (follows : ∀ value made outcome more, holds (.ok value) made → each value outcome more →
      last outcome (made ++ more)) :
    Makes last (first >>= next) := by
  intro record
  obtain ⟨made, adds, fits⟩ := makes record
  rw [bind_outcome, bind_leaves]
  cases outcome : first.outcome record with
  | error failure =>
    rw [outcome] at fits
    exact ⟨made, adds, fails failure made fits⟩
  | ok value =>
    rw [outcome] at fits
    obtain ⟨more, further, after⟩ := rest value (first.leaves record)
    refine ⟨made ++ more, ?_, follows value made _ more fits after⟩
    rw [further, adds, List.append_assoc]

theorem makes_checked {holds : Except Failure α → List MadeCall → Prop}
    {source : Source (Recorded σ)} {reading : Reading (Recorded σ) α} (makes : Makes holds reading)
    (stops : holds (.error (.cancelled "Dependents scan cancelled")) []) :
    Makes holds (Inventory.checked source reading) := by
  intro record
  rw [Inventory.checked_outcome, Inventory.checked_leaves]
  cases source.cancelled record with
  | true => exact ⟨[], (List.append_nil _).symm, stops⟩
  | false => exact makes record

theorem makes_guard {holds further : Except Failure α → List MadeCall → Prop}
    {source : Source (Recorded σ)}
    {reading : Reading (Recorded σ) α} {what : String} {place : Option String}
    (makes : Makes holds reading)
    (reports : ∀ outcome made, holds outcome made →
      further (outcome.mapError (Source.report what place)) made)
    (stops : further (.error (.cancelled ("Trace cancelled before " ++ what))) []) :
    Makes further (source.guard what place reading) := by
  intro record
  rw [Source.guard_outcome, Source.guard_leaves]
  cases source.cancelled record with
  | true => exact ⟨[], (List.append_nil _).symm, stops⟩
  | false =>
    obtain ⟨made, adds, fits⟩ := makes record
    exact ⟨made, adds, reports _ made fits⟩

theorem makes_recorded (call : Call) (reading : Reading σ α) {delay : σ → Nat} :
    Makes (fun outcome made => ∃ moment, made = [⟨call, failure? outcome, moment⟩])
      (recorded call reading delay) :=
  fun _ => ⟨_, rfl, _, rfl⟩

abbrev batchRecorded (call : β → Call) (delay : β → σ → Nat) (reading : β → Reading σ α)
    (items : List β) :
    Reading (Recorded σ) (List α) :=
  batch (fun item record => delay item record.state)
    (fun item => recorded (call item) (reading item) (delay item)) items

theorem makes_batch (call : β → Call) (delay : β → σ → Nat) (reading : β → Reading σ α)
    (items : List β) :
    Makes (fun _ made => made.map MadeCall.call = items.map call)
      (batchRecorded call delay reading items) := by
  induction items with
  | nil => exact fun _ => ⟨[], (List.append_nil _).symm, rfl⟩
  | cons item rest ih =>
    intro record
    obtain ⟨made, adds, calls⟩ :=
      ih ((recorded (call item) (reading item) (delay item)).leaves record)
    rw [batch_leaves_cons, adds, recorded_leaves, List.append_assoc]
    exact ⟨_, rfl, congrArg (call item :: ·) calls⟩

theorem fits_of_calls {kind : Call → Bool} {call : β → Call}
    (fits : ∀ item, kind (call item) = true) {items : List β} {made : List MadeCall}
    (calls : made.map MadeCall.call = items.map call) :
    ∀ entry ∈ made, kind entry.call = true := by
  intro entry inside
  have asked : entry.call ∈ items.map call := by
    rw [← calls]
    exact List.mem_map_of_mem inside
  obtain ⟨item, _, same⟩ := List.mem_map.1 asked
  rw [← same]
  exact fits item

end Reading

/-- With no moment of cancellation the record changes nothing. -/
theorem Trace.request_recorded {source : Source σ} (free : ∀ state, source.cancelled state = false)
    (limits : Limits)
    (target : Target) (mode : Option String) (depth : Value) (record : Recorded σ) :
    (request (source.recorded none) limits target mode depth).outcome record =
      (request source limits target mode depth).outcome record.state := by
  have asked := Reading.mirrors_asked free
  rw [request_eq, request_eq]
  refine (asked.bind (Reading.mirrors_ofExcept _) ?_ record).1
  rintro ⟨address, direction, bound⟩
  exact ofAddress_related asked limits address direction bound

end FormulaTrace
