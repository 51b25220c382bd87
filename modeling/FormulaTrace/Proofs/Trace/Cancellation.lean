import FormulaTrace.Proofs.Trace.Failures

/-! Traces that are cancelled at some moment.
A trace looks whether it is cancelled before every call but those of a batch, and nowhere else.
Cancelled before a call it stops there; cancelled after the last one it goes on to the end that it
comes to without a cancellation. -/
namespace FormulaTrace

variable {σ α β : Type} {source : Source σ} {moment : Nat}

namespace Reading

/-- The stopped reading ends as the free one does, or it is cancelled after some of the calls of the
free one. -/
def Follows : Relation (Recorded σ) (Recorded σ) := fun _ stopped free => ∀ record,
  record.calls <+: (free.leaves record).calls ∧
    (stopped.outcome record = free.outcome record ∧ stopped.leaves record = free.leaves record ∨
      (∃ message, stopped.outcome record = .error (.cancelled message)) ∧
        (stopped.leaves record).calls <+: (free.leaves record).calls)

theorem follows_self {reading : Reading (Recorded σ) α} (grows : reading.Makes fun _ _ => True) :
    Follows _ reading reading := by
  intro record
  obtain ⟨made, adds, _⟩ := grows record
  exact ⟨⟨made, adds.symm⟩, .inl ⟨rfl, rfl⟩⟩

theorem follows_ofExcept (result : Except Failure α) :
    Follows (σ := σ) _ (ofExcept result) (ofExcept result) :=
  follows_self (makes_ofExcept trivial)

theorem follows_recorded (call : Call) (reading : Reading σ α) :
    Follows _ (recorded call reading) (recorded call reading) :=
  follows_self fun _ => ⟨_, rfl, trivial⟩

theorem follows_sequential : Sequential (Follows (σ := σ)) where
  pure value := follows_ofExcept (.ok value)
  bind {_ _ first second next next'} follows rest := by
    intro record
    obtain ⟨grows, ends⟩ := follows record
    rw [bind_outcome, bind_outcome, bind_leaves, bind_leaves]
    rcases ends with ⟨outcome, leaves⟩ | ⟨⟨message, cancelled⟩, before⟩
    · rw [outcome, leaves]
      cases second.outcome record with
      | error failure => exact ⟨grows, .inl ⟨rfl, rfl⟩⟩
      | ok value =>
        obtain ⟨further, ends⟩ := rest value (second.leaves record)
        exact ⟨grows.trans further, ends⟩
    · rw [cancelled]
      cases second.outcome record with
      | error failure => exact ⟨grows, .inr ⟨⟨message, rfl⟩, before⟩⟩
      | ok value =>
        have further := (rest value (second.leaves record)).1
        exact ⟨grows.trans further, .inr ⟨⟨message, rfl⟩, before.trans further⟩⟩

theorem follows_checked (event : Option Nat) {stopped free : Reading (Recorded σ) α}
    (follows : Follows _ stopped free) :
    Follows _ (Inventory.checked (source.recorded event) stopped)
      (Inventory.checked (source.recorded none) free) := by
  intro record
  obtain ⟨grows, ends⟩ := follows record
  rw [Inventory.checked_outcome, Inventory.checked_outcome, Inventory.checked_leaves,
    Inventory.checked_leaves, Source.recorded_none_cancelled]
  refine ⟨grows, ?_⟩
  cases (source.recorded event).cancelled record with
  | true => exact .inr ⟨⟨_, rfl⟩, grows⟩
  | false => exact ends

theorem follows_guard (event : Option Nat) (what : String) (place : Option String)
    {stopped free : Reading (Recorded σ) α} (follows : Follows _ stopped free) :
    Follows _ ((source.recorded event).guard what place stopped)
      ((source.recorded none).guard what place free) := by
  intro record
  obtain ⟨grows, ends⟩ := follows record
  rw [Source.guard_outcome, Source.guard_outcome, Source.guard_leaves, Source.guard_leaves,
    Source.recorded_none_cancelled]
  refine ⟨grows, ?_⟩
  cases (source.recorded event).cancelled record with
  | true => exact .inr ⟨⟨_, rfl⟩, grows⟩
  | false =>
    rcases ends with ⟨outcome, leaves⟩ | ⟨⟨message, cancelled⟩, before⟩
    · exact .inl ⟨congrArg (Except.mapError (Source.report what place)) outcome, leaves⟩
    · exact .inr ⟨⟨message, congrArg (Except.mapError (Source.report what place)) cancelled⟩,
        before⟩

theorem follows_scanned (source : Source σ) (event : Option Nat) :
    Inventory.Scanned Follows (source.recorded event) (source.recorded none) where
  toSequential := follows_sequential
  sheetNames := follows_checked event (follows_recorded _ _)
  usedRange _ := follows_checked event (follows_recorded _ _)
  grids sheets := follows_checked event <| follows_self fun record => by
    obtain ⟨made, adds, _⟩ := makes_batch .formulaGrid source.delay source.formulaGrid sheets record
    exact ⟨made, adds, trivial⟩
  listed _ := follows_ofExcept _

theorem follows_asked (source : Source σ) (event : Option Nat) :
    Walk.Asked Follows (source.recorded event) (source.recorded none) where
  toSequential := follows_sequential
  readCell _ := follows_guard event _ _ (follows_recorded _ _)
  precedents _ := follows_guard event _ _ (follows_recorded _ _)
  dependents _ := follows_guard event _ _ (follows_recorded _ _)
  inventory budget := follows_guard event _ _
    (Inventory.take_related (follows_scanned source event) budget)

end Reading

def inProgress? (moment : Nat) (calls : List MadeCall) : Option MadeCall :=
  (calls.take moment).getLast?

/-- After a moment only grids are loaded, and only where a grid was being loaded at the moment. -/
def Halted (moment : Nat) (calls : List MadeCall) : Prop :=
  ∀ made ∈ calls.drop moment, made.call.loadsGrid = true ∧
  ∃ begun, inProgress? moment calls = some begun ∧ begun.call.loadsGrid = true

theorem halted_of_length_le {calls : List MadeCall} (short : calls.length ≤ moment) :
    Halted moment calls := by
  unfold Halted
  rw [List.drop_of_length_le short]
  exact List.forall_mem_nil _

theorem halted_append {calls made : List MadeCall} (early : calls.length < moment)
    (grids : ∀ entry ∈ made, entry.call.loadsGrid = true) : Halted moment (calls ++ made) := by
  intro entry inside
  rw [List.drop_append, List.drop_of_length_le (by omega), List.nil_append] at inside
  have room : 0 < (made.take (moment - calls.length)).length := by
    have := List.length_pos_of_mem inside
    rw [List.length_drop] at this
    rw [List.length_take]
    omega
  have last := List.getLast?_eq_some_getLast (List.ne_nil_of_length_pos room)
  have begun := List.getLast_mem (List.ne_nil_of_length_pos room)
  refine ⟨grids entry (List.mem_of_mem_drop inside), _, ?_, grids _ (List.mem_of_mem_take begun)⟩
  unfold inProgress?
  rw [List.take_append, List.take_of_length_le (by omega), List.getLast?_append, last,
    Option.some_or]

namespace Reading

/-- Once the moment has come a reading makes no call; where it comes in between, the calls end as
they may. -/
def Halts (moment : Nat) (reading : Reading (Recorded σ) α) : Prop := ∀ record,
  (moment ≤ record.calls.length → (reading.leaves record).calls = record.calls) ∧
    (record.calls.length < moment → Halted moment (reading.leaves record).calls)

theorem halts_ofExcept (result : Except Failure α) :
    (ofExcept result : Reading (Recorded σ) α).Halts moment :=
  fun _ => ⟨fun _ => rfl, fun early => halted_of_length_le (Nat.le_of_lt early)⟩

theorem halts_bind {first : Reading (Recorded σ) α} {next : α → Reading (Recorded σ) β}
    (halts : first.Halts moment) (rest : ∀ value, (next value).Halts moment) :
    (first >>= next).Halts moment := by
  intro record
  obtain ⟨late, early⟩ := halts record
  rw [bind_leaves]
  cases first.outcome record with
  | error failure => exact ⟨late, early⟩
  | ok value =>
    obtain ⟨after, before⟩ := rest value (first.leaves record)
    constructor
    · intro come
      have same := late come
      rw [← same] at come ⊢
      exact after come
    · intro ahead
      rcases Nat.lt_or_ge (first.leaves record).calls.length moment with still | come
      · exact before still
      · change Halted moment ((next value).leaves (first.leaves record)).calls
        rw [after come]
        exact early ahead

theorem halts_sequential :
    Sequential (σ := Recorded σ) (τ := Recorded σ) fun _ reading _ => reading.Halts moment where
  pure value := halts_ofExcept (.ok value)
  bind := halts_bind

theorem recorded_cancelled (source : Source σ) (record : Recorded σ) :
    (source.recorded (some moment)).cancelled record = decide (moment ≤ record.calls.length) := rfl

/-- A reading that looks first whether it is cancelled need only halt as it may where it is begun in
time. -/
theorem halts_checked {reading : Reading (Recorded σ) α}
    (early : ∀ record, record.calls.length < moment → Halted moment (reading.leaves record).calls) :
    (Inventory.checked (source.recorded (some moment)) reading).Halts moment := by
  intro record
  rw [Inventory.checked_leaves, recorded_cancelled]
  constructor
  · intro come
    rw [if_pos (decide_eq_true come)]
  · intro ahead
    rw [if_neg (by simpa using ahead)]
    exact early record ahead

theorem halts_guard {reading : Reading (Recorded σ) α} {what : String} {place : Option String}
    (early : ∀ record, record.calls.length < moment → Halted moment (reading.leaves record).calls) :
    ((source.recorded (some moment)).guard what place reading).Halts moment := by
  intro record
  rw [Source.guard_leaves, recorded_cancelled]
  constructor
  · intro come
    rw [if_pos (decide_eq_true come)]
  · intro ahead
    rw [if_neg (by simpa using ahead)]
    exact early record ahead

theorem halted_recorded (call : Call) (reading : Reading σ α) (record : Recorded σ)
    (early : record.calls.length < moment) :
    Halted moment ((recorded call reading).leaves record).calls := by
  apply halted_of_length_le
  rw [recorded_leaves, List.length_append]
  exact early

theorem halts_scanned (source : Source σ) (moment : Nat) :
    Inventory.Scanned (fun _ reading _ => reading.Halts moment) (source.recorded (some moment))
      (source.recorded (some moment)) where
  toSequential := halts_sequential
  sheetNames := halts_checked (halted_recorded _ _)
  usedRange _ := halts_checked (halted_recorded _ _)
  grids sheets := halts_checked fun record early => by
    obtain ⟨made, adds, calls⟩ :=
      makes_batch .formulaGrid source.delay source.formulaGrid sheets record
    have entered : ((Inventory.grids (source.recorded (some moment)) sheets).leaves record).calls =
        record.calls ++ made :=
      adds
    rw [entered]
    exact halted_append early (fits_of_calls (fun _ => rfl) calls)
  listed _ := halts_ofExcept _

theorem halts_asked (source : Source σ) (moment : Nat) :
    Walk.Asked (fun _ reading _ => reading.Halts moment) (source.recorded (some moment))
      (source.recorded (some moment)) where
  toSequential := halts_sequential
  readCell _ := halts_guard (halted_recorded _ _)
  precedents _ := halts_guard (halted_recorded _ _)
  dependents _ := halts_guard (halted_recorded _ _)
  inventory budget := halts_guard fun record =>
    (Inventory.take_related (halts_scanned source moment) budget record).2

end Reading

/-- The first call that fails is the one in progress at the moment, or it loads a grid of the same
batch. -/
theorem exists_inProgress {before after : List MadeCall} {failed : MadeCall}
    (rest : ∀ made ∈ after, failed.call.loadsGrid = true ∧ made.call.loadsGrid = true)
    (halted : Halted moment (before ++ failed :: after)) :
    ∃ current, inProgress? moment (before ++ failed :: after) = some current ∧
      (failed = current ∨ failed.call.loadsGrid = true ∧ current.call.loadsGrid = true) := by
  rcases Nat.lt_or_ge before.length moment with ahead | come
  · have here : (before ++ failed :: after).take moment =
        before ++ failed :: after.take (moment - before.length - 1) := by
      obtain ⟨count, rfl⟩ := Nat.exists_eq_add_of_lt ahead
      have shift : before.length + count + 1 - before.length = count + 1 := by omega
      rw [List.take_append, List.take_of_length_le (by omega), shift, List.take_succ_cons,
        Nat.add_sub_cancel]
    unfold inProgress?
    rw [here, List.getLast?_append, List.getLast?_cons, Option.some_or]
    refine ⟨_, rfl, ?_⟩
    cases last : (after.take (moment - before.length - 1)).getLast? with
    | none => exact .inl rfl
    | some current => exact .inr (rest current (List.mem_of_mem_take (List.mem_of_getLast? last)))
  · have later : failed ∈ (before ++ failed :: after).drop moment := by
      rw [List.drop_append_of_le_length come]
      exact List.mem_append_right _ List.mem_cons_self
    obtain ⟨grid, current, now, begun⟩ := halted failed later
    exact ⟨current, now, .inr ⟨grid, begun⟩⟩

namespace Trace

theorem request_follows (source : Source σ) (event : Option Nat) (limits : Limits) (target : Target)
    (mode : Option String) (depth : Value) :
    Reading.Follows _ (request (source.recorded event) limits target mode depth)
      (request (source.recorded none) limits target mode depth) := by
  rw [request_eq, request_eq]
  refine Reading.follows_sequential.bind (Reading.follows_ofExcept _) ?_
  rintro ⟨address, direction, asked⟩
  exact ofAddress_related (Reading.follows_asked source event) limits address direction asked

theorem request_halts (source : Source σ) (moment : Nat) (limits : Limits) (target : Target)
    (mode : Option String) (depth : Value) :
    (request (source.recorded (some moment)) limits target mode depth).Halts
      moment := by
  rw [request_eq]
  refine Reading.halts_bind (Reading.halts_ofExcept _) ?_
  rintro ⟨address, direction, asked⟩
  exact ofAddress_related (Reading.halts_asked source moment) limits address direction asked

/-- After the moment at which it is cancelled a trace asks for nothing but the grids of a batch that
was begun.  It ends as it does without the cancellation, with the same calls, or it is cancelled
after some of them.  A failure that is none of a cancellation comes from the arguments, from a grid
that goes beyond the last column that has a name, or from the call in progress or another one of its
batch. -/
theorem request_cancelled (source : Source σ) (limits : Limits) (target : Target)
    (mode : Option String) (depth : Value) (state : σ) (moment : Nat) :
    let stopped := request (source.recorded (some moment)) limits target mode depth
    let free := request (source.recorded none) limits target mode depth
    let calls := (stopped.leaves ⟨state, []⟩).calls
    Halted moment calls ∧
      (stopped.outcome ⟨state, []⟩ = free.outcome ⟨state, []⟩ ∧
        stopped.leaves ⟨state, []⟩ = free.leaves ⟨state, []⟩ ∨
        (∃ message, stopped.outcome ⟨state, []⟩ = .error (.cancelled message)) ∧
          calls <+: (free.leaves ⟨state, []⟩).calls) ∧
      ∀ failure, stopped.outcome ⟨state, []⟩ = .error failure →
        (∃ message, failure = .cancelled message) ∨ arguments target mode depth = .error failure ∨
          (∃ message, ∃ error : AddressError, error.Overruns ∧
            failure = .source message none (some error.failure)) ∨
          ∃ failed ∈ calls, failed.failure.isSome = true ∧
            ∃ current, inProgress? moment calls = some current ∧
            (failed = current ∨ failed.call.loadsGrid = true ∧ current.call.loadsGrid = true) := by
  intro stopped free calls
  have halted : Halted moment calls := by
    obtain ⟨late, early⟩ := request_halts source moment limits target mode depth ⟨state, []⟩
    rcases Nat.eq_zero_or_pos moment with rfl | ahead
    · have none : calls = [] := late (Nat.le_refl 0)
      rw [none]
      exact List.forall_mem_nil _
    · exact early ahead
  refine ⟨halted, (request_follows source (some moment) limits target mode depth ⟨state, []⟩).2,
    fun failure fails => ?_⟩
  have ending : Ending _ _ (stopped.outcome ⟨state, []⟩) calls :=
    (request_ends source (some moment) limits _ _ _).start state
  rw [fails] at ending
  clear_value calls
  cases ending with
  | unbroken _ known =>
    rcases known failure rfl with refused | cancelled | ⟨error, beyond, rfl⟩
    · exact .inr (.inl refused)
    · exact .inl cancelled
    · exact .inr (.inr (.inl ⟨_, error, beyond, rfl⟩))
  | @broken _ cause call time earlier before after _ batch _ _ =>
    rw [← List.append_assoc] at halted ⊢
    refine .inr
      (.inr (.inr ⟨⟨call, some cause, time⟩, ?_, rfl, exists_inProgress (fun made inside => ?_)
      halted⟩))
    · exact List.mem_append_right _ List.mem_cons_self
    · exact batch made (List.mem_append_right _ inside)

/-- A sheet whose grid starts in the last column of a workbook and has its only formula beyond the
last column that has a name. -/
def overrun : Script where
  cells := []
  sheets := ["S"]
  ranges :=
    [("S", ⟨some "S!XFD1:XFD1", some ⟨"S!XFD1:XFD1", [List.replicate 1895 none ++ [some "=A1"]]⟩⟩)]
  precedents := []
  dependents := []
  failures := []
  cancelAfter := none

/-- Cancelled while the last grid is loaded, a trace of which every call succeeds fails as one of
the source. -/
theorem request_cancelled_overrun :
    let stopped := request (overrun.source.recorded (some 5)) {} (.text "S!A1") (some "dependents")
      (.int 1)
    let calls := (stopped.leaves ⟨overrun.start, []⟩).calls
    calls.map MadeCall.call =
        [.readCell "S!A1", .dependents "S!A1", .sheetNames, .usedRange "S", .formulaGrid "S"] ∧
      (∀ made ∈ calls, made.failure.isSome = false) ∧
      (match stopped.outcome ⟨overrun.start, []⟩ with
        | .error (.source message none (some (.badValue cause))) =>
          message == "dependents scan failed for ?: Invalid column index 18279" &&
            cause == "Invalid column index 18279"
        | _ => false) = true := by
  decide +kernel

end Trace

end FormulaTrace
