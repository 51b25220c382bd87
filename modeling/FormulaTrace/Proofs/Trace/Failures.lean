import FormulaTrace.Proofs.Trace.SheetOrder

/-! How a trace ends when a call to its source fails.
A failed call is the last one but for the rest of its batch, and what the trace reports is the
failure that comes first. This is kept when one reading follows another, so that it holds of the
whole walk; where no call fails, a trace fails only on its own account. -/
namespace FormulaTrace
open Text

variable {σ α β : Type}

/-- Of some calls that are made together one fails first: none before it fails as early, and none
after it earlier. -/
structure FailsFirst (before : List MadeCall) (made : MadeCall) (after : List MadeCall) : Prop where
  before : ∀ entry ∈ before, entry.failure.isSome = true → made.delay < entry.delay
  after : ∀ entry ∈ after, entry.failure.isSome = true → made.delay ≤ entry.delay

/-- How a reading ends after the calls it made: they all succeed and a failure is its own, or one of
them is reported, which fails alone or first among the grids of one batch. -/
inductive Ending (reports : Call → Failure → Failure → Prop) (own : Failure → Prop) :
    Except Failure α → List MadeCall → Prop
  | unbroken {outcome : Except Failure α} {calls : List MadeCall}
      (clean : ∀ entry ∈ calls, entry.failure = none)
      (known : ∀ failure, outcome = .error failure → own failure) : Ending reports own outcome calls
  | broken {told failure : Failure} {call : Call} {moment : Nat}
      {earlier before after : List MadeCall} (clean : ∀ entry ∈ earlier, entry.failure = none)
      (batch : ∀ entry ∈ before ++ after, call.loadsGrid = true ∧ entry.call.loadsGrid = true)
      (first : FailsFirst before ⟨call, some failure, moment⟩ after)
        (reported : reports call failure told) :
      Ending reports own (.error told)
        (earlier ++ (before ++ ⟨call, some failure, moment⟩ :: after))

namespace Ending

variable {reports further : Call → Failure → Failure → Prop} {own known : Failure → Prop}
  {outcome : Except Failure α} {calls before after : List MadeCall} {told failure : Failure}
  {call : Call}

theorem ok (value : α) (clean : ∀ entry ∈ calls, entry.failure = none) :
    Ending reports own (.ok value) calls := by
  refine .unbroken clean ?_
  rintro _ ⟨⟩

theorem error (clean : ∀ entry ∈ calls, entry.failure = none) (known : own failure) :
    Ending reports own (.error failure : Except Failure α) calls := by
  refine .unbroken clean ?_
  rintro _ ⟨⟩
  exact known

theorem batched {moment : Nat}
    (batch : ∀ entry ∈ before ++ after, call.loadsGrid = true ∧ entry.call.loadsGrid = true)
    (first : FailsFirst before ⟨call, some failure, moment⟩ after)
    (reported : reports call failure told) :
    Ending reports own (.error told : Except Failure α)
      (before ++ ⟨call, some failure, moment⟩ :: after) := by
  have whole : Ending reports own (.error told : Except Failure α)
      ([] ++ (before ++ ⟨call, some failure, moment⟩ :: after)) :=
    .broken (List.forall_mem_nil _) batch first reported
  exact whole

theorem alone (reported : reports call failure told) (moment : Nat) :
    Ending reports own (.error told : Except Failure α) [⟨call, some failure, moment⟩] := by
  have whole : Ending reports own (.error told : Except Failure α)
      ([] ++ [⟨call, some failure, moment⟩]) :=
    batched (List.forall_mem_nil _) ⟨List.forall_mem_nil _, List.forall_mem_nil _⟩ reported
  exact whole

theorem clean {value : α} (ending : Ending reports own (.ok value) calls) :
    ∀ entry ∈ calls, entry.failure = none := by
  cases ending with
  | unbroken clean known => exact clean

theorem mono (ending : Ending reports own outcome calls)
    (knows : ∀ failure, own failure → known failure) :
    Ending reports known outcome calls := by
  cases ending with
  | unbroken clean mine =>
    exact .unbroken clean fun failure failed => knows failure (mine failure failed)
  | broken clean batch first reported => exact .broken clean batch first reported

theorem prepend (clean : ∀ entry ∈ before, entry.failure = none)
    (ending : Ending reports own outcome calls) :
    Ending reports own outcome (before ++ calls) := by
  cases ending with
  | unbroken more known => exact .unbroken (List.forall_mem_append.2 ⟨clean, more⟩) known
  | broken more batch first reported =>
    rw [← List.append_assoc]
    exact .broken (List.forall_mem_append.2 ⟨clean, more⟩) batch first reported

theorem failed (ending : Ending reports own (.error told : Except Failure α) calls) :
    Ending reports own (.error told : Except Failure β) calls := by
  cases ending with
  | unbroken clean mine => exact .error clean (mine told rfl)
  | broken clean batch first reported => exact .broken clean batch first reported

theorem mapError {change : Failure → Failure} (ending : Ending reports own outcome calls)
    (reported : ∀ call failure told, reports call failure told → further call failure (change told))
    (knows : ∀ failure, own failure → known (change failure)) :
    Ending further known (outcome.mapError change) calls := by
  cases ending with
  | broken clean batch first cause => exact .broken clean batch first (reported _ _ _ cause)
  | unbroken clean mine =>
    cases outcome with
    | ok answer => exact .ok answer clean
    | error failure => exact .error clean (knows failure (mine failure rfl))

end Ending

namespace Reading

variable {reports further : Call → Failure → Failure → Prop} {own known : Failure → Prop}

/-- From every record the reading ends in this way, after the calls that it makes. -/
abbrev Ends (reports : Call → Failure → Failure → Prop) (own : Failure → Prop)
    (reading : Reading (Recorded σ) α) : Prop :=
  Makes (Ending reports own) reading

theorem ends_ofExcept {result : Except Failure α}
    (known : ∀ failure, result = .error failure → own failure) :
    Ends reports own (ofExcept result : Reading (Recorded σ) α) :=
  makes_ofExcept (.unbroken (List.forall_mem_nil _) known)

theorem ends_bind {first : Reading (Recorded σ) α} {next : α → Reading (Recorded σ) β}
    (ends : Ends reports own first) (rest : ∀ value, Ends reports own (next value)) :
    Ends reports own (first >>= next) :=
  ends.bind rest (fun _ _ ending => ending.failed) fun _ _ _ _ ending last =>
    last.prepend ending.clean

theorem ends_sequential :
    Sequential (σ := Recorded σ) (τ := Recorded σ) fun _ reading _ => Ends reports own reading where
  pure value := makes_ofExcept (.ok value (List.forall_mem_nil _))
  bind := ends_bind

def passes (which : Call → Prop) (call : Call) (failure told : Failure) : Prop :=
  which call ∧ told = failure

theorem ends_recorded {which : Call → Prop} {call : Call} (fits : which call)
    (reading : Reading σ α) :
    Ends (passes which) own (recorded call reading) := by
  intro record
  obtain ⟨made, adds, moment, entered⟩ := makes_recorded call reading record
  refine ⟨made, adds, ?_⟩
  subst entered
  cases (recorded call reading).outcome record with
  | ok value => exact .ok value (by simp [failure?])
  | error failure => exact .alone ⟨fits, rfl⟩ moment

/-- What comes of calls made together: answers to all of them, or the failure of the one that fails
first. -/
inductive Contest : Except (Nat × Failure) (List α) → List MadeCall → Prop
  | answered {values : List α} {calls : List MadeCall}
      (clean : ∀ entry ∈ calls, entry.failure = none) :
      Contest (.ok values) calls
  | failed {call : Call} {failure : Failure} {moment : Nat} {before after : List MadeCall}
      (first : FailsFirst before ⟨call, some failure, moment⟩ after) :
      Contest (.error (moment, failure)) (before ++ ⟨call, some failure, moment⟩ :: after)

theorem Contest.head {call : Call} {failure : Failure} {moment : Nat} {after : List MadeCall}
    (latest : ∀ entry ∈ after, entry.failure.isSome = true → moment ≤ entry.delay) :
    Contest (.error (moment, failure) : Except (Nat × Failure) (List α))
      (⟨call, some failure, moment⟩ :: after) := by
  have whole : Contest (.error (moment, failure) : Except (Nat × Failure) (List α))
      ([] ++ ⟨call, some failure, moment⟩ :: after) := .failed ⟨List.forall_mem_nil _, latest⟩
  exact whole

theorem Contest.cons {others : Except (Nat × Failure) (List α)} {calls : List MadeCall}
    (contest : Contest others calls) (call : Call) (answer : Except Failure α) (delay : Nat) :
    Contest (join delay answer others) (⟨call, failure? answer, delay⟩ :: calls) := by
  cases answer with
  | ok value =>
    cases contest with
    | answered clean => exact .answered (List.forall_mem_cons.2 ⟨rfl, clean⟩)
    | failed first =>
      rw [← List.cons_append]
      exact .failed ⟨List.forall_mem_cons.2 ⟨nofun, first.before⟩, first.after⟩
  | error failure =>
    cases contest with
    | answered clean =>
      refine .head fun entry inside fails => ?_
      rw [clean entry inside] at fails
      cases fails
    | @failed _ _ moment before after first =>
      by_cases early : moment < delay
      · rw [join, if_pos early, ← List.cons_append]
        exact .failed ⟨List.forall_mem_cons.2 ⟨fun _ => early, first.before⟩, first.after⟩
      · have late := Nat.le_of_not_lt early
        rw [join, if_neg early]
        refine .head (List.forall_mem_append.2
          ⟨fun entry inside fails => ?_, List.forall_mem_cons.2 ⟨fun _ => late, ?_⟩⟩)
        · exact Nat.le_trans late (Nat.le_of_lt (first.before entry inside fails))
        · exact fun entry inside fails => Nat.le_trans late (first.after entry inside fails)

theorem contest_jointly (call : β → Call) (delay : β → σ → Nat) (reading : β → Reading σ α)
    (items : List β) (record : Recorded σ) : ∃ made,
      ((batchRecorded call delay reading items).leaves record).calls = record.calls ++ made ∧
      made.map MadeCall.call = items.map call ∧
      Contest (jointly (fun item record => delay item record.state)
        (fun item => recorded (call item) (reading item) (delay item)) items record) made := by
  induction items generalizing record with
  | nil => exact ⟨[], (List.append_nil _).symm, rfl, .answered (List.forall_mem_nil _)⟩
  | cons item rest ih =>
    obtain ⟨made, adds, calls, contest⟩ :=
      ih ((recorded (call item) (reading item) (delay item)).leaves record)
    rw [batch_leaves_cons, jointly_cons, adds, recorded_leaves, List.append_assoc]
    exact ⟨_, rfl, congrArg (call item :: ·) calls, contest.cons (call item) _ _⟩

theorem ends_batch {which : Call → Prop} {call : β → Call} (fits : ∀ item, which (call item))
    (grids : ∀ item, (call item).loadsGrid = true) (delay : β → σ → Nat) (reading : β → Reading σ α)
    (items : List β) :
    Ends (passes which) own (batchRecorded call delay reading items) := by
  intro record
  obtain ⟨made, adds, calls, contest⟩ := contest_jointly call delay reading items record
  have all := fits_of_calls grids calls
  refine ⟨made, adds, ?_⟩
  rw [batch_outcome]
  generalize jointly _ _ _ _ = answers at contest
  cases contest with
  | answered clean => exact .ok _ clean
  | @failed asked failure moment before after first =>
    have inside : asked ∈ items.map call := by
      rw [← calls, List.map_append, List.map_cons]
      exact List.mem_append_right _ List.mem_cons_self
    obtain ⟨item, _, rfl⟩ := List.mem_map.1 inside
    refine .batched (fun entry among => ⟨grids item, all entry ?_⟩) first ⟨fits item, rfl⟩
    rcases List.mem_append.1 among with front | back
    · exact List.mem_append_left _ front
    · exact List.mem_append_right _ (List.mem_cons_of_mem _ back)

theorem ends_checked {source : Source (Recorded σ)} {reading : Reading (Recorded σ) α}
    (ends : Ends reports own reading)
    (stops : own (.cancelled "Dependents scan cancelled")) :
    Ends reports own (Inventory.checked source reading) :=
  makes_checked ends (.error (List.forall_mem_nil _) stops)

theorem ends_guard {source : Source (Recorded σ)} {reading : Reading (Recorded σ) α} {what : String}
    {place : Option String} (ends : Ends reports own reading)
    (reported : ∀ call failure told, reports call failure told →
      further call failure (Source.report what place told))
    (knows : ∀ failure, own failure → known (Source.report what place failure))
    (stops : known (.cancelled ("Trace cancelled before " ++ what))) :
    Ends further known (source.guard what place reading) :=
  makes_guard ends (fun _ _ ending => ending.mapError reported knows)
    (.error (List.forall_mem_nil _) stops)

end Reading

/-- What is wrong with a cell beyond the last column that has a name. -/
def AddressError.Overruns (error : AddressError) : Prop :=
  ∃ column : Int, lastNamedColumn < column ∧ error = .noSuchColumn column

theorem namedAddress_overruns {col : Int} (start : 0 ≤ col) {row : Int} {error : AddressError}
    (failed : namedAddress col row = .error error) : error.Overruns := by
  unfold namedAddress at failed
  split at failed
  next => cases failed
  next unnamed =>
    cases failed
    exact ⟨col + 1, by omega, rfl⟩

namespace Inventory

section Overruns

variable {sheet : String} {col row : Int} {error : AddressError}

theorem both_eq_error {first : Except AddressError α} {second : Except AddressError β}
    {join : α → β → List Candidate}
    (failed : (do let one ← first let other ← second return join one other) = .error error) :
    first = .error error ∨ second = .error error := by
  cases first with
  | error cause =>
    cases failed
    exact .inl rfl
  | ok one =>
    cases second with
    | error cause =>
      cases failed
      exact .inr rfl
    | ok other => cases failed

theorem candidate?_overruns (start : 0 ≤ col) {text : Option String}
    (failed : candidate? sheet col row text = .error error) : error.Overruns := by
  unfold candidate? at failed
  split at failed
  · cases failed
  · split at failed
    · split at failed
      · cases failed
      · cases named : namedAddress col row with
        | ok address =>
          rw [named] at failed
          cases failed
        | error cause =>
          rw [named] at failed
          cases failed
          exact namedAddress_overruns start named
    · cases failed

theorem rowCandidates_overruns (start : 0 ≤ col) {texts : List (Option String)}
    (failed : rowCandidates sheet row col texts = .error error) : error.Overruns := by
  induction texts generalizing col with
  | nil => cases failed
  | cons text rest ih =>
    rcases both_eq_error failed with here | later
    · exact candidate?_overruns start here
    · exact ih (by omega) later

theorem gridCandidates_overruns (start : 0 ≤ col) {rows : List (List (Option String))}
    (failed : gridCandidates sheet col row rows = .error error) : error.Overruns := by
  induction rows generalizing row with
  | nil => cases failed
  | cons texts rest ih =>
    rcases both_eq_error failed with here | later
    · exact rowCandidates_overruns start here
    · exact ih later

theorem sheetCandidates_overruns {grid : Option FormulaGrid}
    (failed : sheetCandidates sheet grid = .error error) :
    error.Overruns := by
  unfold sheetCandidates at failed
  split at failed
  · cases failed
  · split at failed
    · cases failed
    · exact gridCandidates_overruns (Int.natCast_nonneg _) failed

theorem allCandidates_overruns {found : List (String × Option FormulaGrid)}
    (failed : allCandidates found = .error error) :
    error.Overruns := by
  induction found with
  | nil => cases failed
  | cons entry rest ih =>
    rcases both_eq_error failed with here | later
    · exact sheetCandidates_overruns here
    · exact ih later

end Overruns

/-- What a scan fails with although every call succeeded. -/
def Own (failure : Failure) : Prop :=
  (∃ message, failure = .cancelled message) ∨ ∃ error : AddressError, error.Overruns ∧
    failure = error.failure

def asks (call : Call) : Prop := call.what = "dependents scan" ∧ call.place? = none

theorem ends_scanned (source : Source σ) (moment : Option Nat) :
    Scanned (fun _ reading _ => reading.Ends (Reading.passes asks) Own) (source.recorded moment)
      (source.recorded moment) where
  toSequential := Reading.ends_sequential
  sheetNames := Reading.ends_checked (Reading.ends_recorded ⟨rfl, rfl⟩ _) (.inl ⟨_, rfl⟩)
  usedRange _ := Reading.ends_checked (Reading.ends_recorded ⟨rfl, rfl⟩ _) (.inl ⟨_, rfl⟩)
  grids sheets := Reading.ends_checked (Reading.ends_batch (fun _ => ⟨rfl, rfl⟩)
    (fun _ => rfl) source.delay source.formulaGrid sheets) (.inl ⟨_, rfl⟩)
  listed found := Reading.ends_ofExcept fun failure failed => by
    cases candidates : allCandidates found with
    | ok candidates =>
      rw [candidates] at failed
      cases failed
    | error error =>
      rw [candidates] at failed
      cases failed
      exact .inr ⟨error, allCandidates_overruns candidates, rfl⟩

end Inventory

namespace Walk

def reports (call : Call) (failure told : Failure) : Prop :=
  told = Source.report call.what call.place? failure

def Own (failure : Failure) : Prop :=
  (∃ message, failure = .cancelled message) ∨
    ∃ error : AddressError, error.Overruns ∧
      failure = Source.report "dependents scan" none error.failure

theorem ends_call {source : Source (Recorded σ)} (call : Call) (reading : Reading σ α) :
    (source.guard call.what call.place? (Reading.recorded call reading)).Ends reports Own := by
  have single : (Reading.recorded call reading).Ends (Reading.passes (· = call))
      (fun _ => False) := by
    apply Reading.ends_recorded
    rfl
  apply Reading.ends_guard single
  · rintro _ failure _ ⟨rfl, rfl⟩
    rfl
  · exact fun _ impossible => impossible.elim
  · exact .inl ⟨_, rfl⟩

theorem ends_asked (source : Source σ) (moment : Option Nat) :
    Asked (fun _ reading _ => reading.Ends reports Own) (source.recorded moment)
      (source.recorded moment) where
  toSequential := Reading.ends_sequential
  readCell address := ends_call (.readCell address) _
  precedents address := ends_call (.precedents address) _
  dependents address := ends_call (.dependents address) _
  inventory budget := by
    apply Reading.ends_guard (Inventory.take_related (Inventory.ends_scanned source moment) budget)
    · rintro call failure _ ⟨⟨named, placed⟩, rfl⟩
      unfold reports
      rw [named, placed]
    · rintro _ (⟨message, rfl⟩ | ⟨error, beyond, rfl⟩)
      · exact .inl ⟨message, rfl⟩
      · exact .inr ⟨error, beyond, rfl⟩
    · exact .inl ⟨_, rfl⟩

end Walk

/-- The depth that a number asks for, or the default one. -/
def Value.ofDepth : Option Int → Value
  | none => .blank
  | some depth => .int depth

@[simp] theorem Value.askedDepth_ofDepth (depth : Option Int) :
    (Value.ofDepth depth).askedDepth = .ok depth := by
  cases depth <;> rfl

@[simp] theorem Mode.read_name (mode : Mode) : Mode.read (some mode.name) = .ok mode := by
  cases mode <;> rfl

namespace Trace

theorem request_ends (source : Source σ) (moment : Option Nat) (limits : Limits) (target : Target)
    (mode : Option String) (depth : Value) :
    (request (source.recorded moment) limits target mode depth).Ends Walk.reports
      fun failure => arguments target mode depth = .error failure ∨ Walk.Own failure := by
  rw [request_eq]
  refine Reading.ends_bind (Reading.ends_ofExcept fun _ => .inl) ?_
  rintro ⟨address, direction, asked⟩ record
  obtain ⟨made, adds, ending⟩ :=
    ofAddress_related (Walk.ends_asked source moment) limits address direction asked record
  exact ⟨made, adds, ending.mono fun _ => .inr⟩

theorem run_eq (source : Source σ) (limits : Limits) (target : Target) (mode : Mode)
    (asked : Option Int) :
    run source limits target mode asked = request source limits target (some mode.name)
      (.ofDepth asked) := by
  unfold request
  rw [Mode.read_name, Value.askedDepth_ofDepth]
  rfl

theorem invalidInput_of_singleCell {text home : String} {failure : Failure}
    (refused : (singleCell text home).mapError TargetError.failure = .error failure) :
    ∃ message, failure = .invalidInput message := by
  cases read : singleCell text home with
  | ok address =>
    rw [read] at refused
    cases refused
  | error error =>
    rw [read] at refused
    cases refused
    exact ⟨error.message, rfl⟩

theorem invalidInput_of_arguments {spelled : String} {mode : Mode} {asked : Option Int}
    {failure : Failure}
    (refused : arguments (.text spelled) (some mode.name) (Value.ofDepth asked) = .error failure) :
    ∃ message, failure = .invalidInput message := by
  unfold arguments at refused
  rw [Mode.read_name, Value.askedDepth_ofDepth] at refused
  cases read : (Target.text spelled).address with
  | ok address =>
    rw [read] at refused
    cases refused
  | error cause =>
    rw [read] at refused
    cases refused
    exact invalidInput_of_singleCell read

theorem report_of_ofTracing {failure : Failure} (tracing : failure.ofTracing = true) (what : String)
    (place : Option String) :
    Source.report what place failure = failure := if_pos tracing

theorem report_told {failure : Failure} (foreign : failure.ofTracing = false) {text : String}
    (told : failure.message = .ok text) (what : String) (place : Option String) :
    ∃ message, Source.report what place failure = .source message place (some failure) := by
  unfold Source.report Failure.retold
  rw [if_neg (by simp [foreign]), told]
  exact ⟨_, rfl⟩

theorem report_untold {failure instead : Failure} (foreign : failure.ofTracing = false)
    (untold : failure.message = .error instead) (what : String) (place : Option String) :
    Source.report what place failure = instead := by
  unfold Source.report Failure.retold
  rw [if_neg (by simp [foreign]), untold]

/-- A failure comes from a call: it is the failure of one, or what came of asking for the message of
that. -/
def Stems (calls : List MadeCall) (failure : Failure) : Prop :=
  ∃ made ∈ calls, ∃ cause, made.failure = some cause ∧
    (cause = failure ∨ cause.message = .error failure)

/-- A failure that a call is reported with is one of the source, or it comes from the call. -/
theorem report_stems {calls : List MadeCall} {made : MadeCall} (inside : made ∈ calls)
    {failure : Failure} (failed : made.failure = some failure) (what : String)
    (place : Option String) :
    (∃ message, Source.report what place failure = .source message place (some failure)) ∨
      Stems calls (Source.report what place failure) := by
  cases tracing : failure.ofTracing with
  | true =>
    rw [report_of_ofTracing tracing]
    exact .inr ⟨made, inside, failure, failed, .inl rfl⟩
  | false =>
    cases told : failure.message with
    | ok text => exact .inl (report_told tracing told what place)
    | error instead =>
      rw [report_untold tracing told]
      exact .inr ⟨made, inside, failure, failed, .inr told⟩

/-- A failure that says what is wrong with the cell, with the source or with going on. -/
inductive Plain : Failure → Prop
  | invalidInput (message : String) : Plain (.invalidInput message)
  | source (message : String) (address : Option String) (cause : Option Failure) :
      Plain (.source message address cause)
  | cancelled (message : String) : Plain (.cancelled message)

theorem Plain.ofTracing {failure : Failure} (plain : Plain failure) : failure.ofTracing = true := by
  cases plain <;> rfl

theorem plain_of_own {failure : Failure} (own : Walk.Own failure) : Plain failure := by
  rcases own with ⟨message, rfl⟩ | ⟨error, _, rfl⟩
  · exact .cancelled message
  · exact .source _ none (some error.failure)

/-- A failure is a plain one unless it comes from a call. -/
def Accounted (outcome : Except Failure α) (calls : List MadeCall) : Prop :=
  ∀ failure, outcome = .error failure → Plain failure ∨ Stems calls failure

theorem accounted_request (source : Source σ) (moment : Option Nat) (limits : Limits)
    (spelled : String) (mode : Mode) (asked : Option Int) :
    (request (source.recorded moment) limits (.text spelled) (some mode.name)
      (.ofDepth asked)).Makes Accounted := by
  intro record
  obtain ⟨made, adds, ending⟩ := request_ends source moment limits (.text spelled) (some mode.name)
    (.ofDepth asked) record
  refine ⟨made, adds, fun failure failed => ?_⟩
  rw [failed] at ending
  cases ending with
  | unbroken _ known =>
    rcases known failure rfl with refused | own
    · obtain ⟨message, rfl⟩ := invalidInput_of_arguments refused
      exact .inl (.invalidInput message)
    · exact .inl (plain_of_own own)
  | @broken _ cause call moment earlier before after _ _ _ reported =>
    rw [reported]
    have inside : ⟨call, some cause, moment⟩ ∈ earlier ++
        (before ++ ⟨call, some cause, moment⟩ :: after) :=
      List.mem_append_right _ (List.mem_append_right _ List.mem_cons_self)
    rcases report_stems inside rfl call.what call.place? with ⟨message, told⟩ | stems
    · rw [told]
      exact .inl (.source message _ _)
    · exact .inr stems

/-- Two sheets whose grids cannot be loaded. -/
def unreadable : Script where
  cells := []
  sheets := ["S", "T"]
  ranges := [("S", ⟨some "S!A1:A1", none⟩), ("T", ⟨some "T!A1:A1", none⟩)]
  precedents := []
  dependents := []
  failures := [(.formulaGrid "S", .system "locked"), (.formulaGrid "T", .system "lost")]
  cancelAfter := none

example :
    let reading := request (unreadable.source.recorded none) {} (.text "S!A1")
      (some "dependents") .blank
    ((reading.leaves ⟨unreadable.start, []⟩).calls.drop 5).map MadeCall.call =
      [.formulaGrid "S", .formulaGrid "T"] ∧ (match reading.outcome ⟨unreadable.start, []⟩ with
        | .error (.source message none (some (.system cause))) =>
          message == "dependents scan failed for ?: locked" && cause == "locked"
        | _ => false) = true := by
  decide +kernel

/-- The same source, whose first grid takes longer to fail than its second. -/
def unevenly : Source Script.State :=
  { unreadable.source with delay := fun sheet _ => if sheet = "S" then 2 else 1 }

/-- A cell whose failure has no message, but only one more failure. -/
def wordless : Script where
  cells := []
  sheets := []
  ranges := []
  precedents := []
  dependents := []
  failures := [(.readCell "S!A1", .untold (.badValue "") (.badValue limitMessage))]
  cancelAfter := none

end Trace

end FormulaTrace
