import FormulaTrace.Proofs.Trace.Bounds

/-! The calls that a trace makes, stop by stop.
Every stop of a walk makes calls of its own: it reads its cell, once more if it has no formula to
follow, and asks the index of the source if it goes on below the cell.  The calls of a walk are
those of its stops, one stop after another. -/
namespace FormulaTrace

variable {σ α β : Type}

def Mode.query : Mode → String → Call
  | precedents, address => .precedents address
  | dependents, address => .dependents address

theorem Mode.query_injective (mode : Mode) : Function.Injective mode.query := by
  intro first second same
  cases mode <;> cases same <;> rfl

/-- What an index tells of cells in either direction. -/
abbrev IndexTable := Mode → String → Option (List (List String))

namespace Call

def readsCell : Call → Bool
  | readCell _ => true
  | _ => false

def asksIndex : Call → Bool
  | precedents _ | dependents _ => true
  | _ => false

def listsSheets : Call → Bool
  | sheetNames => true
  | _ => false

def surveys : Call → Bool
  | usedRange _ | formulaGrid _ => true
  | _ => false

def told? (index : IndexTable) : Call → Option (Option (List (List String)))
  | precedents address => some (index .precedents address)
  | dependents address => some (index .dependents address)
  | _ => none

theorem filterMap_told?_query (index : IndexTable) (mode : Mode) (address : String) :
    [mode.query address].filterMap (told? index) = [index mode address] := by
  cases mode <;> rfl

theorem filterMap_told? (index : IndexTable) (calls : List Call) :
    (calls.filter asksIndex).filterMap (told? index) = calls.filterMap (told? index) := by
  rw [List.filterMap_filter]
  refine congrArg (List.filterMap · calls) (funext fun call => ?_)
  cases call <;> rfl

theorem filter_scan {kind : Call → Bool}
    (apart : ∀ sheet, kind (.usedRange sheet) = false ∧ kind (.formulaGrid sheet) = false)
    {calls : List Call} (surveys : ∀ call ∈ calls, call.surveys = true)
    (first second third : Call) :
    (first :: second :: third :: calls).filter kind = [first, second, third].filter kind := by
  have none : calls.filter kind = [] := by
    refine List.filter_eq_nil_iff.2 fun call inside => ?_
    have survey := surveys call inside
    cases call with
    | usedRange sheet => simp [(apart sheet).1]
    | formulaGrid sheet => simp [(apart sheet).2]
    | _ => cases survey
  change ([first, second, third] ++ calls).filter kind = _
  rw [List.filter_append, none, List.append_nil]

end Call

/-- Whatever a source answers about cells is what a table says, and whatever its index answers is
what another says. -/
structure Source.AnswersFrom (source : Source σ) (cells : String → Snapshot) (index : IndexTable) :
    Prop where
  reads : source.ReadsFrom cells
  precedents : ∀ address state told after, (source.precedents address).Gives state told after →
    told = index .precedents address
  dependents : ∀ address state told after, (source.dependents address).Gives state told after →
    told = index .dependents address

def Recorded.log (record : Recorded σ) : List Call := record.calls.map MadeCall.call

theorem Reading.recorded_gives {call : Call} {reading : Reading σ α} {record after : Recorded σ}
    {value : α} (given : (recorded call reading).Gives record value after) :
    (∃ state, reading.Gives record.state value state) ∧ after.log = record.log ++ [call] := by
  have answers : reading.outcome record.state = .ok value := congrArg Prod.fst given
  have leaves : (recorded call reading).leaves record = after := congrArg Prod.snd given
  refine ⟨⟨_, gives_leaves answers⟩, ?_⟩
  rw [← leaves, recorded_leaves]
  exact List.map_append

namespace Source.AnswersFrom

variable {source : Source σ} {cells : String → Snapshot} {index : IndexTable}

theorem recorded (answers : source.AnswersFrom cells index) (moment : Option Nat) :
    (source.recorded moment).AnswersFrom cells index where
  reads address record snapshot after given := by
    obtain ⟨⟨state, plain⟩, _⟩ := Reading.recorded_gives given
    exact answers.reads address record.state snapshot state plain
  precedents address record told after given := by
    obtain ⟨⟨state, plain⟩, _⟩ := Reading.recorded_gives given
    exact answers.precedents address record.state told state plain
  dependents address record told after given := by
    obtain ⟨⟨state, plain⟩, _⟩ := Reading.recorded_gives given
    exact answers.dependents address record.state told state plain

theorem indexed_gives (answers : source.AnswersFrom cells index) {moment : Option Nat} {mode : Mode}
    {address : String} {progress later : Progress} {record after : Recorded σ}
    {told : Option (List (List String))}
    (given : Walk.Gives (Walk.indexed (source.recorded moment) mode address)
      progress record told later after) :
    told = index mode address ∧ after.log = record.log ++ [mode.query address] := by
  cases mode with
  | precedents =>
    obtain ⟨asked, _⟩ := Walk.gives_lift.1 given
    obtain ⟨⟨state, plain⟩, logged⟩ := Reading.recorded_gives (Reading.gives_guard asked)
    exact ⟨answers.precedents _ _ _ _ plain, logged⟩
  | dependents =>
    obtain ⟨asked, _⟩ := Walk.gives_lift.1 given
    obtain ⟨⟨state, plain⟩, logged⟩ := Reading.recorded_gives (Reading.gives_guard asked)
    exact ⟨answers.dependents _ _ _ _ plain, logged⟩

end Source.AnswersFrom

namespace Inventory

theorem gives_checked {source : Source σ} {reading : Reading σ α} {state after : σ} {value : α}
    (given : (checked source reading).Gives state value after) :
    reading.Gives state value after := by
  have answers : (checked source reading).outcome state = .ok value := congrArg Prod.fst given
  have leaves : (checked source reading).leaves state = after := congrArg Prod.snd given
  rw [checked_outcome] at answers
  rw [checked_leaves] at leaves
  split at answers
  · cases answers
  next free =>
    rw [if_neg free] at leaves
    exact Prod.ext answers leaves

def survey (source : Source σ) (budget : Int) (sheets : List String) : Reading σ Inventory := do
  let ranges ← sheets.mapM fun sheet => checked source (source.usedRange sheet)
  let selection := select budget (sheets.zip ranges)
  let found ← checked source (grids source selection.chosen)
  let candidates ← Reading.ofExcept
    ((allCandidates (selection.chosen.zip found)).mapError AddressError.failure)
  return ⟨candidates, selection.truncated, selection.skipped⟩

theorem survey_only (source : Source σ) (moment : Option Nat) (budget : Int)
    (sheets : List String) :
    Reading.Only Call.surveys _ (survey (source.recorded moment) budget sheets)
      (survey (source.recorded moment) budget sheets) := by
  have sequential : Reading.Sequential (Reading.Only (σ := σ) Call.surveys) :=
    Reading.only_sequential
  refine sequential.bind (sequential.mapM sheets fun sheet => ?_) fun ranges => ?_
  · exact Reading.only_checked (Reading.only_recorded rfl _)
  refine sequential.bind (Reading.only_checked
    (Reading.only_batch (fun _ => rfl) source.delay source.formulaGrid _)) fun found => ?_
  exact sequential.bind (Reading.only_ofExcept _) fun candidates => sequential.pure _

theorem take_log {source : Source σ} {moment : Option Nat} {budget : Int}
    {record after : Recorded σ} {inventory : Inventory}
    (given : (take (source.recorded moment) budget).Gives record inventory after) :
    ∃ rest, (∀ call ∈ rest, call.surveys = true) ∧
      after.log = record.log ++ .sheetNames :: rest := by
  rw [take_eq] at given
  obtain ⟨sheets, middle, named, rest⟩ := Reading.gives_bind.1 given
  obtain ⟨_, first⟩ := Reading.recorded_gives (gives_checked named)
  obtain ⟨made, adds, all⟩ := survey_only source moment budget sheets middle
  have leaves : (survey (source.recorded moment) budget sheets).leaves middle = after :=
    congrArg Prod.snd rest
  rw [leaves] at adds
  refine ⟨made.map MadeCall.call, List.forall_mem_map.2 all, ?_⟩
  calc after.log
    _ = middle.log ++ made.map MadeCall.call := by rw [Recorded.log, adds, List.map_append]; rfl
    _ = record.log ++ .sheetNames :: made.map MadeCall.call := by rw [first, List.append_assoc]; rfl

end Inventory

namespace Finding

def tells : Finding → Bool
  | told _ => true
  | _ => false

def takes : Finding → Bool
  | listed _ _ (some _) => true
  | _ => false

end Finding

/-- The calls that a stop makes. -/
inductive Stop.Asks (index : IndexTable) (mode : Mode) : Stop → List Call → Prop where
  | again (address : String) (snapshot : Snapshot) : Asks index mode (.again snapshot)
      [.readCell address]
  | constant (address : String) (snapshot shown : Snapshot) :
      Asks index mode (.constant snapshot shown) [.readCell address, .readCell address]
  | last (address : String) (snapshot : Snapshot) : Asks index mode (.last snapshot)
      [.readCell address]
  | asked (address : String) {snapshot : Snapshot} {finding : Finding}
      (told : (index mode snapshot.address).isSome = finding.tells) (held : finding.takes = false) :
      Asks index mode (.expanded snapshot finding) [.readCell address, mode.query snapshot.address]
  | scanned (address : String) {snapshot : Snapshot} {target : Cell} {candidates : List Candidate}
      {inventory : Inventory}
      {rest : List Call} (direction : mode = .dependents)
        (silent : index mode snapshot.address = none)
      (surveys : ∀ call ∈ rest, call.surveys = true) :
      Asks index mode (.expanded snapshot (.listed target candidates (some inventory)))
        (.readCell address :: mode.query snapshot.address :: .sheetNames :: rest)

namespace Walk

variable {source : Source σ} {cells : String → Snapshot} {index : IndexTable} {moment : Option Nat}
  {limits : Limits} {mode : Mode} {depth : Nat} {addresses : List String}
  {progress later : Progress} {state after : Recorded σ} {stops : List Stop} {nodes : List Node}

theorem Finds.exists_log (answers : source.AnswersFrom cells index) {address : String}
    {snapshot : Snapshot} {finding : Finding} {between : Recorded σ}
    (reads : ((source.recorded moment).readCell address).Gives state snapshot between)
    (finds : Finds (source.recorded moment) limits snapshot mode progress between finding later
      after) :
    ∃ log, Stop.Asks index mode (.expanded snapshot finding) log ∧
      after.log = state.log ++ log := by
  obtain ⟨_, read⟩ := Reading.recorded_gives reads
  have asked {told : Option (List (List String))} {beyond : Recorded σ}
      (given : Gives (indexed (source.recorded moment) mode snapshot.address)
        progress between told progress beyond) :
      told = index mode snapshot.address ∧
        beyond.log = state.log ++ [.readCell address, mode.query snapshot.address] := by
    obtain ⟨told, logged⟩ := answers.indexed_gives given
    exact ⟨told, by rw [logged, read, List.append_assoc]; rfl⟩
  cases finds with
  | told given =>
    obtain ⟨told, logged⟩ := asked given
    exact ⟨_, .asked address (told ▸ rfl) rfl, logged⟩
  | taken given place unknown took =>
    obtain ⟨told, logged⟩ := asked given
    obtain ⟨rest, surveys, further⟩ := Inventory.take_log took
    refine ⟨_, .scanned address rfl told.symm surveys, ?_⟩
    rw [further, logged, List.append_assoc]
    rfl
  | parsed given _ _ | held given _ _ | unwritten given _ | unplaced given _ =>
    obtain ⟨told, logged⟩ := asked given
    exact ⟨_, .asked address (told ▸ rfl) rfl, logged⟩

/-- The calls of a walk are those of its stops. -/
theorem Course.exists_logs (answers : source.AnswersFrom cells index)
    (course : Course (source.recorded moment) limits mode depth addresses progress state stops nodes
      later after) :
    ∃ logs, List.Forall₂ (Stop.Asks index mode) stops logs ∧
      after.log = state.log ++ logs.flatten := by
  induction course with
  | done => exact ⟨[], .nil, (List.append_nil _).symm⟩
  | again reads old further ih =>
    obtain ⟨logs, asks, logged⟩ := ih
    obtain ⟨_, read⟩ := Reading.recorded_gives reads
    exact ⟨_ :: logs, .cons (.again _ _) asks, by rw [logged, read, List.append_assoc]; rfl⟩
  | constant reads new follows bare shows further ih =>
    obtain ⟨logs, asks, logged⟩ := ih
    obtain ⟨_, read⟩ := Reading.recorded_gives reads
    obtain ⟨_, shown⟩ := Reading.recorded_gives shows
    exact ⟨_ :: logs, .cons (.constant _ _ _)
      asks, by rw [logged, shown, read, List.append_assoc, List.append_assoc]; rfl⟩
  | last reads new follows further ih =>
    obtain ⟨logs, asks, logged⟩ := ih
    obtain ⟨_, read⟩ := Reading.recorded_gives reads
    exact ⟨_ :: logs, .cons (.last _ _) asks, by rw [logged, read, List.append_assoc]; rfl⟩
  | expanded reads new follows finds descends further inner ih =>
    obtain ⟨log, asks, found⟩ := finds.exists_log answers reads
    obtain ⟨logs, below, deeper⟩ := inner
    obtain ⟨others, beyond, logged⟩ := ih
    refine ⟨_, .cons asks (List.rel_append below beyond), ?_⟩
    rw [logged, deeper, found]
    simp

end Walk

end FormulaTrace
