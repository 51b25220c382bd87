import FormulaTrace.Outcome
import FormulaTrace.Trace.Walk

/-!
Runs of readings and of walks that succeed, taken apart into the runs of their parts.
-/
namespace FormulaTrace

variable {σ α β : Type}

namespace Reading

/-- The reading succeeds from a state and leaves another. -/
def Gives (reading : Reading σ α) (state : σ) (result : α) (after : σ) : Prop :=
  reading.run.run state = (.ok result, after)

theorem Gives.det {reading : Reading σ α} {state after after' : σ} {first second : α}
    (one : Gives reading state first after) (other : Gives reading state second after') :
    first = second ∧ after = after' := by
  unfold Gives at one other
  rw [one] at other
  cases other
  exact ⟨rfl, rfl⟩

theorem gives_bind {reading : Reading σ α} {next : α → Reading σ β} {state after : σ} {result : β} :
    Gives (reading >>= next) state result after ↔
      ∃ first between, Gives reading state first between ∧
        Gives (next first) between result after := by
  unfold Gives
  rw [ExceptT.run_bind, StateT.run_bind]
  rcases reading.run.run state with ⟨outcome, between⟩
  cases outcome with
  | error failure =>
    constructor
    · intro given
      cases given
    · rintro ⟨first, other, given, _⟩
      cases given
  | ok first =>
    constructor
    · intro given
      exact ⟨first, between, rfl, given⟩
    · rintro ⟨other, place, given, next⟩
      cases given
      exact next

theorem gives_get_bind {next : σ → Reading σ β} {state after : σ} {result : β} :
    Gives (get >>= next) state result after ↔ Gives (next state) state result after :=
  Iff.rfl

theorem gives_ofExcept {outcome : Except Failure α} {state after : σ} {result : α} :
    Gives (Reading.ofExcept outcome) state result after ↔ outcome = .ok result ∧ state = after := by
  unfold Gives
  change (outcome, state) = (Except.ok result, after) ↔ _
  rw [Prod.mk.injEq]

def outcome (reading : Reading σ α) (state : σ) : Except Failure α := (reading.run.run state).1

def leaves (reading : Reading σ α) (state : σ) : σ := (reading.run.run state).2

theorem gives_leaves {reading : Reading σ α} {state : σ} {result : α}
    (answers : reading.outcome state = .ok result) :
    Gives reading state result (reading.leaves state) :=
  Prod.ext answers rfl

theorem bind_outcome (reading : Reading σ α) (next : α → Reading σ β) (state : σ) :
    (reading >>= next).outcome state = match reading.outcome state with
      | .ok value => (next value).outcome (reading.leaves state)
      | .error failure => .error failure := by
  unfold outcome leaves
  rw [ExceptT.run_bind, StateT.run_bind]
  rcases reading.run.run state with ⟨answer, after⟩
  cases answer <;> rfl

theorem bind_leaves (reading : Reading σ α) (next : α → Reading σ β) (state : σ) :
    (reading >>= next).leaves state = match reading.outcome state with
      | .ok value => (next value).leaves (reading.leaves state)
      | .error _ => reading.leaves state := by
  unfold outcome leaves
  rw [ExceptT.run_bind, StateT.run_bind]
  rcases reading.run.run state with ⟨answer, after⟩
  cases answer <;> rfl

theorem ofExcept_outcome (result : Except Failure α) (state : σ) :
    (ofExcept result).outcome state = result := rfl

theorem ofExcept_leaves (result : Except Failure α) (state : σ) :
    (ofExcept result).leaves state = state := rfl

section Batches

variable {ι : Type} (delay : ι → σ → Nat) (reading : ι → Reading σ α)

/-- What comes of readings that are made together: all answers, or the failure that comes first and
its moment. -/
def jointly (items : List ι) (state : σ) : Except (Nat × Failure) (List α) :=
  (together delay reading items state).1

theorem batch_outcome (items : List ι) (state : σ) :
    (batch delay reading items).outcome state = (jointly delay reading items state).mapError
      Prod.snd := rfl

theorem jointly_cons (item : ι) (rest : List ι) (state : σ) :
    jointly delay reading (item :: rest) state =
    join (delay item state) ((reading item).outcome state)
      (jointly delay reading rest ((reading item).leaves state)) := rfl

theorem batch_leaves_cons (item : ι) (rest : List ι) (state : σ) :
    (batch delay reading (item :: rest)).leaves state =
    (batch delay reading rest).leaves ((reading item).leaves state) := rfl

theorem join_eq_ok {moment : Nat} {first : Except Failure α}
    {others : Except (Nat × Failure) (List α)} {values : List α} :
    join moment first others = .ok values ↔
      ∃ value further, first = .ok value ∧ others = .ok further ∧ values = value :: further := by
  rcases first with failure | value <;> rcases others with ⟨later, other⟩ | further
  · by_cases early : later < moment <;> simp [join, early]
  · simp [join]
  · simp [join, Except.map]
  · simp [join, Except.map, eq_comm]

variable {delay reading}

theorem batch_outcome_eq_ok {items : List ι} {state : σ} {values : List α} :
    (batch delay reading items).outcome state = .ok values ↔
      jointly delay reading items state = .ok values :=
  Except.mapError_eq_ok

theorem gives_batch_cons {item : ι} {rest : List ι} {state after : σ} {values : List α} :
    Gives (batch delay reading (item :: rest)) state values after ↔
      ∃ value between further, Gives (reading item) state value between ∧
        Gives (batch delay reading rest) between further after ∧ values = value :: further := by
  constructor
  · intro given
    have answers : (batch delay reading (item :: rest)).outcome state = .ok values :=
      congrArg Prod.fst given
    have leaves : (batch delay reading (item :: rest)).leaves state = after :=
      congrArg Prod.snd given
    rw [batch_outcome_eq_ok, jointly_cons, join_eq_ok] at answers
    obtain ⟨value, further, first, others, rfl⟩ := answers
    refine ⟨value, _, further, gives_leaves first, ?_, rfl⟩
    rw [← leaves]
    exact gives_leaves (batch_outcome_eq_ok.2 others)
  · rintro ⟨value, between, further, first, others, rfl⟩
    have answers : (reading item).outcome state = .ok value := congrArg Prod.fst first
    have leaves : (reading item).leaves state = between := congrArg Prod.snd first
    have rests : (batch delay reading rest).outcome between = .ok further :=
      congrArg Prod.fst others
    have ends : (batch delay reading rest).leaves between = after := congrArg Prod.snd others
    have all : (batch delay reading (item :: rest)).outcome state = .ok (value :: further) := by
      rw [batch_outcome_eq_ok, jointly_cons, join_eq_ok, leaves]
      exact ⟨value, further, answers, batch_outcome_eq_ok.1 rests, rfl⟩
    rw [← ends, ← leaves]
    exact gives_leaves all

theorem batch_map {κ : Type} (name : κ → ι) (items : List κ) :
    batch delay reading (items.map name) =
    batch (fun item => delay (name item)) (fun item => reading (name item)) items := by
  have same (state : σ) : together delay reading (items.map name) state =
      together (fun item => delay (name item)) (fun item => reading (name item)) items state := by
    induction items generalizing state with
    | nil => rfl
    | cons item rest ih => simp only [List.map_cons, together, ih]
  unfold batch
  simp only [same]

end Batches

theorem exists_gives {reading : Reading σ α} {state : σ} {check : α → Bool}
    (holds : (reading.run.run state).1.toOption.any check = true) :
    ∃ result after, Gives reading state result after ∧ check result = true := by
  cases ran : reading.run.run state with
  | mk outcome after =>
    rw [ran] at holds
    cases outcome with
    | error failure => cases holds
    | ok result => exact ⟨result, after, ran, holds⟩

theorem Gives.check {reading : Reading σ α} {state after : σ} {result : α} {check : α → Bool}
    (holds : (reading.run.run state).1.toOption.all check = true)
    (given : Gives reading state result after) :
    check result = true := by
  unfold Gives at given
  rw [given] at holds
  exact holds

theorem gives_guard {source : Source σ} {what : String} {address : Option String}
    {reading : Reading σ α} {state after : σ} {result : α}
    (given : Gives (source.guard what address reading) state result after) :
    Gives reading state result after := by
  unfold Gives Source.guard at given
  simp only [ExceptT.run_mk, StateT.run] at given
  split at given
  · cases given
  · cases inner : reading.run.run state with
    | mk outcome between =>
      change ((reading.run.run state).1.mapError (Source.report what address),
        (reading.run.run state).2) = _ at given
      rw [inner] at given
      cases outcome with
      | error failure => cases given
      | ok value =>
        cases given
        exact inner

theorem gives_guard_of_free {source : Source σ} (free : ∀ state, source.cancelled state = false)
    (what : String) (address : Option String) {reading : Reading σ α} {state after : σ} {result : α}
    (given : Gives reading state result after) :
    Gives (source.guard what address reading) state result after := by
  unfold Gives at given ⊢
  unfold Source.guard
  simp only [ExceptT.run_mk, StateT.run, free, Bool.false_eq_true, ↓reduceIte]
  change ((reading.run.run state).1.mapError _, (reading.run.run state).2) = _
  rw [given]
  rfl

end Reading

namespace Source

variable {source : Source σ}

theorem guard_outcome (what : String) (place : Option String) (reading : Reading σ α) (state : σ) :
    (source.guard what place reading).outcome state =
      if source.cancelled state then .error (.cancelled ("Trace cancelled before " ++ what))
      else (reading.outcome state).mapError (report what place) := by
  unfold Reading.outcome guard
  rw [ExceptT.run_mk]
  cases stopped : source.cancelled state with
  | true => simp [StateT.run, stopped]
  | false =>
    simp only [StateT.run, stopped, Bool.false_eq_true, ↓reduceIte]
    rfl

theorem guard_leaves (what : String) (place : Option String) (reading : Reading σ α) (state : σ) :
    (source.guard what place reading).leaves state =
      if source.cancelled state then state else reading.leaves state := by
  unfold Reading.leaves guard
  rw [ExceptT.run_mk]
  cases stopped : source.cancelled state with
  | true => simp [StateT.run, stopped]
  | false =>
    simp only [StateT.run, stopped, Bool.false_eq_true, ↓reduceIte]
    rfl

end Source

namespace Walk

def Gives (walk : Walk σ α) (progress : Progress) (state : σ) (result : α) (later : Progress)
    (after : σ) : Prop :=
  Reading.Gives (walk.run progress) state (result, later) after

variable {progress later : Progress} {state after : σ}

theorem gives_pure {value result : α} :
    Gives (pure value) progress state result later after ↔
      value = result ∧ progress = later ∧ state = after := by
  change ((Except.ok (value, progress) : Except Failure (α × Progress)), state) =
    (.ok (result, later), after) ↔ _
  simp only [Prod.mk.injEq, Except.ok.injEq, and_assoc]

theorem gives_bind {walk : Walk σ α} {next : α → Walk σ β} {result : β} :
    Gives (walk >>= next) progress state result later after ↔
      ∃ first middle between, Gives walk progress state first middle between ∧
        Gives (next first) middle between result later after := by
  unfold Gives
  rw [StateT.run_bind, Reading.gives_bind]
  constructor
  · rintro ⟨⟨first, middle⟩, between, given, next⟩
    exact ⟨first, middle, between, given, next⟩
  · rintro ⟨first, middle, between, given, next⟩
    exact ⟨(first, middle), between, given, next⟩

theorem gives_get_bind {next : Progress → Walk σ β} {result : β} :
    Gives (get >>= next) progress state result later after ↔
      Gives (next progress) progress state result later after :=
  Iff.rfl

theorem gives_modify_bind {change : Progress → Progress} {next : Unit → Walk σ β} {result : β} :
    Gives (modify change >>= next) progress state result later after ↔
      Gives (next ()) (change progress) state result later after :=
  Iff.rfl

theorem gives_note_bind {more : Bool} {next : Unit → Walk σ β} {result : β} :
    Gives (note more >>= next) progress state result later after ↔
      Gives (next ()) { progress with truncated := progress.truncated || more } state result later
        after :=
  Iff.rfl

theorem gives_lift {reading : Reading σ α} {result : α} :
    Gives (liftM reading) progress state result later after ↔
      reading.Gives state result after ∧ progress = later := by
  change Reading.Gives (reading >>= fun value => pure (value, progress)) _ _ _ ↔ _
  rw [Reading.gives_bind]
  constructor
  · rintro ⟨first, between, given, rest⟩
    cases rest
    exact ⟨given, rfl⟩
  · rintro ⟨given, rfl⟩
    exact ⟨result, after, given, rfl⟩

theorem gives_read {source : Source σ} {address : String} {result : Snapshot}
    (given : Gives (read source address) progress state result later after) :
    (source.readCell address).Gives state result after ∧ progress = later := by
  obtain ⟨reading, same⟩ := gives_lift.1 given
  exact ⟨Reading.gives_guard reading, same⟩

theorem arrive_gives {source : Source σ} {mode : Mode} {address : String} {arrival : Arrival}
    (given : Gives (arrive source mode address) progress state arrival later after) :
    ∃ snapshot, (source.guard "read_cell" (some address) (source.readCell address)).Gives state
      snapshot after ∧
      (snapshot.address ∈ progress.visited ∧ arrival = .again snapshot ∧ later = progress ∨
        snapshot.address ∉ progress.visited ∧
          arrival = (if mode = .precedents ∧ (!hasFormula snapshot) = true then .constant
            else .entered snapshot) ∧
          later = { progress with visited := snapshot.address :: progress.visited }) := by
  obtain ⟨snapshot, middle, between, reading, rest⟩ := gives_bind.1 given
  obtain ⟨guarded, rfl⟩ := gives_lift.1 reading
  have rest := gives_get_bind.1 rest
  split at rest
  next old =>
    obtain ⟨rfl, rfl, rfl⟩ := gives_pure.1 rest
    exact ⟨snapshot, guarded, .inl ⟨old, rfl, rfl⟩⟩
  next new =>
    have rest := gives_modify_bind.1 rest
    split at rest
    next constant =>
      obtain ⟨rfl, rfl, rfl⟩ := gives_pure.1 rest
      exact ⟨snapshot, guarded, .inr ⟨new, (if_pos constant).symm, rfl⟩⟩
    next formula =>
      obtain ⟨rfl, rfl, rfl⟩ := gives_pure.1 rest
      exact ⟨snapshot, guarded, .inr ⟨new, (if_neg formula).symm, rfl⟩⟩

theorem upTo_of_length_le {bound : Int} {items : List α} (fits : (items.length : Int) ≤ bound) :
    upTo bound items = items := by
  have nonneg : 0 ≤ bound := by omega
  rw [upTo, if_pos nonneg, List.take_of_length_le (by omega)]

def child (source : Source σ) (limits : Limits) (mode : Mode) (depth : Nat) (address : String) :
    Walk σ Node := do
  match ← visit source limits mode depth address with
  | some node => return node
  | none => leaf source address

def descend (source : Source σ) (limits : Limits) (mode : Mode) :
    Nat → Snapshot → Walk σ (List Node)
  | 0, _ => return []
  | depth + 1, snapshot => do
    let addresses ← below source limits mode snapshot
    addresses.mapM (child source limits mode depth)

def conclude (source : Source σ) (limits : Limits) (mode : Mode) (depth : Nat) :
    Arrival → Walk σ (Option Node)
  | .again snapshot => return some (circular snapshot)
  | .constant => return none
  | .entered snapshot => do
    let children ← descend source limits mode depth snapshot
    return some (snapshot.node snapshot.formula children)

theorem visit_eq (source : Source σ) (limits : Limits) (mode : Mode) (depth : Nat)
    (address : String) :
    visit source limits mode depth address = arrive source mode address >>= conclude source limits
      mode depth := by
  cases depth with
  | zero =>
    refine congrArg (arrive source mode address >>= ·) (funext fun arrival => ?_)
    cases arrival with
    | again snapshot => rfl
    | constant => rfl
    | entered snapshot => exact (pure_bind _ _).symm
  | succ depth =>
    refine congrArg (arrive source mode address >>= ·) (funext fun arrival => ?_)
    cases arrival with
    | again snapshot => rfl
    | constant => rfl
    | entered snapshot => exact (bind_assoc _ _ _).symm

end Walk

namespace Trace

open Reading

variable {source : Source σ} {limits : Limits} {target : Target} {state after : σ} {trace : Trace}

theorem run_gives {mode : Mode} {asked : Option Int}
    (given : Gives (run source limits target mode asked) state trace after) :
    ∃ address progress, target.address = .ok address ∧
      Walk.Gives (Walk.visit source limits mode (limits.boundDepth asked).toNat address)
        {} state trace.root progress after ∧
      trace.skippedSheets = progress.skipped := by
  obtain ⟨address, middle, resolved, rest⟩ := gives_bind.1 given
  obtain ⟨place, rfl⟩ := gives_ofExcept.1 resolved
  obtain ⟨⟨root, progress⟩, between, visited, rest⟩ := gives_bind.1 rest
  cases rest
  exact ⟨address, progress, place, visited, rfl⟩

theorem request_gives {mode : Option String} {depth : Value}
    (given : Gives (request source limits target mode depth) state trace after) :
    ∃ direction asked, Mode.read mode = .ok direction ∧ depth.askedDepth = .ok asked ∧
      Gives (run source limits target direction asked) state trace after := by
  obtain ⟨direction, middle, named, rest⟩ := gives_bind.1 given
  obtain ⟨read, rfl⟩ := gives_ofExcept.1 named
  obtain ⟨asked, middle, counted, rest⟩ := gives_bind.1 rest
  obtain ⟨bound, rfl⟩ := gives_ofExcept.1 counted
  exact ⟨direction, asked, read, bound, rest⟩

end Trace

end FormulaTrace
