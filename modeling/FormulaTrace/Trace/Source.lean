import FormulaTrace.Failure
import FormulaTrace.Value.Basic

/-!
Sources of cells.

A source is a machine: every answer may change its state, whether it succeeds or fails.  It may
answer questions about what a cell leads to from an index of its own, and it knows whether it was
cancelled.
-/
namespace FormulaTrace

/-- What a source tells about one cell. -/
structure Snapshot where
  value : Value
  formula : Option String
  numberFormat : Option String
  address : String

/-- The texts in the used range of a sheet, row by row; rows may differ in length. -/
structure FormulaGrid where
  address : String
  rows : List (List (Option String))

/-- A reading of a source: the answer or a failure, and the state afterwards in either case. -/
abbrev Reading (σ α : Type) := ExceptT Failure (StateM σ) α

structure Source (σ : Type) where
  readCell : String → Reading σ Snapshot
  sheetNames : Reading σ (List String)
  /-- The address of the used range of a sheet. -/
  usedRange : String → Reading σ (Option String)
  formulaGrid : String → Reading σ (Option FormulaGrid)
  /-- The cells that a cell reads, in groups, if the source has an index that tells. -/
  precedents : String → Reading σ (Option (List (List String)))
  /-- The cells that read a cell, in groups, if the source has an index that tells. -/
  dependents : String → Reading σ (Option (List (List String)))
  cancelled : σ → Bool
  /-- How long the formula grid of a sheet takes to come once it is asked for. -/
  delay : String → σ → Nat := fun _ _ => 0

namespace Reading

variable {σ α β ι : Type}

def ofExcept (result : Except Failure α) : Reading σ α := ExceptT.mk fun state => (result, state)

/-- What comes of several readings, all answers or the first failure with its moment, once one that
was begun before them is added; of failures at one moment its own is the first. -/
def join (delay : Nat) : Except Failure α → Except (Nat × Failure) (List α) → Except (Nat × Failure)
    (List α)
  | .ok value, others => others.map (value :: ·)
  | .error failure, .ok _ => .error (delay, failure)
  | .error failure, .error (moment, other) =>
    if moment < delay then .error (moment, other) else .error (delay, failure)

/-- Begins one reading after another, whatever comes of them. -/
def together (delay : ι → σ → Nat) (reading : ι → Reading σ α) :
    List ι → StateM σ (Except (Nat × Failure) (List α))
  | [] => fun state => (.ok [], state)
  | item :: rest => fun state =>
    let (first, between) := (reading item).run.run state
    let (others, after) := together delay reading rest between
    (join (delay item state) first others, after)

/-- Makes readings together: their answers in order, or the failure that comes first. -/
def batch (delay : ι → σ → Nat) (reading : ι → Reading σ α) (items : List ι) : Reading σ (List α) :=
  ExceptT.mk fun state =>
    let (made, after) := together delay reading items state
    (made.mapError Prod.snd, after)

end Reading

namespace Source

variable {σ α : Type}

def checkCancelled (source : Source σ) (message : String) : Reading σ Unit :=
  ExceptT.mk fun state =>
    (if source.cancelled state then .error (.cancelled message) else .ok (), state)

/-- A failure of a reading as a trace reports it: failures of tracing as they are, any other as a
failure of the source. -/
def report (what : String) (address : Option String) (failure : Failure) : Failure :=
  if failure.ofTracing then failure
  else
    let place := if address.getD "" = "" then "?" else address.getD ""
    failure.retold (what ++ " failed for " ++ place) address

/-- A reading that is not begun once the source is cancelled and whose failures are reported. -/
def guard (source : Source σ) (what : String) (address : Option String) (reading : Reading σ α) :
    Reading σ α := ExceptT.mk fun state =>
  if source.cancelled state then (.error (.cancelled ("Trace cancelled before " ++ what)), state)
  else
    let (result, state) := reading.run.run state
    (result.mapError (report what address), state)

end Source

end FormulaTrace
