import FormulaTrace.Trace.Source

/-!
Scripted sources: every answer is fixed beforehand, every call is recorded, and calls can be made to
fail or to cancel the trace.
-/
namespace FormulaTrace

/-- A call to a source. -/
inductive Call where
  | readCell (address : String)
  | sheetNames
  | usedRange (sheet : String)
  | formulaGrid (sheet : String)
  | precedents (address : String)
  | dependents (address : String)
deriving DecidableEq

/-- The used range of a sheet in a script. -/
structure ScriptedRange where
  address : Option String
  grid : Option FormulaGrid

structure Script where
  cells : List (String × Snapshot)
  sheets : List String
  ranges : List (String × ScriptedRange)
  precedents : List (String × Option (List (List String)))
  dependents : List (String × Option (List (List String)))
  failures : List (Call × Failure)
  /-- The count of calls after which the source is cancelled. -/
  cancelAfter : Option Nat

namespace Script

structure State where
  /-- The calls made, the latest first. -/
  calls : List Call
  cancelled : Bool

def start (script : Script) : State := ⟨[], script.cancelAfter = some 0⟩

/-- The state with its calls forgotten; a cancellation stays. -/
def State.forget (state : State) : State := { state with calls := [] }

def record (script : Script) (call : Call) (state : State) : State :=
  let calls := call :: state.calls
  ⟨calls, state.cancelled || script.cancelAfter.any fun count => count ≤ calls.length⟩

def answer {α : Type} (script : Script) (call : Call) (value : α) : Reading State α :=
  ExceptT.mk fun state =>
    let result :=
      match script.failures.lookup call with
      | some failure => .error failure
      | none => .ok value
    (result, script.record call state)

def unlisted (address : String) : Snapshot := ⟨.blank, none, none, address⟩

def source (script : Script) : Source State where
  readCell address :=
    script.answer (.readCell address) ((script.cells.lookup address).getD (unlisted address))
  sheetNames := script.answer .sheetNames script.sheets
  usedRange sheet := script.answer (.usedRange sheet)
    ((script.ranges.lookup sheet).bind (·.address))
  formulaGrid sheet := script.answer (.formulaGrid sheet)
    ((script.ranges.lookup sheet).bind (·.grid))
  precedents address := script.answer (.precedents address) (script.precedents.lookup address).join
  dependents address := script.answer (.dependents address) (script.dependents.lookup address).join
  cancelled state := state.cancelled

end Script

end FormulaTrace
