import FormulaTrace.Configuration.Assignments
import FormulaTrace.Trace.Request

/-!
The configuration of the program, read from assigned texts.
-/
namespace FormulaTrace

open Text

structure Configuration where
  limits : Limits := {}
  logLevel : String := "INFO"
  serviceHost : String := "0.0.0.0"
  servicePort : Int := 8000

namespace Assignments

def text (assignments : Assignments) (name default : String) : String :=
  (assignments.lookup name).getD default

def number (assignments : Assignments) (name : String) (default : Int) : Except IntegerError Int :=
  match assignments.lookup name with
  | some text => readInteger text
  | none => .ok default

def Error.failure (error : Error) : Failure := .badValue error.message

end Assignments

/-- Reads a configuration; the first number that cannot be read is the failure. -/
def Configuration.read (assignments : Assignments) : Except IntegerError Configuration := do
  let maxDepth ← assignments.number "TRACE_MAX_DEPTH" 5
  let defaultDepth ← assignments.number "TRACE_DEFAULT_DEPTH" 2
  let maxChildren ← assignments.number "TRACE_MAX_CHILDREN_PER_NODE" 80
  let maxReferences ← assignments.number "TRACE_MAX_PRECEDENT_FALLBACK_REFS" 20
  let maxScanCells ← assignments.number "TRACE_MAX_DEPENDENT_SCAN_FORMULA_CELLS" 50000
  let servicePort ← assignments.number "API_PORT" 8000
  return {
    limits := ⟨maxDepth, defaultDepth, maxChildren, maxReferences, maxScanCells⟩
    logLevel := assignments.text "LOG_LEVEL" "INFO"
    serviceHost := assignments.text "API_HOST" "0.0.0.0"
    servicePort }

end FormulaTrace
