import FormulaTrace.CommandLine

/-!
The program: it reads its configuration and looks at the files that its arguments name.

The sheets inside of an archive are not read here; an archive is known as such by its first bytes.
-/
namespace FormulaTrace.Program

def names : List String :=
  ["TRACE_MAX_DEPTH", "TRACE_DEFAULT_DEPTH", "TRACE_MAX_CHILDREN_PER_NODE",
    "TRACE_MAX_PRECEDENT_FALLBACK_REFS", "TRACE_MAX_DEPENDENT_SCAN_FORMULA_CELLS", "LOG_LEVEL",
      "API_HOST",
    "API_PORT"]

def assignments : IO (Except Assignments.Error Assignments) := do
  let environment ← names.filterMapM fun name => do
    return (← IO.getEnv name).map fun text => (name, text)
  match ← (IO.FS.readFile ".env").toBaseIO with
  | .ok text => return Assignments.withFile environment text
  | .error _ => return .ok environment

def storedFile? (path : String) : IO (Option (String × StoredFile)) := do
  match ← (IO.FS.readBinFile path).toBaseIO with
  | .ok bytes =>
    let marked := bytes.toList.take 2 = [0x50, 0x4B]
    return some (plainPath path, if marked then .archive else .other)
  | .error _ => return none

/-- The words shown for arguments that cannot be understood. -/
def usage : String := "Usage: refs FORMULA [--sheet NAME]\n" ++
  "       trace XLSX CELL [--mode MODE] [--depth N] [--index] [--json]\n"

def lastWords (failure : Failure) : String :=
  failure.message.toOption.getD "<exception str() failed>"

end FormulaTrace.Program

open FormulaTrace FormulaTrace.Program in
def main (arguments : List String) : IO UInt32 := do
  let found ← assignments
  let read := do
    (Configuration.read (← found.mapError Assignments.Error.failure)).mapError
      Text.IntegerError.failure
  match read with
  | .error failure =>
    IO.eprintln (lastWords failure)
    return 1
  | .ok configuration =>
    let shelf ← arguments.filterMapM storedFile?
    let outcome := CommandLine.run shelf configuration arguments
    IO.print outcome.output
    IO.eprint (outcome.errors.getD usage)
    if let some failure := outcome.failure then IO.eprintln (lastWords failure)
    return UInt32.ofNat outcome.exitCode
