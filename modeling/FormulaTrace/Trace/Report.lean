import FormulaTrace.Lineage.Rendering
import FormulaTrace.Trace.Walk

/-!
Reports: a trace asked for in words, and its outcome with a status, a message and a text to show.
-/
namespace FormulaTrace

inductive Status where
  | ok
  | noFormula
  | invalidInput
  | cancelled
  | failed
deriving DecidableEq

def Status.name : Status → String
  | ok => "ok"
  | noFormula => "no_formula"
  | invalidInput => "invalid_input"
  | cancelled => "cancelled"
  | failed => "failed"

structure Report where
  status : Status
  message : String
  result : Option Trace
  text : Option String

namespace Report

def refusal (status : Status) (message : String) : Report := ⟨status, message, none, none⟩

/-- A report without a result that ends with the message of a failure. -/
def quoting (status : Status) (opening : String) (failure : Failure) : Except Failure Report :=
  failure.message.map fun message => refusal status (opening ++ message)

/-- The report on a failure to find the cell; failures of other kinds are not reported. -/
def ofUnfound (failure : Failure) : Except Failure Report :=
  match failure.bare with
  | .invalidInput _ => quoting .invalidInput "Error: " failure
  | .source _ _ _ => quoting .failed "Error tracing dependencies: " failure
  | _ => .error failure

def ofFailure (cell : String) (failure : Failure) : Except Failure Report :=
  match failure.bare with
  | .cancelled _ => .ok (refusal .cancelled ("Trace of " ++ cell ++ " was cancelled."))
  | _ => ofUnfound failure

def heading : Mode → String
  | .precedents => "Precedents"
  | .dependents => "Dependents"

/-- The lines below the tree: an empty result, and what was left out. -/
def remarks (trace : Trace) (root : Node) : List String :=
  (if trace.mode = .dependents ∧ root.children.isEmpty then ["\n_No direct dependents found._"]
    else []) ++ (if trace.truncated then
      "\n_Trace output was truncated to keep the result responsive._" ::
        (if trace.skippedSheets.isEmpty then []
         else ["_Sheets skipped by the dependents scan: " ++ ", ".intercalate trace.skippedSheets ++
           "._"])
     else [])

def traceText (trace : Trace) (root : Node) : Except Failure String :=
  (root.render (some ("**" ++ heading trace.mode ++ " tree for " ++ root.address ++ ":**"))).map
    fun tree => "\n".intercalate (tree :: remarks trace root)

def ofTrace (cell : String) (trace : Trace) : Except Failure Report :=
  match trace.root with
  | none =>
    .ok ⟨.noFormula, cell ++ " has no formula — it's a direct value or empty.", some trace, none⟩
  | some root =>
    (traceText trace root).map fun text =>
      ⟨.ok, "Traced " ++ trace.mode.name ++ " of " ++ root.address, some trace, some text⟩

variable {σ : Type}

def firstSheet (source : Source σ) : Reading σ String := do
  let sheets ← source.sheetNames.adapt fun failure => failure.retold "list_sheets failed" none
  match sheets with
  | [] => throw (.invalidInput "Workbook has no sheets")
  | sheet :: _ => return sheet

/-- The address to trace; a text that names no sheet stands for a cell of the default sheet, or else
of the first. -/
def findTarget (source : Source σ) (cell : String) (defaultSheet : Option String) :
    Reading σ String := do
  let home ←
    match defaultSheet with
    | some sheet => pure sheet
    | none => if (separate cell).1.isNone then firstSheet source else pure ""
  Reading.ofExcept ((singleCell cell home).mapError TargetError.failure)

/-- Goes on with what a reading answers, or reports its failure. -/
def orReport {α : Type} (reading : Reading σ α) (report : Failure → Except Failure Report)
    (next : α → Reading σ Report) : Reading σ Report := do
  match ← ExceptT.lift reading.run with
  | .ok value => next value
  | .error failure => Reading.ofExcept (report failure)

def traced (source : Source σ) (limits : Limits) (mode : Option String) (depth : Value)
    (address : String) :
    Reading σ Trace := do
  let asked ← Reading.ofExcept depth.askedDepth
  Trace.run source limits (.text address) (Mode.ofText mode) asked

/-- Traces a cell and reports the outcome.  Each part has its own reports on its failures; the text
of the outcome is made after them. -/
def produce (source : Source σ) (limits : Limits) (cell : String) (mode : Option String)
    (depth : Value) (defaultSheet : Option String) : Reading σ Report :=
  if coversSeveral cell then
    return refusal .invalidInput "Error: trace_dependencies expects a single cell, not a range."
  else
    orReport (findTarget source cell defaultSheet) ofUnfound fun address =>
      orReport (traced source limits mode depth address) (ofFailure cell) fun trace =>
        Reading.ofExcept (ofTrace cell trace)

end Report

end FormulaTrace
