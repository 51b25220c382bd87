import FormulaTrace.Configuration
import FormulaTrace.Formula.FunctionName
import FormulaTrace.Text.PlainInteger
import FormulaTrace.Trace.Report
import FormulaTrace.Workbook.Shelf

/-!
The commands of the program: the references of a formula, and a trace through a workbook.
-/
namespace FormulaTrace

open Text

namespace Node

mutual

def document : Node → Except Failure Document
  | cell address value numberFormat formula children => do
    let value ← value.document
    let children ← documents children
    return .object [
      ("address", .string address),
      ("value", value),
      ("numberFormat", (numberFormat.map Document.string).getD .null),
      ("formula", (formula.map Document.string).getD .null),
      ("children", .array children)]

def documents : List Node → Except Failure (List Document)
  | [] => .ok []
  | node :: rest => do
    let first ← document node
    let others ← documents rest
    return first :: others

end

end Node

def Trace.document (trace : Trace) : Except Failure Document := do
  let root ← match trace.root with
    | some root => root.document
    | none => .ok .null
  let depth ← Value.integerText trace.maxDepth
  return .object [
    ("root", root),
    ("mode", .string trace.mode.name),
    ("maxDepth", .number depth),
    ("nodeCount", .number (toString trace.nodeCount)),
    ("edgeCount", .number (toString trace.edgeCount)),
    ("source", .string trace.origin.name),
    ("truncated", .bool trace.truncated),
    ("skippedSheets", .array (trace.skippedSheets.map Document.string))]

def Report.document (report : Report) : Except Failure Document := do
  let result ← match report.result with
    | some trace => trace.document
    | none => .ok .null
  return .object [
    ("status", .string report.status.name),
    ("message", .string report.message),
    ("text", (report.text.map Document.string).getD .null),
    ("result", result)]

namespace CommandLine

/-- What the program leaves behind. -/
structure Outcome where
  exitCode : Nat
  output : String
  /-- Nothing, where the wording is left to the help of the program. -/
  errors : Option String
  failure : Option Failure

inductive Command where
  | references (formula sheet : String)
  | trace (path cell mode : String) (depth : Int) (index json : Bool)

/-- An option as it was given: its name, and its value if it takes one. -/
structure Setting where
  name : String
  value : String

/-- The options of a command: those that take a value and those that do not. -/
structure Options where
  valued : List String
  flags : List String

/-- Sorts arguments into options and plain arguments, each kind in order; nothing, if an option is
unknown, lacks its value or is given one that it does not take. -/
def sortArguments (options : Options) : List String → Option (List Setting × List String)
  | [] => some ([], [])
  | argument :: rest =>
    if argument = "--" then some ([], rest)
    else if argument.toList.head? = some '-' ∧ argument ≠ "-" then
      let (name, value) := breakFirst '=' argument.toList
      let name := String.ofList name
      if name ∈ options.valued then
        match value with
        | some value =>
          (sortArguments options rest).map fun (settings, plain) =>
            (⟨name, String.ofList value⟩ :: settings, plain)
        | none =>
          match rest with
          | [] => none
          | value :: rest =>
            (sortArguments options rest).map fun (settings, plain) =>
              (⟨name, value⟩ :: settings, plain)
      else if name ∈ options.flags ∧ value.isNone then
        (sortArguments options rest).map fun (settings, plain) => (⟨name, ""⟩ :: settings, plain)
      else none
    else (sortArguments options rest).map fun (settings, plain) => (settings, argument :: plain)

def lastValue? (settings : List Setting) (name : String) : Option String :=
  (settings.reverse.find? fun setting => setting.name = name).map Setting.value

def switched (settings : List Setting) (on off : String) : Bool :=
  ((settings.reverse.find? fun setting => setting.name = on || setting.name = off).map
    fun setting => decide (setting.name = on)).getD false

def readReferences (arguments : List String) : Option Command := do
  let (settings, plain) ← sortArguments ⟨["--sheet"], []⟩ arguments
  match plain with
  | [formula] => return .references formula ((lastValue? settings "--sheet").getD "Sheet1")
  | _ => none

def readTrace (limits : Limits) (arguments : List String) : Option Command := do
  let (settings, plain) ←
    sortArguments ⟨["--mode", "--depth"], ["--index", "--no-index", "--json"]⟩ arguments
  let depth ←
    match lastValue? settings "--depth" with
    | some text => plainInteger? text.toList
    | none => some limits.defaultDepth
  match plain with
  | [path, cell] =>
    return .trace path cell ((lastValue? settings "--mode").getD "precedents") depth
      (switched settings "--index" "--no-index")
      (settings.any fun setting => setting.name = "--json")
  | _ => none

/-- Whether an argument before the command asks for more detail in the log. -/
def asksForDetail (argument : String) : Bool :=
  argument = "--verbose" ||
    match argument.toList with
    | '-' :: c :: rest => (c :: rest).all (· = 'v')
    | _ => false

def readCommand (limits : Limits) : List String → Option Command
  | [] => none
  | argument :: rest =>
    if asksForDetail argument then readCommand limits rest
    else
      let arguments := if argument = "--" then rest else argument :: rest
      match arguments with
      | "refs" :: arguments => readReferences arguments
      | "trace" :: arguments => readTrace limits arguments
      | _ => none

def referencesDocument (formula sheet : String) : Document := .object [
  ("references", .array ((Formula.references formula sheet).map fun area => .object [
    ("sheet", .string area.sheet),
    ("anchor", .string area.anchor),
    ("address", .string area.anchorAddress),
    ("cells", .number (toString area.cellCount))])),
  ("functions", .array ((Formula.functionNames formula).map Document.string))]

def ending (exitCode : Nat) (output errors : String) : Outcome :=
  ⟨exitCode, output, some errors, none⟩

def failed (failure : Failure) : Outcome := ⟨1, "", some "", some failure⟩

/-- Prints a report; it succeeds where there was a tree or no formula to follow. -/
def print (json : Bool) (report : Report) : Outcome :=
  let text := if report.text.getD "" = "" then report.message else report.text.getD ""
  let output := if json then report.document.map Document.spreadText else .ok text
  let exitCode := if report.status = .ok ∨ report.status = .noFormula then 0 else 1
  match output with
  | .ok output => ending exitCode (output ++ "\n") ""
  | .error failure => failed failure

def carryOut (shelf : Shelf) (configuration : Configuration) : Command → Outcome
  | .references formula sheet => ending 0 ((referencesDocument formula sheet).spreadText ++ "\n") ""
  | .trace path cell mode depth index json =>
    match shelf.openWorkbook path (if index then some defaultExpansion else none) with
    | .error (.source message _ _) => ending 1 "" ("❌  " ++ message ++ "\n")
    | .error failure => failed failure
    | .ok workbook =>
      let reading := Report.produce OpenWorkbook.source configuration.limits cell (some mode)
        (.int depth) none
      match (reading.run.run workbook).1 with
      | .ok report => print json report
      | .error failure => failed failure

def run (shelf : Shelf) (configuration : Configuration) (arguments : List String) : Outcome :=
  match readCommand configuration.limits arguments with
  | some command => carryOut shelf configuration command
  | none => ⟨2, "", none, none⟩

end CommandLine

end FormulaTrace
