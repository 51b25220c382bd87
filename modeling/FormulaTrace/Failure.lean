import FormulaTrace.Address.Position
import FormulaTrace.Display.NumberFormat
import FormulaTrace.Text.Integer

/-!
What can go wrong while a workbook is read and traced.

The first four kinds belong to tracing itself; the others come from a source of cells, from a file
or from a value, and a trace passes them on as failures of the source.
-/
namespace FormulaTrace

open Text

inductive Failure where
  /-- A failure of tracing that is none of the next three. -/
  | general (message : String)
  /-- What is to be traced is not a single cell. -/
  | invalidInput (message : String)
  /-- A source of cells could not answer, perhaps about an address, perhaps because of another
  failure. -/
  | source (message : String) (address : Option String) (cause : Option Failure)
  | cancelled (message : String)
  | badValue (message : String)
  | wrongType (message : String)
  | overflow (message : String)
  | missingKey (key : String)
  | system (message : String)
  | noSuchFile (path : String)
  | internal (message : String)
  | notAnArchive
  | unsupportedFile (extension : String)
  | noSuchAttribute (kind name : String)
  /-- A failure without a message: to ask for it is another failure. -/
  | untold (failure instead : Failure)

namespace Failure

def unsupportedMessage (extension : String) : String :=
  if extension = ".xls" then
    "openpyxl does not support the old .xls file format, please use xlrd to read this file, or " ++
      "convert it to the more recent .xlsx file format."
  else if extension = ".xlsb" then
    "openpyxl does not support binary format .xlsb, please convert this file to .xlsx format if you " ++
      "want to open it with openpyxl"
  else
    "openpyxl does not support " ++ extension ++
      " file format, please check you can open it with " ++
      "Excel first. Supported formats are: .xlsx,.xlsm,.xltx,.xltm"

/-- The message of a failure, or what comes of asking for it. -/
def message : Failure → Except Failure String
  | general message => .ok message
  | invalidInput message => .ok message
  | source message _ _ => .ok message
  | cancelled message => .ok message
  | badValue message => .ok message
  | wrongType message => .ok message
  | overflow message => .ok message
  | missingKey key => .ok (quotation key)
  | system message => .ok message
  | noSuchFile path => .ok ("[Errno 2] No such file or directory: " ++ quotation path)
  | internal message => .ok message
  | notAnArchive => .ok "File is not a zip file"
  | unsupportedFile extension => .ok (unsupportedMessage extension)
  | noSuchAttribute kind name =>
    .ok (quotation kind ++ " object has no attribute " ++ quotation name)
  | untold _ instead => .error instead

/-- A failure as its kind is seen, with a message or without. -/
def bare : Failure → Failure
  | untold failure _ => failure.bare
  | failure => failure

/-- Whether a failure is one of tracing itself. -/
def ofTracing (failure : Failure) : Bool :=
  match failure.bare with
  | general _ | invalidInput _ | source _ _ _ | cancelled _ => true
  | _ => false

/-- A failure told as one of the source, unless it has no message to tell. -/
def retold (failure : Failure) (what : String) (address : Option String) : Failure :=
  match failure.message with
  | .ok message => .source (what ++ ": " ++ message) address (some failure)
  | .error instead => instead

end Failure

def AddressError.failure (error : AddressError) : Failure := .badValue error.message

def Text.IntegerError.failure (error : IntegerError) : Failure := .badValue error.message

def DisplayError.failure (error : DisplayError) : Failure := .overflow error.message

end FormulaTrace
