import FormulaTrace.Workbook.Open

/-!
Files by path, and opening the workbooks among them.

A workbook is known by the extension of its file; only then the file is looked for.
-/
namespace FormulaTrace

open Text

inductive StoredFile where
  /-- Sheets with their formulas, and the same sheets with the results. -/
  | workbook (sheets values : List Sheet)
  | archive
  | other

/-- Files by their paths. -/
abbrev Shelf := List (String × StoredFile)

/-- A path without empty steps and steps that stay in place; an empty path is the current folder. -/
def plainPath (path : String) : String :=
  let text := path.toList
  let root := if text.head? = some '/' then ['/'] else []
  let steps := (splitAt '/' text).filter fun step => step ≠ [] ∧ step ≠ ['.']
  let plain := root ++ List.intercalate ['/'] steps
  if plain = [] then "." else String.ofList plain

/-- The extension of the last step of a path, with its point; points at its start do not count. -/
def extension (path : String) : String :=
  let step := ((splitAt '/' path.toList).getLastD []).dropWhile (· = '.')
  match breakLast '.' step with
  | (some _, after) => String.ofList (lower ('.' :: after))
  | (none, _) => ""

def workbookExtensions : List String := [".xlsx", ".xlsm", ".xltx", ".xltm"]

/-- A sheet as it is saved with the results of its formulas, none of which are known. -/
def Sheet.withoutResults (sheet : Sheet) : Sheet :=
  { sheet with
    contents := sheet.contents.map fun (place, content) =>
      (place, if content.value.formula?.isSome then { content with value := .blank } else content) }

def StoredFile.ofSheets (sheets : List Sheet) : StoredFile :=
  .workbook sheets (sheets.map Sheet.withoutResults)

namespace Shelf

def find? (shelf : Shelf) (path : String) : Option StoredFile := shelf.lookup (plainPath path)

def cannotOpen (path : String) (cause : Failure) : Failure :=
  cause.retold ("Could not open workbook " ++ path) none

def noContentTypes : Failure :=
  .missingKey "There is no item named '[Content_Types].xml' in the archive"

/-- Opens the workbook at a path; with a limit on expanded areas an index is built. -/
def openWorkbook (shelf : Shelf) (path : String) (indexLimit : Option Int) :
    Except Failure OpenWorkbook :=
  let plain := plainPath path
  if extension plain ∉ workbookExtensions then .error (.unsupportedFile (extension plain))
  else
    match shelf.lookup plain with
    | none => .error (cannotOpen plain (.noSuchFile plain))
    | some .other => .error .notAnArchive
    | some .archive => .error (cannotOpen plain noContentTypes)
    | some (.workbook sheets values) => .ok (OpenWorkbook.start sheets (some values) indexLimit)

end Shelf

end FormulaTrace
