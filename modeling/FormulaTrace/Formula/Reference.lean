import FormulaTrace.Address.Reading
import FormulaTrace.Distinct
import FormulaTrace.Formula.Literal

/-!
The areas that a formula refers to.

A mention is a cell token or two of them joined by a colon, with an optional qualifier in front: a
bare or quoted sheet name and an exclamation mark.  A qualifier may name another workbook, in
brackets; such mentions are read as a whole and refer to nothing here.  A mention must not touch a
word, so that names which end in digits are no mentions.
-/
namespace FormulaTrace.Formula

open Text

/-- What a mention says about its sheet. -/
inductive Qualifier where
  | home
  | sheet (name : String)
  | external

structure Mention where
  qualifier : Qualifier
  start : CellToken
  stop : Option CellToken

def readBareName : List Char → Option (List Char × List Char)
  | [] => none
  | c :: rest =>
    if isNameStart c then some (c :: rest.takeWhile isNamePart, rest.dropWhile isNamePart) else none

/-- Reads the qualifier of a mention; a text that starts like a quoted or a bracketed qualifier and
is none cannot start a mention. -/
def readQualifier (text : List Char) : Option (Qualifier × List Char) :=
  match text with
  | '\'' :: rest =>
    match readEnclosed '\'' rest with
    | some (name, '!' :: after) =>
      if name = [] then none
      else some (if ']' ∈ name then .external else .sheet (String.ofList name), after)
    | _ => none
  | '[' :: rest =>
    match rest.dropWhile (· ≠ ']') with
    | ']' :: afterBook =>
      if rest.head? = some ']' then none
      else
        match readBareName afterBook with
        | some (_, '!' :: after) => some (.external, after)
        | _ => none
    | _ => none
  | _ =>
    match readBareName text with
    | some (name, '!' :: after) => some (.sheet (String.ofList name), after)
    | _ => some (.home, text)

def mayStart : Option Char → Bool
  | none => true
  | some c => !(isWordCharacter c || c = '.' || c = '$' || c = '!' || c = '\'' || c = ']')

def mayEnd : List Char → Bool
  | [] => true
  | c :: _ => !(isWordCharacter c || c = '.' || c = '(' || c = '!' || c = '\'' || c = '$')

/-- The second corner of a range, if a colon and a token follow and the mention may end there. -/
def readStop (text : List Char) : Option (CellToken × List Char) :=
  match text with
  | ':' :: rest =>
    match CellToken.read rest with
    | some (stop, after) => if mayEnd after then some (stop, after) else none
    | none => none
  | _ => none

def mention : Rule Mention := fun before text =>
  if mayStart before then
    match readQualifier text with
    | some (qualifier, place) =>
      match CellToken.read place with
      | some (start, after) =>
        match readStop after with
        | some (stop, rest) => some (⟨qualifier, start, some stop⟩, rest)
        | none => if mayEnd after then some (⟨qualifier, start, none⟩, after) else none
      | none => none
    | none => none
  else none

def Qualifier.sheet? (qualifier : Qualifier) (owner : String) : Option String :=
  match qualifier with
  | .home => some owner
  | .sheet name => some name
  | .external => none

/-- The area that a mention in a formula of a sheet refers to, if it lies within the grid. -/
def Mention.area? (mention : Mention) (owner : String) : Option Area := do
  let sheet ← mention.qualifier.sheet? owner
  let first ← (mention.start.position "").toOption
  let second ← ((mention.stop.getD mention.start).position "").toOption
  return .ofCorners sheet first.col first.row second.col second.row

/-- What makes two references the same: the sheet, as sheet names are compared, and the
rectangle. -/
def referenceKey (area : Area) : String × Int × Int × Int × Int :=
  (sheetKey area.sheet, area.left, area.top, area.right, area.bottom)

/-- The areas that a formula on a sheet refers to, each once, in the order of their first
mention. -/
def references (formula owner : String) : List Area :=
  firstsBy referenceKey
    ((occurrences mention (emptyLiterals formula.toList)).filterMap fun found => found.area? owner)

def anyContains (areas : List Area) (cell : Cell) : Bool := areas.any fun area => area.contains cell

def refersTo (formula owner address : String) : Bool :=
  match Cell.read? address owner with
  | some cell => anyContains (references formula owner) cell
  | none => false

end FormulaTrace.Formula

namespace FormulaTrace.Area

/-- The first cell of an area, without its sheet. -/
def anchor (area : Area) : String := addressText area.left area.top

def anchorAddress (area : Area) : String := qualify area.sheet area.anchor

end FormulaTrace.Area
