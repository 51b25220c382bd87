import FormulaTrace.Address.Position
import FormulaTrace.Text.Break
import FormulaTrace.Text.Enclosed
import FormulaTrace.Text.LowerCase

/-!
Sheet names in addresses: when a name is enclosed in quotes, and how an address is taken apart into
its sheet and the rest.
-/
namespace FormulaTrace

open Text

def isBareName : List Char → Bool
  | [] => false
  | c :: rest => isNameStart c && rest.all isNamePart

def dropFinalBreak (text : List Char) : List Char :=
  if text.getLast? = some '\n' then text.dropLast else text

/-- A name needs no quotes when it is a bare name and could not be taken for a cell; a line break at
its end is passed over. -/
def standsBare (name : List Char) : Bool :=
  let body := dropFinalBreak name
  isBareName body && (CellToken.ofPlain? body).isNone

def spellSheet (name : String) : String :=
  if standsBare name.toList then name else String.ofList (enclose '\'' name.toList)

def qualify (sheet address : String) : String := spellSheet sheet ++ "!" ++ address

/-- Sheet names are compared without the white space at their ends and without regard to case. -/
def sheetKey (name : String) : String := String.ofList (lower (trim name.toList))

/-- The sheet named in an address, if there is one, and the rest.  A text that starts with a quote
has a sheet only if the quoted name is followed by an exclamation mark and the rest is a single
line; otherwise the last exclamation mark parts the two. -/
def separate (address : String) : Option String × String :=
  let text := trim address.toList
  match text with
  | '\'' :: rest =>
    match readEnclosed '\'' rest with
    | some (name, '!' :: after) =>
      if name ≠ [] ∧ '\n' ∉ after then (some (String.ofList name), String.ofList (trim after))
      else (none, String.ofList text)
    | _ => (none, String.ofList text)
  | _ =>
    match breakLast '!' text with
    | (some before, after) =>
      let name := trim before
      (if name = [] then none else some (String.ofList name), String.ofList (trim after))
    | (none, _) => (none, String.ofList text)

end FormulaTrace
