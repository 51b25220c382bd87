import FormulaTrace.Formula.Reference
import FormulaTrace.Proofs.Address.Token

/-! Written formulas.
A formula is a row of operands, each parted from what follows by a separator, and of openings:
groups and function calls.  The areas of a formula are those that its references name, read from
each reference on its own. -/
namespace FormulaTrace.Formula
open Text

def isSeparatorCharacter (c : Char) : Bool := c ∈ "+-*/^&,;<>=%) ".toList

/-- What parts an operand from the rest of a formula; not only spaces. -/
structure Separator where
  text : List Char
  legal : ∀ c ∈ text, isSeparatorCharacter c = true
  solid : ∃ c ∈ text, c ≠ ' '

structure BareName where
  text : List Char
  bare : isBareName text = true

/-- A sheet name that is written in quotes. -/
structure QuotedName where
  text : List Char
  text_ne_nil : text ≠ []
  noDoubleQuote : '"' ∉ text

/-- The name of another workbook, as it stands in brackets. -/
structure BookName where
  text : List Char
  text_ne_nil : text ≠ []
  noBracket : ']' ∉ text
  noDoubleQuote : '"' ∉ text

structure Digits where
  text : List Char
  decimal : ∀ c ∈ text, isDecimalDigit c = true
  text_ne_nil : text ≠ []

/-- How a reference is qualified.  A quoted name with a closing bracket in it names another
workbook. -/
inductive Qualification where
  | home
  | bare (sheet : BareName)
  | quoted (sheet : QuotedName)
  | book (file : BookName) (sheet : BareName)

namespace Qualification

def spell : Qualification → List Char
  | home => []
  | bare sheet => sheet.text ++ ['!']
  | quoted sheet => enclose '\'' sheet.text ++ ['!']
  | book file sheet => '[' :: (file.text ++ ']' :: (sheet.text ++ ['!']))

/-- The sheet meant in a formula of a sheet; none, if it belongs to another workbook. -/
def sheet? (owner : String) : Qualification → Option String
  | home => some owner
  | bare sheet => some (String.ofList sheet.text)
  | quoted sheet => if ']' ∈ sheet.text then none else some (String.ofList sheet.text)
  | book _ _ => none

end Qualification

/-- A cell, or two corners of a range. -/
structure WrittenPlace where
  start : WrittenCell
  stop : Option WrittenCell

def WrittenPlace.spell (place : WrittenPlace) : List Char :=
  place.start.text ++ match place.stop with
    | none => []
    | some stop => ':' :: stop.text

def WrittenPlace.area? (place : WrittenPlace) (sheet : String) : Option Area := do
  let first ← place.start.position?
  let second ← (place.stop.getD place.start).position?
  return .ofCorners sheet first.col first.row second.col second.row

inductive Operand where
  | reference (qualification : Qualification) (place : WrittenPlace)
  | literal (content : List Char)
  | number (whole : Digits) (fraction : Option Digits)

namespace Operand

def spell : Operand → List Char
  | reference qualification place => qualification.spell ++ place.spell
  | literal content => enclose '"' content
  | number whole fraction => whole.text ++ match fraction with
    | none => []
    | some fraction => '.' :: fraction.text

def area? (owner : String) : Operand → Option Area
  | reference qualification place => (qualification.sheet? owner).bind place.area?
  | literal _ => none
  | number _ _ => none

end Operand

/-- What stands behind the equals sign of a formula. -/
inductive Body where
  | done
  | last (final : Operand)
  | operand (first : Operand) (separator : Separator) (rest : Body)
  | call (function : BareName) (rest : Body)
  | group (rest : Body)

namespace Body

def spell : Body → List Char
  | done => []
  | last final => final.spell
  | operand first separator rest => first.spell ++ (separator.text ++ rest.spell)
  | call function rest => function.text ++ '(' :: rest.spell
  | group rest => '(' :: rest.spell

def operands : Body → List Operand
  | done => []
  | last final => [final]
  | operand first _ rest => first :: rest.operands
  | call _ rest => rest.operands
  | group rest => rest.operands

def formula (body : Body) : String := String.ofList ('=' :: body.spell)

/-- The areas that the references of the formula name, in its order. -/
def areas (body : Body) (owner : String) : List Area :=
  body.operands.filterMap (Operand.area? owner)

end Body

end FormulaTrace.Formula
