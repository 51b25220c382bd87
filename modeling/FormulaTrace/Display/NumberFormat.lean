import FormulaTrace.Number.Decimal
import FormulaTrace.Text.Blank
import FormulaTrace.Text.Break
import FormulaTrace.Text.Occurrence

/-!
Numbers as a reader sees them: in the general style, or under a number format.

Of a number format only the section for positive numbers counts.  It may ask for a percentage, for a
currency, for digits grouped by thousands or for a number of places, in this order of precedence.
-/
namespace FormulaTrace

open Text

inductive DisplayError where
  | tooLarge

def DisplayError.message : DisplayError → String
  | tooLarge => "int too large to convert to float"

/-- A number in a cell. -/
inductive Numeric where
  | whole (n : Int)
  | real (x : Binary64)

namespace Numeric

def toBinary64 : Numeric → Except DisplayError Binary64
  | whole n =>
    match Binary64.ofInt? n with
    | some x => .ok x
    | none => .error .tooLarge
  | real x => .ok x

def isNegative : Numeric → Bool
  | whole n => n < 0
  | real x => x.isNegative

def abs : Numeric → Numeric
  | whole n => whole n.natAbs
  | real x => real x.abs

def times (factor : Nat) : Numeric → Numeric
  | whole n => whole (n * factor)
  | real x => real (x.times factor)

def fixed (style : FixedStyle) (n : Numeric) : Except DisplayError (List Char) :=
  n.toBinary64.map (Binary64.fixed style)

end Numeric

/-- A decimal text without the zeros at its end, and without a point that then ends it. -/
def dropFraction (text : List Char) : List Char :=
  ((dropFinalZeros text).reverse.dropWhile (· = '.')).reverse

/-- The floating-point number nearest to a hundredth, as a quotient. -/
def hundredth : Nat × Nat := (5764607523034235, twoPow 59)

/-- Whole numbers in full; others with at most two places from a hundred up, with at most four from
a hundredth up, and below with three significant digits. -/
def Binary64.generalText (x : Binary64) : List Char :=
  match x with
  | .finite negative mantissa exponent =>
    if x.isWhole then groupedInt (truncate negative mantissa exponent)
    else if x.magnitudeReaches (100, 1) then dropFraction (x.fixed ⟨true, 2⟩)
    else if x.magnitudeReaches hundredth then dropFraction (x.fixed ⟨true, 4⟩)
    else x.general 3
  | _ => x.general 3

def Numeric.generalText : Numeric → Except DisplayError (List Char)
  | whole n => (Numeric.whole n).toBinary64.map fun _ => groupedInt n
  | real x => .ok x.generalText

namespace NumberFormat

def positiveSection (format : String) : List Char := (breakFirst ';' format.toList).1

/-- The count of digit placeholders right behind the first point. -/
def places (body : List Char) : Nat :=
  match (breakFirst '.' body).2 with
  | some rest => (rest.takeWhile fun c => c = '0' || c = '#').length
  | none => 0

/-- The text of the first bracketed currency: what follows `[$` up to a bracket or a hyphen. -/
def bracketedCurrency? : List Char → Option (List Char)
  | '[' :: '$' :: rest =>
    let symbol := rest.takeWhile fun c => c ≠ ']' && c ≠ '-'
    if symbol = [] then bracketedCurrency? rest else some symbol
  | _ :: rest => bracketedCurrency? rest
  | [] => none

def bracketed : Rule Unit := fun _ text =>
  match text with
  | '[' :: '$' :: rest =>
    match rest.dropWhile (· ≠ ']') with
    | _ :: after => some ((), after)
    | [] => none
  | _ => none

/-- The currency signs that are known without brackets, the first found first. -/
def plainCurrencies : List String := ["$", "£", "€", "¥", "₹", "CHF", "kr"]

def holdsText (part : List Char) : List Char → Bool
  | [] => part.isEmpty
  | c :: rest => part.isPrefixOf (c :: rest) || holdsText part rest

def currency? (body : List Char) : Option (List Char) :=
  match (bracketedCurrency? body).map trim with
  | some (c :: rest) => some (c :: rest)
  | _ =>
    let plain := replaceOccurrences bracketed [] body
    (plainCurrencies.map String.toList).find? fun symbol => holdsText symbol plain

def parenthesize (inside : Bool) (text : List Char) : List Char :=
  if inside then '(' :: (text ++ [')']) else text

def render (format : String) (n : Numeric) : Except DisplayError (List Char) :=
  let body := positiveSection format
  let places := places body
  if body.contains '%' then
    let percent := n.times 100
    (percent.abs.fixed ⟨false, places⟩).map fun text =>
      parenthesize percent.isNegative (text ++ ['%'])
  else
    match currency? body with
    | some symbol =>
      (n.abs.fixed ⟨true, places⟩).map fun text => parenthesize n.isNegative (symbol ++ text)
    | none =>
      if body.contains ',' then n.fixed ⟨true, places⟩
      else if 0 < places then n.fixed ⟨false, places⟩
      else n.generalText

end NumberFormat

end FormulaTrace
