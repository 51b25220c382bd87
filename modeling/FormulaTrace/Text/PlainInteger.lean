import FormulaTrace.Text.Break
import FormulaTrace.Text.Integer

/-!
Whole numbers as commands and requests spell them.

The digits are those of ASCII; single low lines may part them, and a fraction of zeros may follow.
White space around the number and a plus sign do not matter, and neither do zeros and low lines in
front of the first other digit or of the minus sign, or zeros behind the minus sign.
-/
namespace FormulaTrace.Text

def trimNumber (text : List Char) : List Char :=
  ((text.dropWhile isNumberBlank).reverse.dropWhile isNumberBlank).reverse

/-- The text behind a plus sign, which must not be followed by a minus sign. -/
def dropPlus? : List Char → Option (List Char)
  | '+' :: '-' :: _ => none
  | '+' :: rest => some rest
  | text => some text

/-- What a number starts with, zeros in front left aside. -/
def isNumberStart (c : Char) : Bool := c = '-' || (c.isDigit && c ≠ '0')

def isFiller (c : Char) : Bool := c = '0' || c = '_'

/-- The text without the zeros in front of a number; the last of them stays where no digit
follows. -/
def dropLeadingZeros? : List Char → Option (List Char)
  | [] => none
  | '0' :: rest =>
    let last := (rest.takeWhile isFiller).getLastD '0'
    match rest.dropWhile isFiller with
    | [] => some [last]
    | '.' :: fraction => some (last :: '.' :: fraction)
    | c :: more => if isNumberStart c then some (c :: more) else none
  | c :: rest => if isNumberStart c then some (c :: rest) else none

/-- The text without a point and the zeros behind it. -/
def dropZeroFraction (text : List Char) : List Char :=
  match breakFirst '.' text with
  | (whole, some fraction) => if fraction ≠ [] ∧ fraction.all (· = '0') then whole else text
  | (_, none) => text

/-- The text without its low lines, each of which must stand between two other characters. -/
def joinGroups? (text : List Char) : Option (List Char) :=
  let groups := splitAt '_' text
  if [] ∈ groups then none else some groups.flatten

def plainDigits? (digits : List Char) : Option Nat :=
  if digits ≠ [] ∧ digits.all Char.isDigit then some (digitsValue digits) else none

def plainInteger? (text : List Char) : Option Int := do
  let body ← dropPlus? (trimNumber text)
  let number ← joinGroups? (dropZeroFraction (← dropLeadingZeros? body))
  if maxDigits < number.length then none
  match number with
  | '-' :: digits => (plainDigits? digits).map fun n => -(n : Int)
  | digits => (plainDigits? digits).map Int.ofNat

end FormulaTrace.Text
