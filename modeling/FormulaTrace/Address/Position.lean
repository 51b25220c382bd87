import FormulaTrace.Address.Column
import FormulaTrace.Text.Blank
import FormulaTrace.Text.Integer
import FormulaTrace.Text.WordCharacter

/-!
Positions of cells within a sheet: reading them from text such as `$B$3`, and writing them.

A cell token is one to three letters and a row of decimal digits; a dollar sign may stand before
each of the two.
-/
namespace FormulaTrace

open Text

inductive AddressError where
  | malformed (token : String)
  | outOfBounds (token : String)
  /-- The row has more digits than a number may have. -/
  | rowTooLong (digits : Nat)
  | noSuchColumn (number : Int)
  | negativeCell (col row : Int)
  /-- The first corner of an area lies behind the second. -/
  | unorderedCorners

namespace AddressError

def message : AddressError → String
  | malformed token => "Invalid cell reference: " ++ quotation token
  | outOfBounds token => "Cell reference out of bounds: " ++ quotation token
  | rowTooLong digits => tooLongMessage digits
  | noSuchColumn number => "Invalid column index " ++ toString number
  | negativeCell col row =>
    "Negative cell coordinates: col=" ++ toString col ++ " row=" ++ toString row
  | unorderedCorners => "AreaRef corners must be normalized (start <= end)"

end AddressError

/-- The grid ends at column `XFD`. -/
def maxColumns : Nat := 16384

def maxRows : Nat := 1048576

/-- A cell of a sheet, by column and row, both counted from zero. -/
structure Position where
  col : Nat
  row : Nat
deriving DecidableEq

/-- The two parts of a cell token, without dollar signs. -/
structure CellToken where
  letters : List Char
  digits : List Char
deriving DecidableEq

namespace CellToken

def dropDollar : List Char → List Char
  | '$' :: rest => rest
  | text => text

/-- Reads a cell token at the start of a text: as many letters and as many digits as there are. -/
def read (text : List Char) : Option (CellToken × List Char) :=
  let afterDollar := dropDollar text
  let letters := afterDollar.takeWhile isAsciiLetter
  let afterLetters := dropDollar (afterDollar.dropWhile isAsciiLetter)
  let digits := afterLetters.takeWhile isDecimalDigit
  if letters = [] ∨ 3 < letters.length ∨ digits = [] then none
  else some (⟨letters, digits⟩, afterLetters.dropWhile isDecimalDigit)

/-- Takes a whole text, which holds no dollar sign, as a cell token. -/
def ofPlain? (text : List Char) : Option CellToken :=
  let letters := text.takeWhile isAsciiLetter
  let digits := text.dropWhile isAsciiLetter
  if letters = [] ∨ 3 < letters.length ∨ digits = [] ∨ !digits.all isDecimalDigit then none
  else some ⟨letters, digits⟩

/-- The position that a token names; `shown` is the text to show when there is none. -/
def position (token : CellToken) (shown : String) : Except AddressError Position :=
  let column := columnNumber token.letters
  if maxDigits < token.digits.length then .error (.rowTooLong token.digits.length)
  else
    let row := digitsValue token.digits
    if column ≤ maxColumns ∧ 1 ≤ row ∧ row ≤ maxRows then .ok ⟨column - 1, row - 1⟩
    else .error (.outOfBounds shown)

end CellToken

/-- Reads a position from a text; dollar signs anywhere and white space at the ends do not
matter. -/
def Position.read (text : String) : Except AddressError Position :=
  match CellToken.ofPlain? (trim (text.toList.filter (· ≠ '$'))) with
  | some token => token.position text
  | none => .error (.malformed text)

/-- The text of a position, whatever its coordinates; columns before the first have no letters. -/
def addressText (col row : Int) : String :=
  String.ofList (columnLetters (col + 1).toNat) ++ toString (row + 1)

def namedAddress (col row : Int) : Except AddressError String :=
  if 1 ≤ col + 1 ∧ col + 1 ≤ lastNamedColumn then .ok (addressText col row)
  else .error (.noSuchColumn (col + 1))

theorem namedAddress_of_le {col : Nat} (row : Int) (h : col < lastNamedColumn) :
    namedAddress col row = .ok (addressText col row) := by
  have upper : (col : Int) + 1 ≤ lastNamedColumn := by omega
  have lower : (1 : Int) ≤ (col : Int) + 1 := by omega
  simp [namedAddress, lower, upper]

end FormulaTrace
