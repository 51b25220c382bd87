import FormulaTrace.Text.Blank
import FormulaTrace.Text.DecimalDigit
import FormulaTrace.Text.Quotation

/-!
Whole numbers read from text.

White space may stand around the number and a sign before it; single low lines may part its digits.
The digits may come from any script, and there is a limit on how many they are.
-/
namespace FormulaTrace.Text

inductive IntegerError where
  | malformed (text : String)
  | tooLong (digits : Nat)

/-- The most digits a number may be written with. -/
def maxDigits : Nat := 4300

def limitMessage : String :=
  "Exceeds the limit (" ++ toString maxDigits ++ " digits) for integer string conversion"

def limitAdvice : String := "; use sys.set_int_max_str_digits() to increase the limit"

def tooLongMessage (digits : Nat) : String :=
  limitMessage ++ ": value has " ++ toString digits ++ " digits" ++ limitAdvice

/-- The text shown in the message is cut after two hundred characters. -/
def IntegerError.message : IntegerError → String
  | malformed text =>
    "invalid literal for int() with base 10: " ++ String.ofList ((quotation text).toList.take 200)
  | tooLong digits => tooLongMessage digits

/-- White space around a number: all but the four information separators. -/
def isNumberBlank (c : Char) : Bool := isBlank c && !(28 ≤ c.toNat && c.toNat ≤ 31)

/-- The digits of a row in which single low lines may stand between digits. -/
def joinDigits : List Char → Option (List Char)
  | [] => none
  | [c] => if isDecimalDigit c then some [c] else none
  | c :: '_' :: rest => if isDecimalDigit c then (joinDigits rest).map (c :: ·) else none
  | c :: d :: rest => if isDecimalDigit c then (joinDigits (d :: rest)).map (c :: ·) else none

def readSign : List Char → Bool × List Char
  | '-' :: rest => (true, rest)
  | '+' :: rest => (false, rest)
  | text => (false, text)

def readInteger (text : String) : Except IntegerError Int :=
  let (negative, body) := readSign (text.toList.dropWhile isNumberBlank)
  let row := body.takeWhile fun c => isDecimalDigit c || c = '_'
  match joinDigits row with
  | none => .error (.malformed text)
  | some digits =>
    if maxDigits < digits.length then .error (.tooLong digits.length)
    else if (body.drop row.length).all isNumberBlank then
      .ok (if negative then -(digitsValue digits : Int) else digitsValue digits)
    else .error (.malformed text)

/-- The text of a whole number, if it has no more digits than that. -/
def writeInteger (n : Int) : Except String String :=
  if n.natAbs < Nat.pow 10 maxDigits then .ok (toString n) else .error (limitMessage ++ limitAdvice)

end FormulaTrace.Text
