import FormulaTrace.Number.Decimal
import FormulaTrace.Text.Break

/-!
Dates and times of day.
-/
namespace FormulaTrace

open Text

structure Date where
  year : Nat
  month : Nat
  day : Nat
deriving DecidableEq

structure Clock where
  hour : Nat
  minute : Nat
  second : Nat
  microsecond : Nat
deriving DecidableEq

inductive Moment where
  | date (day : Date)
  | dateTime (day : Date) (clock : Clock)
  | time (clock : Clock)
deriving DecidableEq

def Date.text (day : Date) : List Char :=
  padZeros 4 (digitsOf day.year) ++ '-' :: padZeros 2 (digitsOf day.month) ++
    '-' :: padZeros 2 (digitsOf day.day)

/-- Hours, minutes and seconds; microseconds only where there are some. -/
def Clock.text (clock : Clock) : List Char :=
  padZeros 2 (digitsOf clock.hour) ++ ':' :: padZeros 2 (digitsOf clock.minute) ++
    ':' :: padZeros 2 (digitsOf clock.second) ++
    (if clock.microsecond = 0 then [] else '.' :: padZeros 6 (digitsOf clock.microsecond))

def Moment.text : Moment → String
  | date day => String.ofList day.text
  | dateTime day clock => String.ofList (day.text ++ ' ' :: clock.text)
  | time clock => String.ofList clock.text

/-- The number format that a cell takes on when a date or a time is written to it. -/
def Moment.numberFormat : Moment → String
  | date _ => "yyyy-mm-dd"
  | dateTime _ _ => "yyyy-mm-dd h:mm:ss"
  | time _ => "h:mm:ss"

def Date.ofText? (text : List Char) : Option Date := do
  match splitAt '-' text with
  | [year, month, day] =>
    return ⟨← ofDigits? year, ← ofDigits? month, ← ofDigits? day⟩
  | _ => none

def microseconds? : Option (List Char) → Option Nat
  | none => some 0
  | some digits => ofDigits? (digits.take 6 ++ List.replicate (6 - digits.length) '0')

def Clock.ofText? (text : List Char) : Option Clock := do
  match splitAt ':' text with
  | [hour, minute, seconds] =>
    let (second, fraction) := breakFirst '.' seconds
    return ⟨← ofDigits? hour, ← ofDigits? minute, ← ofDigits? second, ← microseconds? fraction⟩
  | _ => none

/-- Reads a day and a time of day with the letter `T` or a space between. -/
def Moment.dateTimeOfText? (text : List Char) : Option Moment := do
  let day ← Date.ofText? (text.take 10)
  let clock ← Clock.ofText? (text.drop 11)
  return .dateTime day clock

end FormulaTrace
