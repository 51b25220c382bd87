import FormulaTrace.Number.Decimal

/-!
The shortest decimal text that reads back to a number, and reading such text.

The digits are found on the decimal grids from coarse to fine: the first grid that has a point in
the interval of all values that round to the number gives the digits, the nearer of two points wins.
-/
namespace FormulaTrace.Binary64

/-- The values that round to a number, in quarters of `2 ^ exponent`: the two ends, and whether they
belong to it. -/
structure RoundingInterval where
  low : Nat
  high : Nat
  closed : Bool
  exponent : Int

def roundingInterval (mantissa : Nat) (exponent : Int) : RoundingInterval where
  low := if mantissa = twoPow 52 ∧ minExponent < exponent then 4 * mantissa - 1
    else 4 * mantissa - 2
  high := 4 * mantissa + 2
  closed := mantissa % 2 = 0
  exponent := exponent - 2

def RoundingInterval.holds (interval : RoundingInterval) (digits : Nat) (power : Int) : Bool :=
  let value := digits * tenPow power.toNat * twoPow (-interval.exponent).toNat
  let unit := twoPow interval.exponent.toNat * tenPow (-power).toNat
  if interval.closed then interval.low * unit ≤ value && value ≤ interval.high * unit
  else interval.low * unit < value && value < interval.high * unit

/-- The point of the grid `10 ^ power` that is nearest to a quotient, of those that lie in the
interval. -/
def gridPoint? (interval : RoundingInterval) (num den : Nat) (power : Int) : Option Nat :=
  let top := num * tenPow (-power).toNat
  let unit := den * tenPow power.toNat
  let below := top / unit
  let middle := (2 * below + 1) * unit
  match interval.holds below power, interval.holds (below + 1) power with
  | true, true =>
    if 2 * top < middle then some below
    else if middle < 2 * top then some (below + 1)
    else some (below + below % 2)
  | true, false => some below
  | false, true => some (below + 1)
  | false, false => none

/-- The fewest digits that read back to a number above zero, and the exponent of ten of the
first. -/
def shortestDigits (mantissa : Nat) (exponent : Int) : List Char × Int :=
  let (num, den) := ratio mantissa exponent
  let interval := roundingInterval mantissa exponent
  let top := decimalExponent num den
  let found := (List.range 17).findSome? fun (count : Nat) =>
    (gridPoint? interval num den (top - count)).map fun point => (point, top - (count : Int))
  let last := divEven (num * tenPow (16 - top).toNat) (den * tenPow (top - 16).toNat)
  let (point, power) := found.getD (last, top - 16)
  let digits := digitsOf point
  (dropFinalZeros digits, power + digits.length - 1)

/-- Numbers are written out with a point between `1e-4` and `1e16`. -/
def shortestLayout : DecimalLayout := ⟨-4, 16, true⟩

def text : Binary64 → String
  | nan => "nan"
  | infinite negative => if negative then "-inf" else "inf"
  | finite negative mantissa exponent =>
    let shown :=
      if mantissa = 0 then "0.0".toList
      else
        let (digits, power) := shortestDigits mantissa exponent
        shortestLayout.render digits power
    String.ofList (if negative then '-' :: shown else shown)

def signedNumber? : List Char → Option Int
  | '-' :: rest => (ofDigits? rest).map fun n => -(n : Int)
  | '+' :: rest => (ofDigits? rest).map Int.ofNat
  | rest => (ofDigits? rest).map Int.ofNat

/-- Reads a number without a sign: digits, perhaps a point and digits, perhaps an exponent of
ten. -/
def unsigned? (negative : Bool) (text : List Char) : Option Binary64 := do
  let mantissa := text.takeWhile (· ≠ 'e')
  let power ←
    match text.dropWhile (· ≠ 'e') with
    | [] => some 0
    | _ :: rest => signedNumber? rest
  let whole := mantissa.takeWhile (· ≠ '.')
  let places := (mantissa.dropWhile (· ≠ '.')).drop 1
  let digits ← ofDigits? (whole ++ places)
  let unit := power - places.length
  return ofRatio negative (digits * tenPow unit.toNat) (tenPow (-unit).toNat)

def ofText? (text : String) : Option Binary64 :=
  match text.toList with
  | ['n', 'a', 'n'] => some nan
  | ['i', 'n', 'f'] => some (infinite false)
  | ['-', 'i', 'n', 'f'] => some (infinite true)
  | '-' :: rest => unsigned? true rest
  | rest => unsigned? false rest

end FormulaTrace.Binary64
