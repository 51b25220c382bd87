/-!
Floating-point numbers of 64 bits as exact values, and rounding to the nearest of them.

A finite number is a sign, a mantissa and an exponent of two.  Rounding takes the nearest mantissa,
of two equally near ones the even one.
-/
namespace FormulaTrace

inductive Binary64 where
  | nan
  | infinite (negative : Bool)
  /-- The number `± mantissa * 2 ^ exponent`. -/
  | finite (negative : Bool) (mantissa : Nat) (exponent : Int)
deriving DecidableEq

def twoPow (exponent : Nat) : Nat := Nat.pow 2 exponent

def tenPow (exponent : Nat) : Nat := Nat.pow 10 exponent

theorem twoPow_pos (exponent : Nat) : 0 < twoPow exponent := Nat.pow_pos (by omega)

/-- The quotient rounded to the nearest whole number, a half to the even one. -/
def divEven (num den : Nat) : Nat :=
  let whole := num / den
  let twice := 2 * (num % den)
  if twice < den then whole
  else if den < twice then whole + 1
  else whole + whole % 2

theorem divEven_exact {den : Nat} (num : Nat) (h : 0 < den) : divEven (num * den) den = num := by
  simp [divEven, Nat.mul_div_cancel _ h, h]

namespace Binary64

def minExponent : Int := -1074

def maxExponent : Int := 971

/-- Numerator and denominator of `mantissa * 2 ^ exponent`. -/
def ratio (mantissa : Nat) (exponent : Int) : Nat × Nat :=
  (mantissa * twoPow exponent.toNat, twoPow (-exponent).toNat)

def reaches (num den : Nat) (exponent : Int) : Bool :=
  den * twoPow exponent.toNat ≤ num * twoPow (-exponent).toNat

def binaryExponent (num den : Nat) : Int :=
  let guess : Int := (num.log2 : Int) - den.log2
  if reaches num den guess then guess else guess - 1

/-- The mantissa and exponent nearest to a quotient, unless it lies beyond the largest number. -/
def nearest (num den : Nat) : Option (Nat × Int) :=
  if num = 0 then some (0, minExponent)
  else
    let exponent := max (binaryExponent num den - 52) minExponent
    let mantissa := divEven (num * twoPow (-exponent).toNat) (den * twoPow exponent.toNat)
    let (mantissa, exponent) :=
      if mantissa = twoPow 53 then (twoPow 52, exponent + 1) else (mantissa, exponent)
    if maxExponent < exponent then none else some (mantissa, exponent)

/-- The number nearest to a quotient; beyond the largest number it is infinite. -/
def ofRatio (negative : Bool) (num den : Nat) : Binary64 :=
  match nearest num den with
  | some (mantissa, exponent) => .finite negative mantissa exponent
  | none => .infinite negative

def ofInt? (n : Int) : Option Binary64 :=
  (nearest n.natAbs 1).map fun (mantissa, exponent) => .finite (n < 0) mantissa exponent

/-- The product with a whole number, rounded to the nearest number. -/
def times (factor : Nat) : Binary64 → Binary64
  | nan => nan
  | infinite negative => if factor = 0 then nan else infinite negative
  | finite negative mantissa exponent =>
    let (num, den) := ratio mantissa exponent
    ofRatio negative (num * factor) den

def isNegative : Binary64 → Bool
  | nan => false
  | infinite negative => negative
  | finite negative mantissa _ => negative && mantissa ≠ 0

def abs : Binary64 → Binary64
  | nan => nan
  | infinite _ => infinite false
  | finite _ mantissa exponent => finite false mantissa exponent

def isWhole : Binary64 → Bool
  | finite _ mantissa exponent =>
    let (num, den) := ratio mantissa exponent
    num % den = 0
  | _ => false

/-- The whole number next to a finite number on the side of zero. -/
def truncate (negative : Bool) (mantissa : Nat) (exponent : Int) : Int :=
  let (num, den) := ratio mantissa exponent
  if negative then -((num / den : Nat) : Int) else ((num / den : Nat) : Int)

def magnitudeReaches (bound : Nat × Nat) : Binary64 → Bool
  | nan => false
  | infinite _ => true
  | finite _ mantissa exponent =>
    let (num, den) := ratio mantissa exponent
    bound.1 * den ≤ num * bound.2

end Binary64

end FormulaTrace
