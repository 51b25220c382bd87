import FormulaTrace.Number.Binary64

/-!
Decimal text of exact quotients: with a fixed number of places, and from digits and an exponent of
ten.
-/
namespace FormulaTrace

def digitsOf (n : Nat) : List Char := Nat.toDigits 10 n

/-- The whole number that ASCII digits denote. -/
def ofDigits? (digits : List Char) : Option Nat :=
  if digits ≠ [] ∧ digits.all Char.isDigit then some (Nat.ofDigitChars 10 digits 0) else none

def padZeros (width : Nat) (digits : List Char) : List Char :=
  List.replicate (width - digits.length) '0' ++ digits

/-- Digits with a comma before every full group of three. -/
def groupThousands : List Char → List Char
  | [] => []
  | c :: rest =>
    if rest ≠ [] ∧ rest.length % 3 = 0 then c :: ',' :: groupThousands rest
    else c :: groupThousands rest

theorem groupThousands_filter {digits : List Char} (h : ',' ∉ digits) :
    (groupThousands digits).filter (· ≠ ',') = digits := by
  induction digits with
  | nil => rfl
  | cons c rest ih =>
    simp only [List.mem_cons, not_or] at h
    have other : c ≠ ',' := Ne.symm h.1
    have ih' : List.filter (fun x => !decide (x = ',')) (groupThousands rest) = rest := by
      simpa using ih h.2
    simp only [groupThousands]
    split <;> simp [other, ih']

/-- Whether the digits before the point are grouped by thousands, and how many digits follow it. -/
structure FixedStyle where
  grouped : Bool
  places : Nat

/-- A quotient with a fixed number of places; a half goes to the even digit. -/
def FixedStyle.render (style : FixedStyle) (num den : Nat) : List Char :=
  let scaled := divEven (num * tenPow style.places) den
  let whole := digitsOf (scaled / tenPow style.places)
  let shown := if style.grouped then groupThousands whole else whole
  if style.places = 0 then shown
  else shown ++ '.' :: padZeros style.places (digitsOf (scaled % tenPow style.places))

/-- The text of a number with a fixed number of places; the sign of zero is kept. -/
def Binary64.fixed (style : FixedStyle) : Binary64 → List Char
  | .nan => "nan".toList
  | .infinite negative => if negative then "-inf".toList else "inf".toList
  | .finite negative mantissa exponent =>
    let (num, den) := ratio mantissa exponent
    let shown := style.render num den
    if negative then '-' :: shown else shown

def groupedInt (n : Int) : List Char :=
  let shown := groupThousands (digitsOf n.natAbs)
  if n < 0 then '-' :: shown else shown

/-- The exponent of the highest power of ten that a quotient above zero reaches. -/
def decimalExponent (num den : Nat) : Int :=
  if den ≤ num then ((digitsOf (num / den)).length : Int) - 1
  else -((digitsOf ((den + num - 1) / num - 1)).length : Int)

/-- How digits and an exponent of ten are laid out. -/
structure DecimalLayout where
  /-- The least exponent that is written with a point only. -/
  lowest : Int
  /-- The least exponent above these that is written out again. -/
  limit : Int
  /-- Whether a whole number ends in a point and a zero. -/
  pointZero : Bool

/-- A whole number of at least two digits with its sign. -/
def exponentText (exponent : Int) : List Char :=
  (if exponent < 0 then '-' else '+') :: padZeros 2 (digitsOf exponent.natAbs)

/-- The text of the digits `d₀ d₁ d₂ …`, read as `d₀.d₁d₂…` times a power of ten. -/
def DecimalLayout.render (layout : DecimalLayout) (digits : List Char) (exponent : Int) :
    List Char :=
  if layout.lowest ≤ exponent ∧ exponent < layout.limit then
    if exponent < 0 then
      '0' :: '.' :: (List.replicate (-exponent - 1).toNat '0' ++ digits)
    else
      let whole := digits.take (exponent + 1).toNat
      let zeros := List.replicate ((exponent + 1).toNat - whole.length) '0'
      let rest := digits.drop (exponent + 1).toNat
      whole ++ zeros ++
        (if rest = [] then (if layout.pointZero then ['.', '0'] else []) else '.' :: rest)
  else
    let mantissa :=
      match digits with
      | [] => []
      | [c] => [c]
      | c :: rest => c :: '.' :: rest
    mantissa ++ 'e' :: exponentText exponent

def dropFinalZeros (digits : List Char) : List Char := (digits.reverse.dropWhile (· = '0')).reverse

/-- The quotient rounded to a count of significant digits: the digits as one number, and the
exponent of ten of the first. -/
def significant (count num den : Nat) : Nat × Int :=
  let exponent := decimalExponent num den
  let unit : Int := exponent - count + 1
  let scaled := divEven (num * tenPow (-unit).toNat) (den * tenPow unit.toNat)
  if scaled = tenPow count then (tenPow (count - 1), exponent + 1) else (scaled, exponent)

/-- The text of a number with a count of significant digits, without zeros at the end. -/
def Binary64.general (count : Nat) : Binary64 → List Char
  | .nan => "nan".toList
  | .infinite negative => if negative then "-inf".toList else "inf".toList
  | .finite negative mantissa exponent =>
    let (num, den) := ratio mantissa exponent
    let shown :=
      if mantissa = 0 then ['0']
      else
        let (scaled, power) := significant count num den
        DecimalLayout.render ⟨-4, count, false⟩ (dropFinalZeros (digitsOf scaled)) power
    if negative then '-' :: shown else shown

end FormulaTrace
