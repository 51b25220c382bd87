import FormulaTrace.Display.Cell
import FormulaTrace.Proofs.Number.Rounding
import Mathlib.Data.Nat.Cast.Field

/-! What the general style keeps of a number.
Whole numbers are written in full, and others are rounded to places or to significant digits; which
of these is decided by the number itself and not by what it is rounded to, so that a carry cannot
change it.  Zeros are taken off behind the point only. -/
namespace FormulaTrace
open Text

namespace Binary64

def value? : Binary64 → Option ℚ
  | finite negative mantissa exponent =>
    some (if negative then -(mantissa * 2 ^ exponent : ℚ) else mantissa * 2 ^ exponent)
  | _ => none

theorem ratio_pos (mantissa : Nat) (exponent : Int) : 0 < (ratio mantissa exponent).2 :=
  twoPow_pos _

theorem ratio_value (mantissa : Nat) (exponent : Int) :
    ((ratio mantissa exponent).1 / (ratio mantissa exponent).2 : ℚ) = mantissa * 2 ^ exponent := by
  have cast (power : Nat) : (twoPow power : ℚ) = 2 ^ power := by
    show ((2 ^ power : Nat) : ℚ) = 2 ^ power
    push_cast
    rfl
  rw [zpow_eq_quotient (by norm_num), ratio]
  push_cast
  rw [cast, cast, mul_div_assoc]

theorem value?_finite (negative : Bool) (mantissa : Nat) (exponent : Int) :
    (finite negative mantissa exponent).value? =
      some (if negative then -((ratio mantissa exponent).1 / (ratio mantissa exponent).2 : ℚ)
        else (ratio mantissa exponent).1 / (ratio mantissa exponent).2) := by
  rw [ratio_value, value?]

end Binary64

namespace Numeric

/-- The number that is shown for a number in a cell; whole numbers are shown by way of a
floating-point number. -/
def value? : Numeric → Option ℚ
  | whole n => (Binary64.ofInt? n).map fun _ => (n : ℚ)
  | real x => x.value?

def inCell : Numeric → Value
  | whole n => .int n
  | real x => .real x

end Numeric

def hundredthValue : ℚ := hundredth.1 / hundredth.2

/-- What the general style may make of a number. -/
structure GeneralRounding (x y : ℚ) : Prop where
  whole : (∃ n : ℤ, x = n) → y = x
  hundreds : (¬ ∃ n : ℤ, x = n) → 100 ≤ |x| → RoundsTo x (1 / 10 ^ 2) y
  middle : (¬ ∃ n : ℤ, x = n) → hundredthValue ≤ |x| → |x| < 100 → RoundsTo x (1 / 10 ^ 4) y
  small : (¬ ∃ n : ℤ, x = n) → |x| < hundredthValue → RoundsToDigits 3 x y

theorem GeneralRounding.whole_self (n : ℤ) : GeneralRounding n n :=
  have none : ¬ ¬ ∃ m : ℤ, (n : ℚ) = m := not_not.2 ⟨n, rfl⟩
  ⟨fun _ => rfl, fun part => absurd part none, fun part => absurd part none, fun part =>
    absurd part none⟩

/-! ### Texts -/

theorem decimalValue?_groupedInt (n : Int) :
    decimalValue? ((groupedInt n).filter (· ≠ ',')) = some (n : ℚ) := by
  have digits := areDigits_digitsOf n.natAbs
  have none : ∀ c ∈ ([] : List Char), c.isDigit = true := nofun
  have plain := filter_grouped digits.digits none
  have read := unsignedValue?_pointed digits none
  have bare : pointed [] = [] := rfl
  rw [bare, List.append_nil, List.append_nil] at plain
  rw [bare, List.append_nil, digitsNumber_digitsOf, List.length_nil, pow_zero, div_one] at read
  have text : groupedInt n = signed (decide (n < 0)) (groupThousands (digitsOf n.natAbs)) := by
    simp [groupedInt, signed]
  rw [text, filter_signed, plain, decimalValue?_signed read]
  have size : ((n.natAbs : ℕ) : ℚ) = |(n : ℚ)| := by rw [Nat.cast_natAbs, Int.cast_abs]
  rw [size]
  by_cases negative : n < 0
  · rw [if_pos (decide_eq_true negative), abs_of_neg (by exact_mod_cast negative), neg_neg]
  · rw [if_neg (by simpa using negative), abs_of_nonneg (by exact_mod_cast not_lt.1 negative)]

theorem fixed_finite (negative : Bool) (mantissa : Nat) (exponent : Int) (style : FixedStyle) :
    (Binary64.finite negative mantissa exponent).fixed style =
      signed negative (style.render (Binary64.ratio mantissa exponent).1
        (Binary64.ratio mantissa exponent).2) := rfl

/-- A text with places denotes the rounded number, also without the zeros at its end; these are
taken from behind the point. -/
theorem dropFraction_fixed {count : Nat} (filled : 0 < count) (negative : Bool) (mantissa : Nat)
    (exponent : Int) {x : ℚ}
    (value : (Binary64.finite negative mantissa exponent).value? = some x) :
    ∃ y, RoundsTo x (1 / 10 ^ count) y ∧
      decimalValue?
        ((dropFraction ((Binary64.finite negative mantissa exponent).fixed ⟨true, count⟩)).filter
        (· ≠ ',')) = some y ∧
      (breakFirst '.' (dropFraction
        ((Binary64.finite negative mantissa exponent).fixed ⟨true, count⟩))).1 =
        (breakFirst '.' ((Binary64.finite negative mantissa exponent).fixed ⟨true, count⟩)).1 := by
  rw [Binary64.value?_finite, Option.some.injEq] at value
  rw [fixed_finite]
  have positive := Binary64.ratio_pos mantissa exponent
  generalize (Binary64.ratio mantissa exponent).1 = num at *
  generalize (Binary64.ratio mantissa exponent).2 = den at *
  have rounds := places_rounds num positive count
  obtain ⟨whole, places, digits, others, width, number, text⟩ := render_parts filled num den
  have stripped : ∀ c ∈ dropFinalZeros places, c.isDigit = true :=
    fun c member => others c (mem_of_mem_dropFinalZeros member)
  have front : '.' ∉ signed negative (groupThousands whole) := by
    have free := notMem_groupThousands (by decide)
      (notMem_of_areDigits digits.digits (by decide : '.'.isDigit = false))
    cases negative <;> simp [signed, free]
  have read := unsignedValue?_pointed digits stripped
  rw [digitsNumber_dropFinalZeros, width, number] at read
  rw [text, signed_append, dropFraction_point front others, ← signed_append, filter_signed,
    filter_grouped digits.digits stripped, decimalValue?_signed read, signed_append,
      (breakFirst_pointed front _).1,
    breakFirst_append _ front]
  refine ⟨_, ?_, rfl, rfl⟩
  rw [← value]
  cases negative with
  | false => exact rounds
  | true => exact rounds.neg

theorem general_rounds {negative : Bool} {mantissa : Nat} (nonzero : mantissa ≠ 0) (exponent : Int)
    {count : Nat} (asked : 0 < count) {x : ℚ}
    (value : (Binary64.finite negative mantissa exponent).value? = some x) :
    ∃ y, RoundsToDigits count x y ∧
      decimalValue? (((Binary64.finite negative mantissa exponent).general count).filter
        (· ≠ ',')) = some y := by
  rw [Binary64.value?_finite, Option.some.injEq] at value
  have filled : 0 < (Binary64.ratio mantissa exponent).1 :=
    Nat.mul_pos (Nat.pos_of_ne_zero nonzero) (twoPow_pos _)
  have positive := Binary64.ratio_pos mantissa exponent
  unfold Binary64.general
  dsimp only
  rw [if_neg nonzero]
  generalize (Binary64.ratio mantissa exponent).1 = num at *
  generalize (Binary64.ratio mantissa exponent).2 = den at *
  have short : (DecimalLayout.mk (-4) count false).pointZero = false := rfl
  obtain ⟨y, rounds, read, comma⟩ := significant_text short filled positive asked
  refine ⟨if negative then -y else y, ?_, ?_⟩
  · rw [← value]
    cases negative with
    | false => exact rounds
    | true => exact rounds.neg
  · exact (congrArg decimalValue?
      ((filter_signed negative _).trans (congrArg (signed negative) (filter_comma comma)))).trans
      (decimalValue?_signed read negative)

/-! ### The general style -/

namespace Binary64

variable {negative : Bool} {mantissa : Nat} {exponent : Int} {x : ℚ}

theorem magnitude_eq (value : (finite negative mantissa exponent).value? = some x) :
    |x| = (ratio mantissa exponent).1 / (ratio mantissa exponent).2 := by
  rw [value?_finite, Option.some.injEq] at value
  have nonneg : (0 : ℚ) ≤ (ratio mantissa exponent).1 / (ratio mantissa exponent).2 := by positivity
  rw [← value]
  split
  · rw [abs_neg, abs_of_nonneg nonneg]
  · exact abs_of_nonneg nonneg

theorem magnitudeReaches_iff (value : (finite negative mantissa exponent).value? = some x)
    {bound : Nat × Nat} (positive : 0 < bound.2) :
    (finite negative mantissa exponent).magnitudeReaches bound = true ↔
      (bound.1 / bound.2 : ℚ) ≤ |x| := by
  have unit : (0 : ℚ) < bound.2 := by exact_mod_cast positive
  have den : (0 : ℚ) < (ratio mantissa exponent).2 := by exact_mod_cast ratio_pos mantissa exponent
  rw [magnitude_eq value, div_le_div_iff₀ unit den]
  unfold magnitudeReaches
  rw [decide_eq_true_eq]
  exact_mod_cast Iff.rfl

theorem exact_quotient {num den : Nat} (positive : 0 < den) (exact : num % den = 0) :
    ((num / den : Nat) : ℚ) = num / den :=
  Nat.cast_div (Nat.dvd_of_mod_eq_zero exact) (by exact_mod_cast positive.ne')

theorem isWhole_iff (value : (finite negative mantissa exponent).value? = some x) :
    (finite negative mantissa exponent).isWhole = true ↔ ∃ n : ℤ, x = n := by
  have size := magnitude_eq value
  have positive := ratio_pos mantissa exponent
  rw [value?_finite, Option.some.injEq] at value
  unfold isWhole
  dsimp only
  rw [decide_eq_true_eq]
  generalize (ratio mantissa exponent).1 = num at *
  generalize (ratio mantissa exponent).2 = den at *
  constructor
  · intro exact
    rw [← exact_quotient positive exact] at value
    refine ⟨if negative then -(num / den : Nat) else (num / den : Nat), ?_⟩
    rw [← value]
    split <;> push_cast <;> rfl
  · rintro ⟨n, rfl⟩
    have unit : (den : ℚ) ≠ 0 := by exact_mod_cast positive.ne'
    rw [eq_div_iff unit, ← Int.cast_abs, ← Nat.cast_natAbs] at size
    have product : n.natAbs * den = num := by exact_mod_cast size
    rw [← product, Nat.mul_mod_left]

theorem truncate_eq (value : (finite negative mantissa exponent).value? = some x)
    (whole : (finite negative mantissa exponent).isWhole = true) :
    (truncate negative mantissa exponent : ℚ) = x := by
  have positive := ratio_pos mantissa exponent
  rw [value?_finite, Option.some.injEq] at value
  unfold isWhole at whole
  dsimp only at whole
  rw [decide_eq_true_eq] at whole
  rw [← value, ← exact_quotient positive whole]
  unfold truncate
  dsimp only
  split <;> push_cast <;> rfl

end Binary64

theorem hundredthValue_lt : hundredthValue < 100 := by
  unfold hundredthValue hundredth
  norm_num [twoPow]

theorem Binary64.generalText_rounds (negative : Bool) (mantissa : Nat) (exponent : Int) {x : ℚ}
    (value : (Binary64.finite negative mantissa exponent).value? = some x) :
    ∃ y, GeneralRounding x y ∧
      decimalValue? ((Binary64.finite negative mantissa exponent).generalText.filter (· ≠ ',')) =
        some y := by
  have whole := Binary64.isWhole_iff value
  have hundreds := Binary64.magnitudeReaches_iff value (show 0 < ((100, 1) : Nat × Nat).2 by decide)
  have middle := Binary64.magnitudeReaches_iff value (show 0 < hundredth.2 from twoPow_pos 59)
  rw [show (((100, 1) : Nat × Nat).1 / ((100, 1) : Nat × Nat).2 : ℚ) = 100 by norm_num] at hundreds
  unfold Binary64.generalText
  dsimp only
  split
  next exact =>
    rw [← Binary64.truncate_eq value exact]
    exact ⟨_, .whole_self _, decimalValue?_groupedInt _⟩
  next part =>
    have noWhole : ¬ ∃ n : ℤ, x = n := fun exact => part (whole.2 exact)
    split
    next large =>
      obtain ⟨y, rounds, read, -⟩ :=
        dropFraction_fixed (show 0 < 2 by decide) negative mantissa exponent value
      have least := hundreds.1 large
      exact ⟨y, ⟨fun exact => absurd exact noWhole, fun _ _ => rounds, fun _ _ less =>
        absurd least (not_le.2 less),
        fun _ less => absurd (hundredthValue_lt.trans_le least) (not_lt.2 less.le)⟩, read⟩
    next less =>
      have under : |x| < 100 := not_le.1 fun least => less (hundreds.2 least)
      split
      next medium =>
        obtain ⟨y, rounds, read, -⟩ :=
          dropFraction_fixed (show 0 < 4 by decide) negative mantissa exponent value
        exact ⟨y, ⟨fun exact => absurd exact noWhole, fun _ least => absurd least (not_le.2 under),
          fun _ _ _ => rounds, fun _ tiny => absurd (middle.1 medium) (not_le.2 tiny)⟩, read⟩
      next tiny =>
        have below : |x| < hundredthValue := not_le.1 fun least => tiny (middle.2 least)
        have nonzero : mantissa ≠ 0 := by
          rintro rfl
          exact part (by simp [Binary64.isWhole, Binary64.ratio])
        obtain ⟨y, rounds, read⟩ := general_rounds nonzero exponent (show 0 < 3 by decide) value
        exact ⟨y, ⟨fun exact => absurd exact noWhole, fun _ least => absurd least (not_le.2 under),
          fun _ least => absurd least (not_le.2 below), fun _ _ => rounds⟩, read⟩

theorem display_unformatted {format : Option String}
    (general : format = none ∨ format = some "" ∨ format = some generalFormat) (n : Numeric) :
    n.inCell.display format = (n.generalText.map String.ofList).mapError DisplayError.failure := by
  have asked : n.inCell.display format = n.shown format := by cases n <;> rfl
  rw [asked, Numeric.shown, Numeric.display.eq_def]
  obtain rfl | rfl | rfl := general
  · rfl
  · simp only [true_or, if_true]
  · simp only [or_true, if_true]

namespace Numeric

variable {n : Numeric} {x : ℚ}

theorem toBinary64_finite (value : n.value? = some x) :
    ∃ negative mantissa exponent, n.toBinary64 = .ok (.finite negative mantissa exponent) := by
  cases n with
  | whole n =>
    obtain ⟨double, known, -⟩ := Option.map_eq_some_iff.1 value
    obtain ⟨⟨mantissa, exponent⟩, -, rfl⟩ := Option.map_eq_some_iff.1 known
    exact ⟨decide (n < 0), mantissa, exponent, by simp only [toBinary64, known]⟩
  | real double =>
    cases double with
    | finite negative mantissa exponent => exact ⟨negative, mantissa, exponent, rfl⟩
    | infinite => cases value
    | nan => cases value

/-- A number in the general style denotes what it is rounded to. -/
theorem generalText_rounds (value : n.value? = some x) :
    ∃ text y, n.generalText = .ok text ∧ GeneralRounding x y ∧
      decimalValue? (text.filter (· ≠ ',')) = some y := by
  obtain ⟨negative, mantissa, exponent, double⟩ := toBinary64_finite value
  cases n with
  | whole n =>
    obtain ⟨_, -, rfl⟩ := Option.map_eq_some_iff.1 value
    refine ⟨groupedInt n, n, ?_, .whole_self n, decimalValue?_groupedInt n⟩
    simp only [generalText, double, Except.map]
  | real _ =>
    cases double
    obtain ⟨y, rounds, read⟩ := Binary64.generalText_rounds negative mantissa exponent value
    exact ⟨_, y, rfl, rounds, read⟩

theorem breakFirst_dropFraction (value : n.value? = some x) {places : Nat} (filled : 0 < places)
    {text : List Char} (shown : n.fixed ⟨true, places⟩ = .ok text) :
    (breakFirst '.' (dropFraction text)).1 = (breakFirst '.' text).1 := by
  obtain ⟨negative, mantissa, exponent, double⟩ := toBinary64_finite value
  rw [fixed, double] at shown
  cases shown
  obtain ⟨_, -, -, front⟩ :=
    dropFraction_fixed filled negative mantissa exponent
      (Binary64.value?_finite negative mantissa exponent)
  exact front

end Numeric

/-- A number in the general style, without its commas, denotes the number itself if it is whole, and
else what it is rounded to: to two places from a hundred on, to four from a hundredth on, and below
to three significant digits.  The zeros that are taken off a text with places all stand behind the
point. -/
theorem display_general_rounds {n : Numeric} {x : ℚ} (value : n.value? = some x)
    {format : Option String}
    (general : format = none ∨ format = some "" ∨ format = some generalFormat) :
    (∃ text y, n.inCell.display format = .ok text ∧ GeneralRounding x y ∧
      decimalValue? (text.toList.filter (· ≠ ',')) = some y) ∧
    ∀ places text, 0 < places → n.fixed ⟨true, places⟩ = .ok text →
      (breakFirst '.' (dropFraction text)).1 = (breakFirst '.' text).1 := by
  constructor
  · obtain ⟨text, y, shown, rounds, read⟩ := n.generalText_rounds value
    refine ⟨String.ofList text, y, ?_, rounds, ?_⟩
    · rw [display_unformatted general, shown]
      rfl
    · rw [String.toList_ofList, read]
  · exact fun _ _ filled shown => Numeric.breakFirst_dropFraction value filled shown

/-- A number just below a hundred is rounded to four places, up to a hundred, and keeps both zeros
of `100`. -/
theorem display_general_rounds_carried :
    (∃ text y, (Value.real (.finite false 7036872270282752 (-46))).display none = .ok text ∧
      GeneralRounding (3276799 / 32768) y ∧ decimalValue? (text.toList.filter (· ≠ ',')) = some y) ∧
    ∀ places text, 0 < places → (Binary64.finite false 7036872270282752 (-46)).fixed
      ⟨true, places⟩ = text → (breakFirst '.' (dropFraction text)).1 = (breakFirst '.' text).1 := by
  have value : (Numeric.real (.finite false 7036872270282752 (-46))).value? = some
      (3276799 / 32768) := by
    simp only [Numeric.value?, Binary64.value?]
    norm_num [zpow_neg]
  obtain ⟨shown, kept⟩ := display_general_rounds value (.inl rfl)
  exact ⟨shown, fun places text filled fixed => kept places text filled (congrArg Except.ok fixed)⟩

end FormulaTrace
