import FormulaTrace.Proofs.Number.Reading
import Mathlib.Algebra.Order.Group.Unbundled.Abs
import Mathlib.Data.Rat.Cast.Order
import Mathlib.Tactic.Linarith
import Mathlib.Tactic.Positivity

/-! Numbers rounded to multiples of a unit.
Fixed places and significant digits both round to the nearest multiple of a power of ten; they
differ in how the unit is chosen.  A carry into the next power of ten does not change the unit that
the rest of the digits belong to. -/
namespace FormulaTrace

/-- The multiple of a unit that is nearest to a number; of two equally near ones the even
multiple. -/
def RoundsTo (x unit y : ℚ) : Prop :=
  ∃ count : ℤ, y = count * unit ∧ |x - y| ≤ unit / 2 ∧ (|x - y| = unit / 2 → Even count)

/-- A number rounded to a count of significant digits, the first of which is that of the highest
power of ten in it. -/
def RoundsToDigits (count : Nat) (x y : ℚ) : Prop :=
  ∃ exponent : ℤ, 10 ^ exponent ≤ |x| ∧ |x| < 10 ^ (exponent + 1) ∧
    RoundsTo x (10 ^ (exponent + 1 - count)) y

variable {x unit y : ℚ}

theorem RoundsTo.neg (rounds : RoundsTo x unit y) : RoundsTo (-x) unit (-y) := by
  obtain ⟨count, rfl, near, even⟩ := rounds
  have same : |(-x) - -(count * unit)| = |x - count * unit| := by
    rw [← abs_neg]
    congr 1
    ring
  refine ⟨-count, by push_cast; ring, same ▸ near, fun half => ?_⟩
  rw [same] at half
  exact (even half).neg

theorem RoundsTo.scale (rounds : RoundsTo x unit y) {factor : ℚ} (positive : 0 < factor) :
    RoundsTo (x * factor) (unit * factor) (y * factor) := by
  obtain ⟨count, rfl, near, even⟩ := rounds
  have scaled : |x * factor - count * unit * factor| = |x - count * unit| * factor := by
    rw [← sub_mul, abs_mul, abs_of_pos positive]
  have halves : unit * factor / 2 = unit / 2 * factor := by ring
  refine ⟨count, by ring, ?_, fun half => ?_⟩
  · rw [scaled, halves]
    exact mul_le_mul_of_nonneg_right near positive.le
  · rw [scaled, halves] at half
    exact even (mul_right_cancel₀ positive.ne' half)

theorem RoundsToDigits.neg {count : Nat} (rounds : RoundsToDigits count x y) :
    RoundsToDigits count (-x) (-y) := by
  obtain ⟨exponent, lower, upper, rounds⟩ := rounds
  exact ⟨exponent, by rwa [abs_neg], by rwa [abs_neg], rounds.neg⟩

/-- Whole quotients are rounded to the nearest whole number, a half to the even one. -/
theorem divEven_rounds (num : Nat) {den : Nat} (positive : 0 < den) :
    RoundsTo (num / den : ℚ) 1 (divEven num den) := by
  have unit : (0 : ℚ) < den := by exact_mod_cast positive
  have parts : (den : ℚ) * (num / den : Nat) + (num % den : Nat) = num := by
    exact_mod_cast Nat.div_add_mod num den
  have less : ((num % den : Nat) : ℚ) < den := by exact_mod_cast Nat.mod_lt num positive
  have quotient : (num / den : ℚ) = (num / den : Nat) + (num % den : Nat) / den := by
    rw [← parts]
    field_simp
  refine ⟨(divEven num den : Nat), by push_cast; ring, ?_⟩
  unfold divEven
  dsimp only
  rw [quotient]
  generalize num / den = whole at *
  generalize num % den = rest at *
  have low : (0 : ℚ) ≤ rest / den := by positivity
  have high : (rest / den : ℚ) < 1 := by rwa [div_lt_one unit]
  have half : (rest / den : ℚ) = 1 / 2 ↔ 2 * rest = den := by
    rw [div_eq_div_iff unit.ne' (by norm_num)]
    constructor
    · intro same
      exact_mod_cast (by linarith : (2 : ℚ) * rest = den)
    · intro same
      rw [← same]
      push_cast
      ring
  have under : (rest / den : ℚ) < 1 / 2 ↔ 2 * rest < den := by
    rw [div_lt_div_iff₀ unit (by norm_num), one_mul, mul_comm]
    exact_mod_cast Iff.rfl
  generalize (rest / den : ℚ) = part at *
  rcases Nat.lt_trichotomy (2 * rest) den with down | tie | up
  · rw [if_pos down, add_sub_cancel_left, abs_of_nonneg low]
    have small := under.2 down
    exact ⟨small.le, fun same => absurd same small.ne⟩
  · rw [if_neg (by omega), if_neg (by omega), half.2 tie]
    rcases Nat.mod_two_eq_zero_or_one whole with even | odd
    · rw [even, Nat.add_zero, add_sub_cancel_left, abs_of_nonneg (by norm_num)]
      exact ⟨le_rfl, fun _ => by rw [Int.even_coe_nat, Nat.even_iff, even]⟩
    · have distance : |(whole + 1 / 2 : ℚ) - (whole + 1 : Nat)| = 1 / 2 := by
        push_cast
        rw [abs_of_neg (by linarith)]
        ring
      rw [odd, distance]
      exact ⟨le_rfl, fun _ => by rw [Int.even_coe_nat, Nat.even_iff]; omega⟩
  · rw [if_neg (by omega), if_pos up]
    have large : 1 / 2 < part := lt_of_le_of_ne
      (not_lt.1 fun small => absurd (under.1 small) (by omega)) fun same =>
        absurd (half.1 same.symm) (by omega)
    have distance : |(whole + part : ℚ) - (whole + 1 : Nat)| = 1 - part := by
      push_cast
      rw [abs_of_neg (by linarith)]
      ring
    rw [distance]
    exact ⟨by linarith, fun same => by linarith⟩

/-! ### Significant digits -/

theorem tenPow_cast (exponent : Nat) : (tenPow exponent : ℚ) = 10 ^ exponent := by
  show ((10 ^ exponent : Nat) : ℚ) = 10 ^ exponent
  push_cast
  rfl

theorem digitsOf_bounds {n : Nat} (positive : 0 < n) :
    10 ^ ((digitsOf n).length - 1) ≤ n ∧ n < 10 ^ (digitsOf n).length := by
  have filled : 0 < (digitsOf n).length := Nat.length_toDigits_pos
  refine ⟨?_, (Nat.length_toDigits_le_iff (by omega) filled).1 (Nat.le_refl _)⟩
  rcases Nat.eq_zero_or_pos ((digitsOf n).length - 1) with one | more
  · rw [one]
    exact positive
  · by_contra less
    have shorter := length_digitsOf_le more (Nat.lt_of_not_le less)
    omega

theorem decimalExponent_bounds {num den : Nat} (filled : 0 < num) (positive : 0 < den) :
    (10 : ℚ) ^ decimalExponent num den ≤ num / den ∧
    (num / den : ℚ) < 10 ^ (decimalExponent num den + 1) := by
  have unit : (0 : ℚ) < den := by exact_mod_cast positive
  have whole : (0 : ℚ) < num := by exact_mod_cast filled
  unfold decimalExponent
  split
  next least =>
    have quotient : 0 < num / den := Nat.div_pos least positive
    obtain ⟨lower, upper⟩ := digitsOf_bounds quotient
    have length : 0 < (digitsOf (num / den)).length := Nat.length_toDigits_pos
    generalize (digitsOf (num / den)).length = count at *
    have power : (count : Int) - 1 = (count - 1 : Nat) := by omega
    rw [show (count : Int) - 1 + 1 =
      count by ring, power, zpow_natCast, zpow_natCast, le_div_iff₀ unit, div_lt_iff₀ unit]
    constructor
    · exact_mod_cast (Nat.mul_le_mul_right den lower).trans (Nat.div_mul_le_self num den)
    · exact_mod_cast (Nat.div_lt_iff_lt_mul positive).1 upper
  next below =>
    -- The quotient lies between the next two reciprocals of whole numbers.
    have more : 2 ≤ (den + num - 1) / num := (Nat.le_div_iff_mul_le filled).2 (by omega)
    have lower := Nat.lt_mul_div_succ (den + num - 1) filled
    have upper := Nat.div_mul_le_self (den + num - 1) num
    obtain ⟨least, most⟩ := digitsOf_bounds (show 0 < (den + num - 1) / num - 1 by omega)
    have length : 0 < (digitsOf ((den + num - 1) / num - 1)).length := Nat.length_toDigits_pos
    generalize (digitsOf ((den + num - 1) / num - 1)).length = count at *
    obtain ⟨parts, sum⟩ : ∃ parts, (den + num - 1) / num = parts + 1 :=
      ⟨(den + num - 1) / num - 1, by omega⟩
    rw [sum] at lower upper least most
    rw [Nat.add_sub_cancel] at least most
    have outside : den ≤ (parts + 1) * num := by
      rw [Nat.mul_comm num, Nat.add_mul] at lower
      omega
    have inside : parts * num < den := by
      rw [Nat.add_mul] at upper
      omega
    have power : -(count : Int) + 1 = -(count - 1 : Nat) := by omega
    rw [power, zpow_neg, zpow_neg, zpow_natCast, zpow_natCast, inv_le_comm₀ (by positivity)
      (by positivity),
      lt_inv_comm₀ (by positivity) (by positivity), inv_div, div_le_iff₀ whole, lt_div_iff₀ whole]
    constructor
    · exact_mod_cast outside.trans (Nat.mul_le_mul_right num most)
    · exact_mod_cast (Nat.mul_le_mul_right num least).trans_lt inside

theorem zpow_eq_quotient {base : ℚ} (nonzero : base ≠ 0) (exponent : ℤ) :
    base ^ exponent = base ^ exponent.toNat / base ^ (-exponent).toNat := by
  rw [← zpow_natCast, ← zpow_natCast, ← zpow_sub₀ nonzero]
  congr 1
  omega

theorem divEven_tenPow (num : Nat) {den : Nat} (positive : 0 < den) (power : ℤ) :
    RoundsTo (num / den * 10 ^ (-power) : ℚ) 1
      (divEven (num * tenPow (-power).toNat) (den * tenPow power.toNat)) := by
  have ten : (10 : ℚ) ≠ 0 := by norm_num
  have least : 0 < tenPow power.toNat := Nat.pow_pos (by omega)
  have rounds := divEven_rounds (num * tenPow (-power).toNat) (Nat.mul_pos positive least)
  have quotient : ((num * tenPow (-power).toNat : Nat) / (den * tenPow power.toNat : Nat) : ℚ) =
      num / den * 10 ^ (-power) := by
    rw [zpow_eq_quotient ten, neg_neg, Nat.cast_mul, Nat.cast_mul, tenPow_cast, tenPow_cast,
      mul_div_mul_comm]
  rwa [quotient] at rounds

/-- Significant digits are as many as were asked for, and they are those of the rounded quotient. -/
theorem significant_rounds {num den count : Nat} (filled : 0 < num) (positive : 0 < den)
    (asked : 0 < count) :
    (10 ^ (count - 1) ≤ (significant count num den).1 ∧ (significant count num den).1 <
      10 ^ count) ∧ RoundsToDigits count (num / den)
        ((significant count num den).1 * 10 ^ ((significant count num den).2 + 1 - count)) := by
  have ten : (10 : ℚ) ≠ 0 := by norm_num
  obtain ⟨lower, upper⟩ := decimalExponent_bounds filled positive
  have size : |(num / den : ℚ)| = num / den := abs_of_nonneg (by positivity)
  unfold significant
  dsimp only
  generalize decimalExponent num den = exponent at *
  have rounds := divEven_tenPow num positive (exponent - count + 1)
  generalize divEven (num * tenPow (-(exponent - count + 1)).toNat)
    (den * tenPow (exponent - count + 1).toNat) = scaled at *
  have grid : exponent - count + 1 = exponent + 1 - count := by ring
  rw [grid] at rounds
  -- On the grid the quotient lies between two powers of ten, and so does the number that it is
  -- rounded to.
  have factor : (0 : ℚ) < 10 ^ (-(exponent + 1 - count)) := zpow_pos (by norm_num) _
  have least : (10 : ℚ) ^ (count - 1) ≤ num / den * 10 ^ (-(exponent + 1 - count)) := by
    have power : ((count - 1 : Nat) : ℤ) = exponent + -(exponent + 1 - count) := by omega
    rw [← zpow_natCast, power, zpow_add₀ ten]
    exact mul_le_mul_of_nonneg_right lower factor.le
  have most : num / den * 10 ^ (-(exponent + 1 - count)) < (10 : ℚ) ^ count := by
    have power : (count : ℤ) = exponent + 1 + -(exponent + 1 - count) := by ring
    rw [← zpow_natCast, power, zpow_add₀ ten, ← power]
    exact mul_lt_mul_of_pos_right upper factor
  have near : |num / den * 10 ^ (-(exponent + 1 - count)) - (scaled : ℚ)| ≤ 1 / 2 := by
    obtain ⟨_, _, near, _⟩ := rounds
    exact near
  obtain ⟨less, more⟩ := abs_le.1 near
  have floor : 10 ^ (count - 1) ≤ scaled := by
    have above : ((10 ^ (count - 1) : Nat) : ℚ) < (scaled + 1 : Nat) := by
      push_cast
      linarith
    exact Nat.lt_succ_iff.1 (by exact_mod_cast above)
  have ceiling : scaled ≤ 10 ^ count := by
    have below : (scaled : ℚ) < (10 ^ count + 1 : Nat) := by
      push_cast
      linarith
    exact Nat.lt_succ_iff.1 (by exact_mod_cast below)
  have digits : RoundsToDigits count (num / den) (scaled * 10 ^ (exponent + 1 - count)) := by
    have back := rounds.scale (zpow_pos (show (0 : ℚ) < 10 by norm_num) (exponent + 1 - count))
    rw [mul_assoc, ← zpow_add₀ ten, neg_add_cancel, zpow_zero, mul_one, one_mul] at back
    exact ⟨exponent, by rwa [size], by rwa [size], back⟩
  split
  next carry =>
    have next : ((tenPow (count - 1) : Nat) : ℚ) * 10 ^ (exponent + 1 + 1 - count) =
        scaled * 10 ^ (exponent + 1 - count) := by
      rw [carry, tenPow_cast, tenPow_cast, ← zpow_natCast, ← zpow_natCast, ← zpow_add₀ ten,
        ← zpow_add₀ ten]
      congr 1
      omega
    dsimp only
    rw [next]
    exact ⟨⟨Nat.le_refl _, Nat.pow_lt_pow_right (by omega) (by omega)⟩, digits⟩
  next noCarry => exact ⟨⟨floor, lt_of_le_of_ne ceiling noCarry⟩, digits⟩

theorem places_rounds (num : Nat) {den : Nat} (positive : 0 < den) (count : Nat) :
    RoundsTo (num / den) (1 / 10 ^ count) (divEven (num * tenPow count) den / 10 ^ count) := by
  have ten : (10 : ℚ) ^ count ≠ 0 := pow_ne_zero count (by norm_num)
  have rounds := (divEven_rounds (num * tenPow count) positive).scale
    (show (0 : ℚ) < 1 / 10 ^ count by positivity)
  have quotient : ((num * tenPow count : Nat) / den * (1 / 10 ^ count) : ℚ) = num / den := by
    rw [Nat.cast_mul, tenPow_cast]
    field_simp
  rwa [quotient, one_mul, mul_one_div] at rounds

/-! ### Texts -/

theorem length_digitsOf {n count : Nat} (filled : 0 < count) (least : 10 ^ (count - 1) ≤ n)
    (less : n < 10 ^ count) :
    (digitsOf n).length = count := by
  have positive : 0 < n := Nat.lt_of_lt_of_le (Nat.pow_pos (by omega)) least
  have most := length_digitsOf_le filled less
  have more := (Nat.pow_lt_pow_iff_right (by omega)).1
    (Nat.lt_of_le_of_lt least (digitsOf_bounds positive).2)
  omega

theorem areDigits_dropFinalZeros {n : Nat} (positive : 0 < n) :
    AreDigits (dropFinalZeros (digitsOf n)) := by
  refine ⟨fun none => ?_, fun c member =>
    (areDigits_digitsOf n).digits c (mem_of_mem_dropFinalZeros member)⟩
  obtain ⟨count, parts⟩ := exists_finalZeros (digitsOf n)
  have zero := digitsNumber_zeros count
  rw [none, List.nil_append] at parts
  rw [← parts, digitsNumber_digitsOf] at zero
  omega

theorem significant_text {num den count : Nat} {layout : DecimalLayout}
    (short : layout.pointZero = false) (filled : 0 < num) (positive : 0 < den) (asked : 0 < count) :
    ∃ y, RoundsToDigits count (num / den) y ∧
      unsignedValue? (layout.render (dropFinalZeros (digitsOf (significant count num den).1))
        (significant count num den).2) = some y ∧
      ',' ∉ layout.render (dropFinalZeros (digitsOf (significant count num den).1))
        (significant count num den).2 := by
  have ten : (10 : ℚ) ≠ 0 := by norm_num
  obtain ⟨⟨least, less⟩, rounds⟩ := significant_rounds filled positive asked
  generalize (significant count num den).1 = scaled at *
  generalize (significant count num den).2 = power at *
  have digits := areDigits_dropFinalZeros (Nat.lt_of_lt_of_le (Nat.pow_pos (by omega)) least)
  refine ⟨_, rounds, ?_, comma_notMem_render digits.digits power⟩
  have stripped := digitsNumber_dropFinalZeros [] (digitsOf scaled)
  rw [List.nil_append, List.nil_append, digitsNumber_digitsOf,
    length_digitsOf asked least less] at stripped
  have value : (digitsNumber (dropFinalZeros (digitsOf scaled)) *
      10 ^ (power + 1 - (dropFinalZeros (digitsOf scaled)).length) : ℚ) = scaled * 10 ^
        (power + 1 - count) := by
    rw [zpow_sub₀ ten, zpow_sub₀ ten, zpow_natCast, zpow_natCast, mul_div_left_comm, stripped,
      mul_div_left_comm]
  rw [unsignedValue?_render short digits, value]

end FormulaTrace
