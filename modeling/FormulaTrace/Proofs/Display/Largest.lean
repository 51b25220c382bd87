import FormulaTrace.Display.Cell
import FormulaTrace.Outcome
import Mathlib.Tactic.Ring

/-! The whole numbers that have no text.
A whole number is shown by way of the floating-point number nearest to it.  From half a unit above
the largest one on there is none. -/
namespace FormulaTrace

namespace Binary64

/-- The least whole number that is not rounded to a floating-point number. -/
def beyond : Nat := (2 ^ 54 - 1) * twoPow 970

theorem twoPow_add (one other : Nat) : twoPow (one + other) = twoPow one * twoPow other :=
  Nat.pow_add 2 one other

theorem twoPow_le {one other : Nat} (least : one ≤ other) : twoPow one ≤ twoPow other :=
  Nat.pow_le_pow_right (by omega) least

/-- Below the next unit a quotient is rounded up to it from half a unit on, where the unit before is
odd. -/
theorem divEven_eq_succ_iff {num half top : Nat} (positive : 0 < half) (odd : top % 2 = 1)
    (below : num < (top + 1) * (2 * half)) : divEven num (2 * half) = top + 1 ↔
      (2 * top + 1) * half ≤ num := by
  have parts := Nat.div_add_mod num (2 * half)
  have small := Nat.mod_lt num (show 0 < 2 * half by omega)
  have whole : num / (2 * half) < top + 1 := Nat.div_lt_of_lt_mul (by rwa [Nat.mul_comm])
  have shape : (2 * top + 1) * half = 2 * half * top + half := by ring
  unfold divEven
  dsimp only
  rw [shape]
  generalize num % (2 * half) = left at *
  rcases Nat.lt_or_ge (num / (2 * half)) top with under | here
  · have room : 2 * half * (num / (2 * half) + 1) ≤ 2 * half * top := Nat.mul_le_mul_left _ under
    rw [Nat.mul_add] at room
    have even : num / (2 * half) % 2 < 2 := Nat.mod_lt _ (by omega)
    generalize num / (2 * half) = unit at *
    split
    · omega
    · split <;> omega
  · have same : num / (2 * half) = top := by omega
    rw [same] at parts ⊢
    generalize 2 * half * top = base at *
    split
    · omega
    · split <;> omega

theorem binaryExponent_one {num : Nat} (positive : num ≠ 0) : binaryExponent num 1 = num.log2 := by
  have reached : reaches num 1 (num.log2 : Int) = true := by
    unfold reaches
    simpa [twoPow] using Nat.log2_self_le positive
  unfold binaryExponent
  rw [show (Nat.log2 1 : Int) = 0 from rfl, Int.sub_zero]
  dsimp only
  rw [if_pos reached]

/-- Where the mantissa of a whole number is rounded up to the next power of two the exponent is one
more. -/
theorem nearest_eq_none {num : Nat} (positive : num ≠ 0) {exponent : Int}
    (highest : (num.log2 : Int) - 52 = exponent) :
    nearest num 1 = none ↔
      maxExponent < if divEven (num * twoPow (-exponent).toNat)
        (twoPow exponent.toNat) = twoPow 53 then exponent + 1 else exponent := by
  have least : max ((num.log2 : Int) - 52) minExponent = exponent := by
    unfold minExponent
    omega
  unfold nearest
  rw [if_neg positive, binaryExponent_one positive]
  dsimp only
  rw [least, Nat.one_mul]
  generalize divEven (num * twoPow (-exponent).toNat) (twoPow exponent.toNat) = mantissa
  by_cases top : mantissa = twoPow 53 <;> simp [top]

theorem nearest_eq_none_iff (num : Nat) : nearest num 1 = none ↔ beyond ≤ num := by
  have unit := twoPow_pos 970
  have half := twoPow_add 53 970
  have whole := twoPow_add 54 970
  have upper := twoPow_add 1 970
  have values : twoPow 1 = 2 ∧ twoPow 53 = 2 ^ 53 ∧ twoPow 54 = 2 ^ 54 := ⟨rfl, rfl, rfl⟩
  rw [values.1] at upper
  rw [values.2.1] at half
  rw [values.2.2] at whole
  unfold beyond
  rcases Nat.eq_zero_or_pos num with rfl | positive
  · simp only [nearest, reduceIte, reduceCtorEq, false_iff]
    omega
  · have low : twoPow num.log2 ≤ num := Nat.log2_self_le positive.ne'
    have high : num < twoPow (num.log2 + 1) := Nat.lt_log2_self
    rw [nearest_eq_none positive.ne' rfl]
    unfold maxExponent
    rcases Nat.lt_trichotomy num.log2 1023 with less | same | more
    · have under := twoPow_le (show num.log2 + 1 ≤ 53 + 970 from less)
      split <;> omega
    · have below : num < (2 ^ 53 - 1 + 1) * (2 * twoPow 970) := by
        have last : twoPow (num.log2 + 1) = twoPow (54 + 970) :=
          congrArg (fun bits => twoPow (bits + 1)) same
        omega
      have rounded := divEven_eq_succ_iff unit (show (2 ^ 53 - 1) % 2 = 1 from rfl) below
      have scaled : num * twoPow (-((num.log2 : Int) - 52)).toNat = num := by
        rw [same]
        exact Nat.mul_one num
      have halved : twoPow ((num.log2 : Int) - 52).toNat = 2 * twoPow 970 := by
        rw [same]
        exact upper
      rw [scaled, halved]
      split <;> omega
    · have above := twoPow_le (show 54 + 970 ≤ num.log2 from more)
      split <;> omega

theorem ofInt?_eq_none_iff (n : Int) : ofInt? n = none ↔ beyond ≤ n.natAbs := by
  unfold ofInt?
  rw [Option.map_eq_none_iff, nearest_eq_none_iff]

end Binary64

open Text

def shownTimes : Option String → Nat
  | some format => if (NumberFormat.positiveSection format).contains '%' then 100 else 1
  | none => 1

/-- The value is a whole number that has no text under a number format. -/
def Value.Exceeds (value : Value) (format : Option String) : Prop :=
  ∃ n : Int, value = .int n ∧ Binary64.beyond ≤ n.natAbs * shownTimes format

namespace Numeric

theorem toBinary64_whole (n : Int) : (whole n).toBinary64 = .error .tooLarge ↔
    Binary64.beyond ≤ n.natAbs := by
  rw [← Binary64.ofInt?_eq_none_iff]
  unfold toBinary64
  dsimp only
  split
  next found => simp [found]
  next missing => simp [missing]

theorem toBinary64_abs (n : Numeric) :
    n.abs.toBinary64 = .error .tooLarge ↔ n.toBinary64 = .error .tooLarge := by
  cases n with
  | whole n => exact (toBinary64_whole _).trans (toBinary64_whole n).symm
  | real x => exact ⟨nofun, nofun⟩

theorem toBinary64_once (n : Numeric) : (n.times 1).toBinary64 = .error .tooLarge ↔
    n.toBinary64 = .error .tooLarge := by
  cases n with
  | whole n => rw [times, Nat.cast_one, Int.mul_one]
  | real x => exact ⟨nofun, nofun⟩

theorem fixed_eq_error (style : FixedStyle) (n : Numeric) :
    n.fixed style = .error .tooLarge ↔ n.toBinary64 = .error .tooLarge := Except.map_eq_error

theorem generalText_eq_error (n : Numeric) :
    n.generalText = .error .tooLarge ↔ n.toBinary64 = .error .tooLarge := by
  cases n with
  | whole n => exact Except.map_eq_error
  | real x => exact ⟨nofun, nofun⟩

theorem render_eq_error (format : String) (n : Numeric) :
    NumberFormat.render format n = .error .tooLarge ↔
    (n.times (shownTimes (some format))).toBinary64 = .error .tooLarge := by
  unfold NumberFormat.render shownTimes
  dsimp only
  split
  next percent => rw [Except.map_eq_error, fixed_eq_error, toBinary64_abs]
  next plain =>
    rw [toBinary64_once]
    split
    next symbol _ => rw [Except.map_eq_error, fixed_eq_error, toBinary64_abs]
    next =>
      split
      next => rw [fixed_eq_error]
      next =>
        split
        next => rw [fixed_eq_error]
        next => rw [generalText_eq_error]

theorem display_eq_error (n : Numeric) (format : Option String) :
    n.display format = .error .tooLarge ↔
      (n.times (shownTimes format)).toBinary64 = .error .tooLarge := by
  unfold display
  cases format with
  | none => exact (generalText_eq_error n).trans (toBinary64_once n).symm
  | some format =>
    dsimp only
    split
    next plain =>
      have once : shownTimes (some format) = 1 := by
        rcases plain with rfl | rfl <;> rfl
      rw [generalText_eq_error, once, toBinary64_once]
    next => exact render_eq_error format n

end Numeric

theorem Numeric.shown_eq_error (n : Numeric) (format : Option String) {failure : Failure} :
    n.shown format = .error failure ↔
      (n.times (shownTimes format)).toBinary64 = .error .tooLarge ∧
        failure = DisplayError.tooLarge.failure := by
  unfold shown
  rw [Except.mapError_eq_error]
  constructor
  · rintro ⟨⟨⟩, failed, rfl⟩
    exact ⟨(display_eq_error n format).1 (Except.map_eq_error.1 failed), rfl⟩
  · rintro ⟨large, rfl⟩
    exact ⟨.tooLarge, Except.map_eq_error.2 ((display_eq_error n format).2 large), rfl⟩

end FormulaTrace
