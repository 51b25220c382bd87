import FormulaTrace.Address.Position
import Mathlib.Data.List.Basic
import Mathlib.Order.Basic

/-! Column letters and row digits as two numerations that lose nothing.
Letters come back as the number of their column, digits as the number of their row, so the text of
a position determines its coordinates. -/
namespace FormulaTrace
open Text

theorem columnLetter_value {digit : Nat} (h : digit < 26) :
    (Char.ofNat (65 + digit)).toUpper.toNat - 64 = digit + 1 := by
  revert digit
  decide

theorem columnLetter_isAsciiLetter {digit : Nat} (h : digit < 26) :
    isAsciiLetter (Char.ofNat (65 + digit)) = true := by
  revert digit
  decide

theorem columnNumber_columnLetters (number : Nat) :
    columnNumber (columnLetters number) = number := by
  induction number using Nat.strongRecOn with
  | ind number ih =>
    cases number with
    | zero => simp [columnNumber]
    | succ number =>
      have before := ih (number / 26) (by omega)
      have last := columnLetter_value (Nat.mod_lt number (by omega : 0 < 26))
      rw [columnLetters_succ, columnNumber_append_singleton, before, last]
      omega

theorem isAsciiLetter_of_mem_columnLetters {number : Nat} {c : Char}
    (h : c ∈ columnLetters number) :
    isAsciiLetter c = true := by
  induction number using Nat.strongRecOn with
  | ind number ih =>
    cases number with
    | zero => simp at h
    | succ number =>
      rw [columnLetters_succ, List.mem_append, List.mem_singleton] at h
      rcases h with before | rfl
      · exact ih (number / 26) (by omega) before
      · exact columnLetter_isAsciiLetter (Nat.mod_lt number (by omega))

theorem columnLetters_ne_nil {number : Nat} (h : 0 < number) : columnLetters number ≠ [] := by
  obtain ⟨before, rfl⟩ := Nat.exists_eq_succ_of_ne_zero (Nat.ne_of_gt h)
  simp [columnLetters_succ]

theorem columnLetters_length_succ (number : Nat) :
    (columnLetters (number + 1)).length = (columnLetters (number / 26)).length + 1 := by
  simp [columnLetters_succ]

theorem columnLetters_length_le {number : Nat} (h : number ≤ lastNamedColumn) :
    (columnLetters number).length ≤ 3 := by
  have short (number : Nat) (h : number ≤ 26) : (columnLetters number).length ≤ 1 := by
    cases number with
    | zero => simp
    | succ number =>
      rw [columnLetters_length_succ, Nat.div_eq_of_lt (by omega)]
      simp
  have middle (number : Nat) (h : number ≤ 702) : (columnLetters number).length ≤ 2 := by
    cases number with
    | zero => simp
    | succ number =>
      have first := short (number / 26) (by omega)
      rw [columnLetters_length_succ]
      omega
  cases number with
  | zero => simp
  | succ number =>
    have first := middle (number / 26) (by simp only [lastNamedColumn] at h; omega)
    rw [columnLetters_length_succ]
    omega

/-- The decimal digits of a row, counted from zero. -/
def rowDigits (row : Nat) : List Char := Nat.toDigits 10 (row + 1)

theorem toString_succ (row : Nat) : (toString ((row : Int) + 1)).toList = rowDigits row := by
  have whole : (row : Int) + 1 = ((row + 1 : Nat) : Int) := by simp
  rw [whole, rowDigits]
  exact Nat.toList_repr

theorem isDigit_toNat_le {c : Char} (h : c.isDigit = true) : c.toNat ≤ 57 := by
  simp only [Char.isDigit, Bool.and_eq_true, decide_eq_true_eq, UInt32.le_iff_toNat_le] at h
  exact h.2

theorem digitValue?_of_isDigit {c : Char} (h : c.isDigit = true) :
    digitValue? c = some (c.toNat - 48) := by
  have upper := isDigit_toNat_le h
  have ascii : c.toNat < 128 := by omega
  simp [digitValue?, ascii, h]

theorem isDecimalDigit_of_isDigit {c : Char} (h : c.isDigit = true) : isDecimalDigit c = true := by
  simp [isDecimalDigit, digitValue?_of_isDigit h]

theorem digitsValue_eq_ofDigitChars {digits : List Char} (h : ∀ c ∈ digits, c.isDigit = true) :
    digitsValue digits = Nat.ofDigitChars 10 digits 0 := by
  rw [digitsValue, Nat.ofDigitChars_eq_foldl]
  apply List.foldl_ext
  intro value c member
  simp [digitValue?_of_isDigit (h c member), Nat.mul_comm]

theorem isDigit_of_mem_rowDigits {row : Nat} {c : Char} (h : c ∈ rowDigits row) :
    c.isDigit = true :=
  Nat.isDigit_of_mem_toDigits (by omega) (by omega) h

theorem isDecimalDigit_of_mem_rowDigits {row : Nat} {c : Char} (h : c ∈ rowDigits row) :
    isDecimalDigit c = true :=
  isDecimalDigit_of_isDigit (isDigit_of_mem_rowDigits h)

theorem digitsValue_rowDigits (row : Nat) : digitsValue (rowDigits row) = row + 1 := by
  rw [digitsValue_eq_ofDigitChars fun c => isDigit_of_mem_rowDigits]
  exact Nat.ofDigitChars_ten_toDigits

theorem rowDigits_ne_nil (row : Nat) : rowDigits row ≠ [] := Nat.toDigits_ne_nil

theorem rowDigits_length_le {row : Nat} (h : row < maxRows) : (rowDigits row).length ≤ 7 := by
  rw [rowDigits, Nat.length_toDigits_le_iff (by omega) (by omega)]
  simp only [maxRows] at h
  omega

theorem addressText_toList (col row : Nat) :
    (addressText col row).toList = columnLetters (col + 1) ++ rowDigits row := by
  have number : ((col : Int) + 1).toNat = col + 1 := by omega
  rw [addressText, number, String.toList_append, toString_succ, String.toList_ofList]

theorem isAsciiLetter_lt {c : Char} (h : isAsciiLetter c = true) :
    65 ≤ c.toNat ∧ c.toNat ≤ 122 := by
  rcases Bool.or_eq_true_iff.1 h with capital | small
  · obtain ⟨lower, upper⟩ := of_decide_eq_true capital
    have lower : 65 ≤ c.toNat := UInt32.le_iff_toNat_le.1 lower
    have upper : c.toNat ≤ 90 := UInt32.le_iff_toNat_le.1 upper
    omega
  · obtain ⟨lower, upper⟩ := Bool.and_eq_true_iff.1 small
    have lower : 97 ≤ c.toNat := UInt32.le_iff_toNat_le.1 (of_decide_eq_true lower)
    have upper : c.toNat ≤ 122 := UInt32.le_iff_toNat_le.1 (of_decide_eq_true upper)
    omega

theorem isDecimalDigit_eq_false_of_isAsciiLetter {c : Char} (h : isAsciiLetter c = true) :
    isDecimalDigit c = false := by
  have bounds := isAsciiLetter_lt h
  have ascii : c.toNat < 128 := by omega
  have noDigit : c.isDigit = false := by
    rw [← Bool.not_eq_true]
    intro digit
    have upper := isDigit_toNat_le digit
    omega
  simp [isDecimalDigit, digitValue?, ascii, noDigit]

theorem isAsciiLetter_eq_false_of_isDecimalDigit {c : Char} (h : isDecimalDigit c = true) :
    isAsciiLetter c = false := by
  rw [← Bool.not_eq_true]
  intro letter
  rw [isDecimalDigit_eq_false_of_isAsciiLetter letter] at h
  contradiction

end FormulaTrace
