import FormulaTrace.Display.NumberFormat
import FormulaTrace.Number.Shortest
import Mathlib.Algebra.Order.Field.Rat
import Mathlib.Data.List.TakeWhile
import Mathlib.Tactic.FieldSimp
import Mathlib.Tactic.Ring

/-! Decimal texts and the numbers that they denote.
A text denotes the number of its digits times a power of ten.  Zeros at the end of the digits and
commas between them do not matter, so that a number can be read from a text in whatever layout its
digits were written. -/
namespace FormulaTrace
open Text

/-- The number denoted by digits, perhaps with a point among them. -/
def pointValue? (text : List Char) : Option ℚ :=
  let (whole, places) := breakFirst '.' text
  let places := places.getD []
  (ofDigits? (whole ++ places)).map fun digits : Nat => digits / 10 ^ places.length

def unsignedValue? (text : List Char) : Option ℚ :=
  match breakFirst 'e' text with
  | (mantissa, none) => pointValue? mantissa
  | (mantissa, some exponent) =>
    (pointValue? mantissa).bind fun value => (Binary64.signedNumber? exponent).map fun power =>
      value * 10 ^ power

def decimalValue? : List Char → Option ℚ
  | '-' :: rest => (unsignedValue? rest).map fun value => -value
  | text => unsignedValue? text

/-! ### Digits -/

/-- Decimal digits, one at least. -/
structure AreDigits (text : List Char) : Prop where
  ne_nil : text ≠ []
  digits : ∀ c ∈ text, c.isDigit = true

def digitsNumber (digits : List Char) : Nat := Nat.ofDigitChars 10 digits 0

theorem areDigits_digitsOf (n : Nat) : AreDigits (digitsOf n) :=
  ⟨Nat.toDigits_ne_nil, fun _ member => Nat.isDigit_of_mem_toDigits (by omega) (by omega) member⟩

theorem digitsNumber_digitsOf (n : Nat) : digitsNumber (digitsOf n) = n :=
  Nat.ofDigitChars_ten_toDigits

theorem digitsNumber_append (first second : List Char) :
    digitsNumber (first ++ second) = 10 ^ second.length * digitsNumber first +
      digitsNumber second := by
  rw [digitsNumber, Nat.ofDigitChars_append, Nat.ofDigitChars_eq_ofDigitChars_zero]
  rfl

theorem digitsNumber_zeros (count : Nat) : digitsNumber (List.replicate count '0') = 0 := by
  simp [digitsNumber]

theorem notMem_of_areDigits {text : List Char} (digits : ∀ c ∈ text, c.isDigit = true) {c : Char}
    (other : c.isDigit = false) : c ∉ text := fun member => by
  rw [digits c member] at other
  cases other

theorem ofDigits?_of_areDigits {text : List Char} (digits : AreDigits text) :
    ofDigits? text = some (digitsNumber text) := by
  have every : text.all Char.isDigit = true := List.all_eq_true.2 digits.digits
  rw [ofDigits?, if_pos ⟨digits.ne_nil, every⟩]
  rfl

theorem isDigit_of_mem_padZeros {width : Nat} {digits : List Char}
    (h : ∀ c ∈ digits, c.isDigit = true) :
    ∀ c ∈ padZeros width digits, c.isDigit = true := by
  intro c member
  rcases List.mem_append.1 member with zero | digit
  · rw [List.eq_of_mem_replicate zero]
    rfl
  · exact h c digit

theorem digitsNumber_padZeros (width : Nat) (digits : List Char) :
    digitsNumber (padZeros width digits) = digitsNumber digits := by
  rw [padZeros, digitsNumber_append, digitsNumber_zeros, Nat.mul_zero, Nat.zero_add]

theorem length_padZeros {width : Nat} {digits : List Char} (fits : digits.length ≤ width) :
    (padZeros width digits).length = width := by
  rw [padZeros, List.length_append, List.length_replicate]
  omega

theorem length_digitsOf_le {n width : Nat} (filled : 0 < width) (less : n < 10 ^ width) :
    (digitsOf n).length ≤ width := (Nat.length_toDigits_le_iff (by omega) filled).2 less

/-! ### Layouts -/

def pointed (places : List Char) : List Char := if places = [] then [] else '.' :: places

theorem breakFirst_pointed {front : List Char} (free : '.' ∉ front) (places : List Char) :
    (breakFirst '.' (front ++ pointed places)).1 = front ∧
      ((breakFirst '.' (front ++ pointed places)).2).getD [] = places := by
  unfold pointed
  split
  next none =>
    rw [List.append_nil, breakFirst_of_not_mem free, none]
    exact ⟨rfl, rfl⟩
  next =>
    rw [breakFirst_append places free]
    exact ⟨rfl, rfl⟩

variable {whole places digits front : List Char}

theorem pointValue?_pointed (one : AreDigits whole) (other : ∀ c ∈ places, c.isDigit = true) :
    pointValue? (whole ++ pointed places) = some
      (digitsNumber (whole ++ places) / 10 ^ places.length : ℚ) := by
  obtain ⟨first, second⟩ :=
    breakFirst_pointed (notMem_of_areDigits one.digits (by decide : '.'.isDigit = false)) places
  have both : AreDigits (whole ++ places) :=
    ⟨List.append_ne_nil_of_left_ne_nil one.ne_nil _, List.forall_mem_append.2 ⟨one.digits, other⟩⟩
  unfold pointValue?
  dsimp only
  rw [first, second, ofDigits?_of_areDigits both, Option.map_some]

theorem noExponent_pointed (one : ∀ c ∈ whole, c.isDigit = true)
    (other : ∀ c ∈ places, c.isDigit = true) :
    'e' ∉ whole ++ pointed places := by
  have first := notMem_of_areDigits one (by decide : 'e'.isDigit = false)
  have second := notMem_of_areDigits other (by decide : 'e'.isDigit = false)
  unfold pointed
  split <;> simp [first, second]

theorem unsignedValue?_pointed (one : AreDigits whole) (other : ∀ c ∈ places, c.isDigit = true) :
    unsignedValue? (whole ++ pointed places) = some
      (digitsNumber (whole ++ places) / 10 ^ places.length : ℚ) := by
  unfold unsignedValue?
  rw [breakFirst_of_not_mem (noExponent_pointed one.digits other)]
  exact pointValue?_pointed one other

theorem unsignedValue?_minus (rest : List Char) : unsignedValue? ('-' :: rest) = none := by
  have digits (text : List Char) : ofDigits? ('-' :: text) = none := by simp [ofDigits?]
  have point (text : List Char) : pointValue? ('-' :: text) = none := by
    simp [pointValue?, breakFirst, digits]
  unfold unsignedValue?
  simp only [breakFirst]
  rw [if_neg (by decide)]
  cases (breakFirst 'e' rest).2 <;> simp [point]

def signed (negative : Bool) (text : List Char) : List Char :=
  if negative then '-' :: text else text

theorem signed_append (negative : Bool) (first second : List Char) :
    signed negative (first ++ second) = signed negative first ++ second := by
  cases negative <;> rfl

theorem filter_signed (negative : Bool) (text : List Char) :
    (signed negative text).filter (· ≠ ',') = signed negative (text.filter (· ≠ ',')) := by
  cases negative <;> rfl

theorem decimalValue?_signed {text : List Char} {value : ℚ}
    (read : unsignedValue? text = some value) (negative : Bool) :
    decimalValue? (signed negative text) = some (if negative then -value else value) := by
  cases negative with
  | true => simp [signed, decimalValue?, read]
  | false =>
    unfold decimalValue? signed
    simp only [Bool.false_eq_true, if_false]
    split
    next rest => simp [unsignedValue?_minus] at read
    next => exact read

theorem signedNumber?_exponentText (exponent : Int) :
    Binary64.signedNumber? (exponentText exponent) = some exponent := by
  have digits : AreDigits (padZeros 2 (digitsOf exponent.natAbs)) :=
    ⟨List.append_ne_nil_of_right_ne_nil _ (areDigits_digitsOf _).ne_nil,
      isDigit_of_mem_padZeros (areDigits_digitsOf _).digits⟩
  have read := ofDigits?_of_areDigits digits
  rw [digitsNumber_padZeros, digitsNumber_digitsOf] at read
  unfold exponentText
  split
  next negative =>
    have value : -((exponent.natAbs : Nat) : Int) = exponent := by omega
    simp only [Binary64.signedNumber?, read]
    exact congrArg some value
  next positive =>
    have value : ((exponent.natAbs : Nat) : Int) = exponent := by omega
    simp only [Binary64.signedNumber?, read]
    exact congrArg some value

theorem unsignedValue?_exponent (one : AreDigits whole) (other : ∀ c ∈ places, c.isDigit = true)
    (exponent : Int) :
    unsignedValue? (whole ++ pointed places ++ 'e' :: exponentText exponent) =
      some (digitsNumber (whole ++ places) / 10 ^ places.length * 10 ^ exponent : ℚ) := by
  unfold unsignedValue?
  rw [breakFirst_append _ (noExponent_pointed one.digits other)]
  dsimp only
  rw [pointValue?_pointed one other, signedNumber?_exponentText]
  rfl

theorem digitsNumber_spread (digits : List Char) (count : Nat) :
    (digitsNumber (digits.take count ++ List.replicate (count - (digits.take count).length) '0' ++
      digits.drop count) /
      10 ^ (digits.drop count).length : ℚ) = digitsNumber digits * 10 ^
        ((count : Int) - digits.length) := by
  have ten : (10 : ℚ) ≠ 0 := by norm_num
  rcases Nat.le_total count digits.length with inside | beyond
  · have width : count - (digits.take count).length = 0 := by
      rw [List.length_take]
      omega
    have power : ((digits.drop count).length : Int) = -((count : Int) - digits.length) := by
      rw [List.length_drop]
      omega
    rw [width, List.replicate_zero, List.append_nil, List.take_append_drop, ← zpow_natCast, power,
      zpow_neg, div_inv_eq_mul]
  · have power : (count : Int) - digits.length = (count - digits.length : Nat) := by omega
    rw [List.take_of_length_le beyond, List.drop_of_length_le beyond, List.append_nil,
      digitsNumber_append,
      digitsNumber_zeros, List.length_replicate, List.length_nil, pow_zero, div_one, power,
        zpow_natCast]
    push_cast
    ring

/-- Digits in any layout denote their number times the power of ten that belongs to the last of
them. -/
theorem unsignedValue?_render {layout : DecimalLayout} (short : layout.pointZero = false)
    (one : AreDigits digits) (exponent : Int) :
    unsignedValue? (layout.render digits exponent) =
      some (digitsNumber digits * 10 ^ (exponent + 1 - digits.length) : ℚ) := by
  have ten : (10 : ℚ) ≠ 0 := by norm_num
  have zeros (count : Nat) : ∀ c ∈ List.replicate count '0', c.isDigit = true := by
    intro c member
    rw [List.eq_of_mem_replicate member]
    rfl
  unfold DecimalLayout.render
  split
  · split
    next negative =>
      have filled : List.replicate (-exponent - 1).toNat '0' ++ digits ≠ [] :=
        List.append_ne_nil_of_right_ne_nil _ one.ne_nil
      have text : '0' :: '.' :: (List.replicate (-exponent - 1).toNat '0' ++ digits) =
          ['0'] ++ pointed (List.replicate (-exponent - 1).toNat '0' ++ digits) := by
        rw [pointed, if_neg filled]
        rfl
      have value : digitsNumber (['0'] ++ (List.replicate (-exponent - 1).toNat '0' ++ digits)) =
          digitsNumber digits := by
        rw [digitsNumber_append, digitsNumber_append, digitsNumber_zeros,
          show digitsNumber ['0'] = 0 from rfl]
        simp
      have power : ((List.replicate (-exponent - 1).toNat '0' ++ digits).length : Int) =
          -(exponent + 1 - digits.length) := by
        rw [List.length_append, List.length_replicate]
        omega
      rw [text, unsignedValue?_pointed ⟨by simp, by simp⟩
        (List.forall_mem_append.2 ⟨zeros _, one.digits⟩), value,
        ← zpow_natCast, power, zpow_neg, div_inv_eq_mul]
    next positive =>
      have first : (digits.take (exponent + 1).toNat) ≠ [] := by
        rw [ne_eq, List.take_eq_nil_iff, not_or]
        exact ⟨by omega, one.ne_nil⟩
      have front : AreDigits (digits.take (exponent + 1).toNat ++
          List.replicate ((exponent + 1).toNat - (digits.take (exponent + 1).toNat).length) '0') :=
        ⟨List.append_ne_nil_of_left_ne_nil first _,
          List.forall_mem_append.2 ⟨fun c member => one.digits c (List.mem_of_mem_take member),
            zeros _⟩⟩
      have spread := digitsNumber_spread digits (exponent + 1).toNat
      rw [show (((exponent + 1).toNat : Nat) : Int) = exponent + 1 by omega] at spread
      simp only [short, Bool.false_eq_true, if_false]
      rw [← spread]
      exact unsignedValue?_pointed front fun c member => one.digits c (List.mem_of_mem_drop member)
  · cases digits with
    | nil => exact absurd rfl one.ne_nil
    | cons c rest =>
      obtain ⟨digit, others⟩ := List.forall_mem_cons.1 one.digits
      have power : exponent + 1 - (c :: rest).length = -(rest.length : Int) + exponent := by
        rw [List.length_cons]
        omega
      have single : AreDigits [c] := ⟨List.cons_ne_nil c [], by simpa using digit⟩
      have read : unsignedValue? ([c] ++ pointed rest ++ 'e' :: exponentText exponent) =
          some (digitsNumber (c :: rest) * 10 ^ (exponent + 1 - (c :: rest).length) : ℚ) := by
        rw [unsignedValue?_exponent single others, power, zpow_add₀ ten, zpow_neg, zpow_natCast,
          ← mul_assoc, ← div_eq_mul_inv]
        rfl
      cases rest <;> exact read

theorem comma_notMem_render {layout : DecimalLayout} (one : ∀ c ∈ digits, c.isDigit = true)
    (exponent : Int) :
    ',' ∉ layout.render digits exponent := by
  have free {text : List Char} (digits : ∀ c ∈ text, c.isDigit = true) : ',' ∉ text :=
    notMem_of_areDigits digits (by decide)
  have power : ',' ∉ exponentText exponent := by
    have padded : ',' ∉ padZeros 2 (digitsOf exponent.natAbs) :=
      free (isDigit_of_mem_padZeros (areDigits_digitsOf exponent.natAbs).digits)
    unfold exponentText
    split <;> simp [padded]
  have inside := free one
  unfold DecimalLayout.render
  split
  · split
    · simp [inside]
    · have front : ',' ∉ digits.take (exponent + 1).toNat :=
        fun member => inside (List.mem_of_mem_take member)
      have behind : ',' ∉ digits.drop (exponent + 1).toNat :=
        fun member => inside (List.mem_of_mem_drop member)
      simp only [List.mem_append, not_or]
      refine ⟨⟨front, by simp⟩, ?_⟩
      split
      · split <;> simp
      · simp [behind]
  · match digits, inside with
    | [], _ => simp [power]
    | [c], inside => simpa [power] using inside
    | c :: d :: rest, inside => simpa [power] using inside

/-! ### Zeros and commas -/

theorem exists_finalZeros (digits : List Char) :
    ∃ count, digits = dropFinalZeros digits ++ List.replicate count '0' := by
  have parts : digits.reverse = digits.reverse.takeWhile (· = '0') ++ digits.reverse.dropWhile
      (· = '0') :=
    List.takeWhile_append_dropWhile.symm
  have zeros : digits.reverse.takeWhile (· = '0') =
      List.replicate (digits.reverse.takeWhile (· = '0')).length '0' :=
    List.eq_replicate_of_mem fun c member => by simpa using List.mem_takeWhile_imp member
  refine ⟨(digits.reverse.takeWhile (· = '0')).length, ?_⟩
  have whole := congrArg List.reverse parts
  rwa [List.reverse_reverse, List.reverse_append, zeros, List.reverse_replicate] at whole

theorem mem_of_mem_dropFinalZeros {c : Char} (member : c ∈ dropFinalZeros digits) : c ∈ digits := by
  obtain ⟨count, parts⟩ := exists_finalZeros digits
  rw [parts]
  exact List.mem_append_left _ member

theorem digitsNumber_dropFinalZeros (whole places : List Char) :
    (digitsNumber (whole ++ dropFinalZeros places) / 10 ^ (dropFinalZeros places).length : ℚ) =
      digitsNumber (whole ++ places) / 10 ^ places.length := by
  obtain ⟨count, parts⟩ := exists_finalZeros places
  have value : digitsNumber (whole ++ places) = 10 ^ count * digitsNumber
      (whole ++ dropFinalZeros places) := by
    rw [parts, ← List.append_assoc, digitsNumber_append, digitsNumber_zeros, List.length_replicate,
      ← parts]
    rfl
  have width : places.length = (dropFinalZeros places).length + count := by
    have size := congrArg List.length parts
    rwa [List.length_append, List.length_replicate] at size
  have ten : (10 : ℚ) ^ count ≠ 0 := pow_ne_zero count (by norm_num)
  rw [value, width, pow_add]
  push_cast
  field_simp

theorem dropFinalZeros_point (front places : List Char) :
    dropFinalZeros (front ++ '.' :: places) = front ++ '.' :: dropFinalZeros places := by
  have parts : (front ++ '.' :: places).reverse = places.reverse ++ '.' :: front.reverse := by simp
  unfold dropFinalZeros
  rw [parts, List.dropWhile_append]
  split
  next none =>
    rw [List.isEmpty_iff.1 none]
    simp
  next => simp

/-- Of a text with a point only zeros behind the point are left out, and the point if all of them
were zeros. -/
theorem dropFraction_point (free : '.' ∉ front) (other : ∀ c ∈ places, c.isDigit = true) :
    dropFraction (front ++ '.' :: places) = front ++ pointed (dropFinalZeros places) := by
  have keep {text : List Char} (last : ∀ c ∈ text.getLast?, c ≠ '.') :
      (text.reverse.dropWhile (· = '.')).reverse = text := by
    rw [← List.head?_reverse] at last
    cases shown : text.reverse with
    | nil => simpa using shown.symm
    | cons c rest =>
      have point : c ≠ '.' := last c (by simp [shown])
      rw [List.dropWhile_cons_of_neg (by simpa using point), ← shown, List.reverse_reverse]
  unfold dropFraction pointed
  rw [dropFinalZeros_point]
  split
  next none =>
    have last : ∀ c ∈ front.getLast?, c ≠ '.' := by
      rintro c final rfl
      exact free (List.mem_of_getLast? final)
    rw [none, List.reverse_append, List.reverse_singleton, List.singleton_append,
      List.dropWhile_cons_of_pos (by simp), List.append_nil]
    exact keep last
  next some =>
    apply keep
    intro c final
    rw [List.getLast?_append_of_ne_nil _ (List.cons_ne_nil _ _),
      List.getLast?_cons_of_ne_nil some] at final
    rintro rfl
    have point := other '.' (mem_of_mem_dropFinalZeros (List.mem_of_getLast? final))
    cases point

theorem notMem_groupThousands {c : Char} (other : c ≠ ',') (free : c ∉ digits) :
    c ∉ groupThousands digits := by
  induction digits with
  | nil => exact free
  | cons d rest ih =>
    obtain ⟨here, behind⟩ := List.ne_and_not_mem_of_not_mem_cons free
    unfold groupThousands
    split <;> simp [here, other, ih behind]

theorem render_parts {count : Nat} (filled : 0 < count) (num den : Nat) :
    ∃ whole places, AreDigits whole ∧ (∀ c ∈ places, c.isDigit = true) ∧ places.length = count ∧
      digitsNumber (whole ++ places) = divEven (num * tenPow count) den ∧
      FixedStyle.render ⟨true, count⟩ num den = groupThousands whole ++ '.' :: places := by
  let scaled := divEven (num * tenPow count) den
  have less : scaled % tenPow count < 10 ^ count := Nat.mod_lt _ (Nat.pow_pos (by omega))
  have width : (padZeros count (digitsOf (scaled % tenPow count))).length = count :=
    length_padZeros (length_digitsOf_le filled less)
  refine ⟨digitsOf (scaled / tenPow count), padZeros count (digitsOf (scaled % tenPow count)),
    areDigits_digitsOf _, isDigit_of_mem_padZeros (areDigits_digitsOf _).digits, width, ?_, ?_⟩
  · rw [digitsNumber_append, width, digitsNumber_padZeros, digitsNumber_digitsOf,
      digitsNumber_digitsOf]
    exact Nat.div_add_mod scaled (10 ^ count)
  · unfold FixedStyle.render
    dsimp only
    rw [if_pos rfl, if_neg filled.ne']

theorem filter_comma {text : List Char} (free : ',' ∉ text) : text.filter (· ≠ ',') = text := by
  rw [List.filter_eq_self]
  intro c member
  rw [decide_eq_true_eq]
  rintro rfl
  exact free member

theorem filter_grouped (one : ∀ c ∈ whole, c.isDigit = true)
    (other : ∀ c ∈ places, c.isDigit = true) :
    (groupThousands whole ++ pointed places).filter (· ≠ ',') = whole ++ pointed places := by
  have comma : ',' ∉ pointed places := by
    have free := notMem_of_areDigits other (by decide : ','.isDigit = false)
    unfold pointed
    split <;> simp [free]
  rw [List.filter_append, groupThousands_filter (notMem_of_areDigits one (by decide)),
    filter_comma comma]

end FormulaTrace
