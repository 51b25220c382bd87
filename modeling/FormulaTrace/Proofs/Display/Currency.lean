import FormulaTrace.Proofs.Display.Largest
import FormulaTrace.Proofs.Number.Reading
import FormulaTrace.Proofs.Text.Blank

/-! Amounts under a number format that names its currency in brackets. The places are counted behind
the first point of the whole section.  That is the point of the placeholders, unless the text of the
currency has a point itself. -/
namespace FormulaTrace
open Text

/-! ### Groups of digits -/

/-- Digits in groups of three with commas between them; the first group may have less. -/
def Grouped (digits text : List Char) : Prop :=
  ∃ (first : List Char) (groups : List (List Char)), first ≠ [] ∧ first.length ≤ 3 ∧
    (∀ group ∈ groups, group.length = 3) ∧
    digits = first ++ groups.flatten ∧ text = first ++ groups.flatMap (',' :: ·)

theorem length_flatten_groups {groups : List (List Char)}
    (full : ∀ group ∈ groups, group.length = 3) :
    groups.flatten.length % 3 = 0 := by
  induction groups with
  | nil => rfl
  | cons group rest ih =>
    obtain ⟨here, others⟩ := List.forall_mem_cons.1 full
    rw [List.flatten_cons, List.length_append, here, Nat.add_mod_left]
    exact ih others

theorem groupThousands_short {first : List Char} (short : first.length ≤ 3) :
    groupThousands first = first := by
  match first, short with
  | [], _ => rfl
  | [_], _ => rfl
  | [_, _], _ => rfl
  | [_, _, _], _ => rfl

theorem groupThousands_append {first rest : List Char} (filled : first ≠ [])
    (short : first.length ≤ 3) (more : rest ≠ []) (full : rest.length % 3 = 0) :
    groupThousands (first ++ rest) = first ++ ',' :: groupThousands rest := by
  have one : ¬ (rest.length + 1) % 3 = 0 := by omega
  have two : ¬ (rest.length + 1 + 1) % 3 = 0 := by omega
  match first, filled, short with
  | [_], _, _ => simp [groupThousands, more, full]
  | [_, _], _, _ => simp [groupThousands, more, full, one]
  | [_, _, _], _, _ => simp [groupThousands, more, full, one, two]

theorem groupThousands_groups {first : List Char} {groups : List (List Char)} (filled : first ≠ [])
    (short : first.length ≤ 3) (full : ∀ group ∈ groups, group.length = 3) :
    groupThousands (first ++ groups.flatten) = first ++ groups.flatMap (',' :: ·) := by
  induction groups generalizing first with
  | nil =>
    rw [List.flatten_nil, List.append_nil]
    exact (groupThousands_short short).trans (List.append_nil first).symm
  | cons group rest ih =>
    obtain ⟨here, others⟩ := List.forall_mem_cons.1 full
    have some : group ≠ [] := by
      rintro rfl
      cases here
    have more : (group :: rest).flatten ≠ [] := by
      rw [List.flatten_cons]
      exact List.append_ne_nil_of_left_ne_nil some _
    rw [groupThousands_append filled short more (length_flatten_groups full), List.flatten_cons,
      ih some here.le others]
    rfl

theorem exists_groups {digits : List Char} (filled : digits ≠ []) :
    ∃ (first : List Char) (groups : List (List Char)), first ≠ [] ∧ first.length ≤ 3 ∧
      (∀ group ∈ groups, group.length = 3) ∧ digits = first ++ groups.flatten := by
  induction digits with
  | nil => exact absurd rfl filled
  | cons c rest ih =>
    by_cases last : rest = []
    · exact ⟨[c], [], List.cons_ne_nil c [], by simp, by simp, by simp [last]⟩
    · obtain ⟨first, groups, some, short, full, rfl⟩ := ih last
      rcases short.eq_or_lt with three | room
      · exact ⟨[c], first :: groups,
          List.cons_ne_nil c [], by simp, List.forall_mem_cons.2 ⟨three, full⟩, rfl⟩
      · exact ⟨c :: first, groups, List.cons_ne_nil c first, room, full, rfl⟩

theorem grouped_iff {digits text : List Char} (filled : digits ≠ []) :
    Grouped digits text ↔ text = groupThousands digits := by
  constructor
  · rintro ⟨first, groups, some, short, full, rfl, rfl⟩
    exact (groupThousands_groups some short full).symm
  · rintro rfl
    obtain ⟨first, groups, some, short, full, rfl⟩ := exists_groups filled
    exact ⟨first, groups, some, short, full, rfl, groupThousands_groups some short full⟩

/-! ### Placeholders -/

/-- How many placeholders for digits stand directly behind the first point of a text. -/
inductive Decimals : List Char → Nat → Prop
  | whole {body : List Char} (free : '.' ∉ body) : Decimals body 0
  | places {front marks behind : List Char} (free : '.' ∉ front)
      (marked : ∀ c ∈ marks, c = '0' ∨ c = '#')
      (stop : ∀ c ∈ behind.head?, c ≠ '0' ∧ c ≠ '#') :
        Decimals (front ++ '.' :: (marks ++ behind)) marks.length

namespace Decimals

variable {body : List Char} {count : Nat}

theorem places_eq (decimals : Decimals body count) : NumberFormat.places body = count := by
  cases decimals with
  | whole free => rw [NumberFormat.places, breakFirst_of_not_mem free]
  | @places front marks behind free marked stop =>
    rw [NumberFormat.places, breakFirst_append _ free]
    dsimp only
    rw [List.takeWhile_append_of_pos (by simpa using marked)]
    cases behind with
    | nil => rw [List.takeWhile_nil, List.append_nil]
    | cons c rest =>
      have other := stop c rfl
      rw [List.takeWhile_cons_of_neg (by simpa using other), List.append_nil]

theorem exists_count (body : List Char) : ∃ count, Decimals body count := by
  by_cases point : '.' ∈ body
  · obtain ⟨front, rest, rfl, free⟩ := List.eq_append_cons_of_mem point
    have parts := List.takeWhile_append_dropWhile (p := fun c => c = '0' || c = '#') (l := rest)
    rw [← parts]
    refine ⟨_, places free (fun c member => by simpa using List.mem_takeWhile_imp member)
      fun c first => ?_⟩
    have stop := List.head?_dropWhile_not (fun c => c = '0' || c = '#') rest
    rw [Option.mem_def.1 first] at stop
    simpa using stop
  · exact ⟨0, whole point⟩

theorem decimals_iff : Decimals body count ↔ NumberFormat.places body = count := by
  constructor
  · exact places_eq
  · rintro rfl
    obtain ⟨count, decimals⟩ := exists_count body
    rwa [decimals.places_eq]

instance : Decidable (Decimals body count) := decidable_of_iff _ decimals_iff.symm

theorem unique {other : Nat} (decimals : Decimals body count) (again : Decimals body other) :
    count = other :=
  decimals.places_eq.symm.trans again.places_eq

theorem prepend {front : List Char} (free : '.' ∉ front) (decimals : Decimals body count) :
    Decimals (front ++ body) count := by
  cases decimals with
  | whole none => exact whole (List.not_mem_append free none)
  | places none marked stop =>
    rw [← List.append_assoc]
    exact places (List.not_mem_append free none) marked stop

/-- Behind a point with its placeholders nothing matters that is no placeholder. -/
theorem append {c : Char} (point : '.' ∈ body) (other : c ≠ '0' ∧ c ≠ '#')
    (decimals : Decimals body count) (rest : List Char) : Decimals (body ++ c :: rest) count := by
  cases decimals with
  | whole free => exact absurd point free
  | @places front marks behind free marked stop =>
    have shape : front ++ '.' :: (marks ++ behind) ++ c :: rest = front ++
      '.' :: (marks ++ (behind ++ c :: rest)) := by simp
    rw [shape]
    refine places free marked ?_
    cases behind with
    | nil => simpa using other
    | cons d more => simpa using stop

end Decimals

/-! ### Amounts -/

namespace Binary64

theorem nearest_small {num : Nat} (small : num < twoPow 53) :
    ∃ mantissa exponent, nearest num 1 = some (mantissa, exponent) ∧
      (ratio mantissa exponent).1 = num * (ratio mantissa exponent).2 := by
  rcases Nat.eq_zero_or_pos num with rfl | positive
  · exact ⟨0, minExponent, rfl, by simp [ratio]⟩
  · have bits : num.log2 < 53 := (Nat.log2_lt positive.ne').2 small
    have least : max ((num.log2 : Int) - 52) minExponent = (num.log2 : Int) - 52 := by
      unfold minExponent
      omega
    have right : ((num.log2 : Int) - 52).toNat = 0 := by omega
    have left : (-((num.log2 : Int) - 52)).toNat = 52 - num.log2 := by omega
    have exact : divEven (num * twoPow (52 - num.log2))
        (1 * twoPow 0) = num * twoPow (52 - num.log2) :=
      (congrArg (divEven · 1) (Nat.mul_one _).symm).trans (divEven_exact _ Nat.one_pos)
    have below : num * twoPow (52 - num.log2) < twoPow 53 := by
      have high : num < twoPow (num.log2 + 1) := Nat.lt_log2_self
      have width : twoPow 53 = twoPow (num.log2 + 1) * twoPow (52 - num.log2) := by
        rw [← twoPow_add, show num.log2 + 1 + (52 - num.log2) = 53 by omega]
      rw [width]
      exact Nat.mul_lt_mul_of_pos_right high (twoPow_pos _)
    refine ⟨num * twoPow (52 - num.log2), (num.log2 : Int) - 52, ?_, ?_⟩
    · unfold nearest
      rw [if_neg positive.ne', binaryExponent_one positive.ne']
      dsimp only
      rw [least, right, left, exact, if_neg below.ne]
      dsimp only
      rw [if_neg (by unfold maxExponent; omega)]
    · rw [ratio, right, left]
      exact Nat.mul_one _

end Binary64

theorem render_whole (count num : Nat) {den : Nat} (positive : 0 < den) :
    FixedStyle.render ⟨true, count⟩ (num * den) den =
      groupThousands (digitsOf num) ++ pointed (List.replicate count '0') := by
  have unit : 0 < tenPow count := Nat.pow_pos (by omega)
  have scaled : divEven (num * den * tenPow count) den = num * tenPow count := by
    rw [Nat.mul_right_comm]
    exact divEven_exact _ positive
  unfold FixedStyle.render
  dsimp only
  rw [scaled, Nat.mul_div_cancel _ unit, Nat.mul_mod_left, if_pos rfl]
  cases count with
  | zero => simp [pointed]
  | succ count =>
    have zeros : padZeros (count + 1) (digitsOf 0) = List.replicate (count + 1) '0' :=
      (List.replicate_succ' ).symm
    rw [if_neg (by omega), zeros, pointed, if_neg (by simp)]

theorem Numeric.abs_fixed {v : Int} (small : v.natAbs < 2 ^ 53) (count : Nat) :
    (Numeric.whole v).abs.fixed ⟨true, count⟩ =
      .ok (groupThousands (digitsOf v.natAbs) ++ pointed (List.replicate count '0')) := by
  obtain ⟨mantissa, exponent, found, exact⟩ :=
    Binary64.nearest_small (show v.natAbs < twoPow 53 from small)
  have double : Binary64.ofInt? v.natAbs = some (.finite false mantissa exponent) := by
    rw [Binary64.ofInt?, Int.natAbs_natCast, found]
    simp
  have shown := render_whole count v.natAbs (twoPow_pos (-exponent).toNat)
  unfold fixed abs toBinary64
  simp only [double]
  refine congrArg Except.ok (Eq.trans ?_ shown)
  unfold Binary64.fixed
  dsimp only
  rw [exact]
  rfl

/-- An amount as it is shown: the currency, the digits in groups, and zeros behind a point; in
parentheses if it lies below zero. -/
def Amount (symbol : List Char) (v : Int) (count : Nat) (text : List Char) : Prop :=
  ∃ grouped, Grouped (digitsOf v.natAbs) grouped ∧
    text = NumberFormat.parenthesize (v < 0)
      (trim symbol ++ (grouped ++ pointed (List.replicate count '0')))

theorem amount_iff {symbol text : List Char} {v : Int} {count : Nat} :
    Amount symbol v count text ↔ text = NumberFormat.parenthesize (v < 0)
      (trim symbol ++ (groupThousands (digitsOf v.natAbs) ++ pointed
        (List.replicate count '0'))) := by
  have grouped {text : List Char} : Grouped (digitsOf v.natAbs) text ↔
      text = groupThousands (digitsOf v.natAbs) :=
    grouped_iff (areDigits_digitsOf _).ne_nil
  constructor
  · rintro ⟨_, group, shown⟩
    rwa [grouped.1 group] at shown
  · exact fun shown => ⟨_, grouped.2 rfl, shown⟩

theorem parenthesize_injective (inside : Bool) :
    Function.Injective (NumberFormat.parenthesize inside) := by
  intro one other same
  cases inside with
  | false => exact same
  | true => exact List.append_cancel_right (List.cons.inj same).2

theorem pointed_injective : Function.Injective pointed := fun one other same => by
  have behind (places : List Char) : (breakFirst '.' (pointed places)).2.getD [] = places :=
    (breakFirst_pointed List.not_mem_nil places).2
  rw [← behind one, same, behind]

theorem Amount.unique {symbol text : List Char} {v : Int} {one other : Nat}
    (first : Amount symbol v one text) (second : Amount symbol v other text) : one = other := by
  have same := parenthesize_injective _ ((amount_iff.1 first).symm.trans (amount_iff.1 second))
  have zeros := pointed_injective (List.append_cancel_left (List.append_cancel_left same))
  simpa using congrArg List.length zeros

def hexDigits : List Char :=
  ['0', '1', '2', '3', '4', '5', '6', '7', '8', '9', 'a', 'b', 'c', 'd', 'e', 'f', 'A', 'B', 'C',
    'D', 'E', 'F']

/-- A number format with a currency and the code of a locale in brackets, and placeholders behind
them. -/
structure CurrencyFormat where
  symbol : List Char
  locale : List Char
  body : List Char
  visible : ∃ c ∈ symbol, isBlank c = false
  unbroken : ∀ c ∈ symbol, c ≠ ']' ∧ c ≠ '-' ∧ c ≠ ';' ∧ c ≠ '%'
  hexadecimal : ∀ c ∈ locale, c ∈ hexDigits
  placeholders : ∀ c ∈ body, c ∈ ['#', '0', ',', '.', ' ']

namespace CurrencyFormat

variable (format : CurrencyFormat)

def characters : List Char :=
  '[' :: '$' :: (format.symbol ++ '-' :: (format.locale ++ ']' :: format.body))

def text : String := String.ofList format.characters

/-- The part of a format whose point is the first one of the format, if it has a point. -/
def decisive : List Char := if '.' ∈ format.symbol then format.symbol else format.body

theorem notMem_characters {c : Char} (mark : c = ';' ∨ c = '%') : c ∉ format.characters := by
  have locales : ∀ d ∈ hexDigits, d ≠ ';' ∧ d ≠ '%' := by simp [hexDigits]
  have bodies : ∀ d ∈ ['#', '0', ',', '.', ' '], d ≠ ';' ∧ d ≠ '%' := by simp
  have symbol : c ∉ format.symbol := fun member => by
    obtain ⟨-, -, noEnd, noPercent⟩ := format.unbroken c member
    exact mark.elim noEnd noPercent
  have locale : c ∉ format.locale := fun member => by
    obtain ⟨noEnd, noPercent⟩ := locales c (format.hexadecimal c member)
    exact mark.elim noEnd noPercent
  have body : c ∉ format.body := fun member => by
    obtain ⟨noEnd, noPercent⟩ := bodies c (format.placeholders c member)
    exact mark.elim noEnd noPercent
  have others : c ∉ ['[', '$', '-', ']'] := by rcases mark with rfl | rfl <;> decide
  simp only [List.mem_cons, List.not_mem_nil, or_false, not_or] at others
  obtain ⟨opened, dollar, hyphen, closed⟩ := others
  simp [characters, symbol, locale, body, opened, dollar, hyphen, closed]

theorem positiveSection_text : NumberFormat.positiveSection format.text = format.characters := by
  rw [NumberFormat.positiveSection, text, String.toList_ofList,
    breakFirst_of_not_mem (format.notMem_characters (.inl rfl))]

theorem currency?_characters :
    NumberFormat.currency? format.characters = some (trim format.symbol) := by
  obtain ⟨c, member, ink⟩ := format.visible
  have read : NumberFormat.bracketedCurrency? format.characters = some format.symbol := by
    have inside : ∀ c ∈ format.symbol, (c ≠ ']' && c ≠ '-') = true := fun c member => by
      obtain ⟨closed, hyphen, -⟩ := format.unbroken c member
      simp [closed, hyphen]
    rw [characters, NumberFormat.bracketedCurrency?]
    rw [List.takeWhile_append_of_pos inside, List.takeWhile_cons_of_neg (by decide),
      List.append_nil, if_neg (List.ne_nil_of_mem member)]
  unfold NumberFormat.currency?
  rw [read]
  have filled := List.ne_nil_of_mem (mem_trim member ink)
  cases shown : trim format.symbol with
  | nil => exact absurd shown filled
  | cons c rest => simp [shown]

theorem decimals_characters {count : Nat} (decimals : Decimals format.decisive count) :
    Decimals format.characters count := by
  unfold decisive at decimals
  split at decimals
  next point =>
    exact (decimals.append point (show '-' ≠ '0' ∧ '-' ≠ '#' by decide) _).prepend
      (show '.' ∉ ['[', '$'] by decide)
  next free =>
    have locale : '.' ∉ format.locale := fun member =>
      absurd (format.hexadecimal '.' member) (by decide)
    have front : '.' ∉ '[' :: '$' :: (format.symbol ++ '-' :: (format.locale ++ [']'])) := by
      simp [free, locale]
    have shape : format.characters =
        ('[' :: '$' :: (format.symbol ++ '-' :: (format.locale ++ [']']))) ++ format.body := by
          simp [characters]
    rw [shape]
    exact decimals.prepend front

/-- Every amount is shown, with as many places as the decisive part has. -/
theorem render_text {v : Int} (small : v.natAbs < 2 ^ 53) {count : Nat}
    (decimals : Decimals format.decisive count) :
    ∃ text, NumberFormat.render format.text (.whole v) = .ok text ∧
      Amount format.symbol v count text := by
  have percent : ¬ format.characters.contains '%' := by
    simpa using format.notMem_characters (.inr rfl)
  refine ⟨_, ?_, amount_iff.2 rfl⟩
  unfold NumberFormat.render
  dsimp only
  rw [positiveSection_text, if_neg percent, currency?_characters,
    (format.decimals_characters decimals).places_eq]
  dsimp only
  rw [Numeric.abs_fixed small]
  rfl

end CurrencyFormat

/-- A currency in brackets is shown with the amount, with as many places as there are placeholders
behind the first point: the point of the currency if it has one, and else the point of the
placeholders.  So the places are those of the placeholders just if the currency has no point, or has
as many placeholders behind its own. -/
theorem render_currency_decimals (format : CurrencyFormat) {v : Int} (small : v.natAbs < 2 ^ 53) :
    ∃ text, NumberFormat.render format.text (.whole v) = .ok text ∧
      (∃ count, Decimals format.decisive count ∧ Amount format.symbol v count text) ∧
      ∀ count, Decimals format.body count →
        (Amount format.symbol v count text ↔
          ('.' ∈ format.symbol → Decimals format.symbol count)) := by
  obtain ⟨shown, decimals⟩ := Decimals.exists_count format.decisive
  obtain ⟨text, rendered, amount⟩ := format.render_text small decimals
  refine ⟨text, rendered, ⟨shown, decimals, amount⟩, fun count body => ?_⟩
  unfold CurrencyFormat.decisive at decimals
  constructor
  · intro again point
    rw [if_pos point, amount.unique again] at decimals
    exact decimals
  · intro agree
    have same : shown = count := by
      split at decimals
      next point => exact decimals.unique (agree point)
      next => exact decimals.unique body
    rwa [← same]

/-- Francs, by a name that ends in a point, with two places asked for. -/
def francs : CurrencyFormat where
  symbol := ['F', 'r', '.']
  locale := ['8', '0', '7']
  body := ['#', ',', '#', '#', '0', '.', '0', '0']
  visible := ⟨'F', by decide, by decide⟩
  unbroken := by simp
  hexadecimal := by simp [hexDigits]
  placeholders := by simp

theorem render_currency_decimals_francs :
    (-5 : Int).natAbs < 2 ^ 53 ∧ ∃ text, NumberFormat.render francs.text (.whole (-5)) = .ok text ∧
      (∃ count, Decimals francs.decisive count ∧ Amount francs.symbol (-5) count text) ∧
      ∀ count, Decimals francs.body count →
        (Amount francs.symbol (-5) count text ↔
          ('.' ∈ francs.symbol → Decimals francs.symbol count)) :=
  ⟨by decide, render_currency_decimals francs (by decide)⟩

/-- Five francs are shown without the two places that were asked for. -/
theorem render_currency_loses_decimals :
    NumberFormat.render francs.text (.whole 5) = .ok ['F', 'r', '.', '5'] ∧ Decimals francs.body 2 ∧
      ¬ Amount francs.symbol 5 2 ['F', 'r', '.', '5'] := by
  have none : Decimals francs.decisive 0 := by decide
  have two : Decimals francs.body 2 := by decide
  obtain ⟨text, rendered, amount⟩ :=
    francs.render_text (show (5 : Int).natAbs < 2 ^ 53 by decide) none
  obtain rfl : text = ['F', 'r', '.', '5'] := amount_iff.1 amount
  exact ⟨rendered, two, fun again => absurd (amount.unique again) (by decide)⟩

end FormulaTrace
