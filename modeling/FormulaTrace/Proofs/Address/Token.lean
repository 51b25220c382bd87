import FormulaTrace.Outcome
import FormulaTrace.Proofs.Address.Coordinate
import FormulaTrace.Proofs.Text.Blank
import Std.Data.String.ToInt

/-! Cell tokens as they are written, and what is read from them.
A written token is read whole whatever follows it, unless another digit does; the text of a position
is one of its spellings. -/
namespace FormulaTrace
open Text

attribute [ext] Position

/-- A cell token as it is written: letters and digits, each perhaps behind a dollar sign. -/
structure WrittenCell where
  fixedColumn : Bool
  letters : List Char
  fixedRow : Bool
  digits : List Char
  letters_ascii : ∀ c ∈ letters, isAsciiLetter c = true
  letters_ne_nil : letters ≠ []
  letters_length : letters.length ≤ 3
  digits_decimal : ∀ c ∈ digits, isDecimalDigit c = true
  digits_ne_nil : digits ≠ []

def dollar (shown : Bool) : List Char := if shown then ['$'] else []

theorem takeWhile_append {α : Type} {p : α → Bool} {before after : List α}
    (all : ∀ a ∈ before, p a = true) (stop : ∀ a ∈ after.head?, p a = false) :
    (before ++ after).takeWhile p = before ∧ (before ++ after).dropWhile p = after := by
  rw [List.takeWhile_append_of_pos all, List.dropWhile_append_of_pos all]
  cases after with
  | nil => simp
  | cons a rest => simp [stop a rfl]

theorem dropDollar_dollar (shown : Bool) {text : List Char} (h : text.head? ≠ some '$') :
    CellToken.dropDollar (dollar shown ++ text) = text := by
  cases shown with
  | true => rfl
  | false =>
    cases text with
    | nil => rfl
    | cons c rest =>
      have other : c ≠ '$' := by simpa using h
      simp [dollar, CellToken.dropDollar, other]

theorem ne_of_class {p : Char → Bool} {c d : Char} (h : p c = true) (other : p d = false) :
    c ≠ d := by
  rintro rfl
  rw [h] at other
  contradiction

theorem notMem_of_class {p : Char → Bool} {d : Char} {text : List Char} (h : ∀ c ∈ text, p c = true)
    (other : p d = false) : d ∉ text :=
  fun member => ne_of_class (h d member) other rfl

namespace WrittenCell

variable (cell : WrittenCell)

def text : List Char :=
  dollar cell.fixedColumn ++ (cell.letters ++ (dollar cell.fixedRow ++ cell.digits))

def token : CellToken := ⟨cell.letters, cell.digits⟩

/-- The letters number the column and the digits the row, both from one on.  Nothing lies outside
the grid, and a row of more digits than are read is none. -/
def position? : Option Position :=
  if cell.digits.length ≤ maxDigits ∧ columnNumber cell.letters ≤ maxColumns ∧
    1 ≤ digitsValue cell.digits ∧ digitsValue cell.digits ≤ maxRows then
    some ⟨columnNumber cell.letters - 1, digitsValue cell.digits - 1⟩
  else none

theorem toOption_position (shown : String) :
    (cell.token.position shown).toOption = cell.position? := by
  unfold CellToken.position position? token
  dsimp only
  split
  next long =>
    rw [if_neg fun inside => Nat.not_lt.2 inside.1 long]
    rfl
  next short =>
    by_cases inside : columnNumber cell.letters ≤ maxColumns ∧ 1 ≤ digitsValue cell.digits ∧
        digitsValue cell.digits ≤ maxRows
    · rw [if_pos inside, if_pos ⟨Nat.not_lt.1 short, inside⟩]
      rfl
    · rw [if_neg inside, if_neg fun all => inside all.2]
      rfl

theorem exists_letter : ∃ c rest, cell.letters = c :: rest ∧ isAsciiLetter c = true := by
  obtain ⟨c, rest, whole⟩ := List.exists_cons_of_ne_nil cell.letters_ne_nil
  exact ⟨c, rest, whole, cell.letters_ascii c (by simp [whole])⟩

theorem exists_digit : ∃ c rest, cell.digits = c :: rest ∧ isDecimalDigit c = true := by
  obtain ⟨c, rest, whole⟩ := List.exists_cons_of_ne_nil cell.digits_ne_nil
  exact ⟨c, rest, whole, cell.digits_decimal c (by simp [whole])⟩

theorem read_text {after : List Char} (stop : ∀ c ∈ after.head?, isDecimalDigit c = false) :
    CellToken.read (cell.text ++ after) = some (cell.token, after) := by
  obtain ⟨c, lettersRest, lettersWhole, letter⟩ := cell.exists_letter
  obtain ⟨d, digitsRest, digitsWhole, digit⟩ := cell.exists_digit
  have behindColumn : CellToken.dropDollar (cell.text ++ after) =
      cell.letters ++ (dollar cell.fixedRow ++ (cell.digits ++ after)) := by
    simp only [text, List.append_assoc]
    apply dropDollar_dollar
    simp [lettersWhole, ne_of_class letter (by decide : isAsciiLetter '$' = false)]
  have lettersStop : ∀ a ∈ (dollar cell.fixedRow ++ (cell.digits ++ after)).head?,
      isAsciiLetter a = false := by
    intro a first
    cases fixed : cell.fixedRow with
    | true =>
      have same : '$' = a := by simpa [fixed, dollar] using first
      rw [← same]
      rfl
    | false =>
      have same : d = a := by simpa [fixed, dollar, digitsWhole] using first
      exact isAsciiLetter_eq_false_of_isDecimalDigit (same ▸ digit)
  have behindRow : CellToken.dropDollar (dollar cell.fixedRow ++ (cell.digits ++ after)) =
      cell.digits ++ after := by
    apply dropDollar_dollar
    simp [digitsWhole, ne_of_class digit (by decide : isDecimalDigit '$' = false)]
  have lettersRead := takeWhile_append cell.letters_ascii lettersStop
  have digitsRead := takeWhile_append cell.digits_decimal stop
  have fits : ¬ 3 < cell.letters.length := by
    have := cell.letters_length
    omega
  simp [CellToken.read, behindColumn, behindRow, lettersRead, digitsRead, cell.letters_ne_nil,
    cell.digits_ne_nil, fits, token]

theorem notMem_text {c : Char} (letter : isAsciiLetter c = false) (digit : isDecimalDigit c = false)
    (other : c ≠ '$') : c ∉ cell.text := by
  have noLetter := notMem_of_class cell.letters_ascii letter
  have noDigit := notMem_of_class cell.digits_decimal digit
  have noDollar (shown : Bool) : c ∉ dollar shown := by cases shown <;> simp [dollar, other]
  simp [text, noLetter, noDigit, noDollar]

theorem plain_text : cell.text.filter (· ≠ '$') = cell.letters ++ cell.digits := by
  have noDollar (shown : Bool) : (dollar shown).filter (· ≠ '$') = [] := by cases shown <;> rfl
  have letters : cell.letters.filter (· ≠ '$') = cell.letters := by
    rw [List.filter_eq_self]
    intro c member
    simpa using ne_of_class (d := '$') (cell.letters_ascii c member) (by decide)
  have digits : cell.digits.filter (· ≠ '$') = cell.digits := by
    rw [List.filter_eq_self]
    intro c member
    simpa using ne_of_class (d := '$') (cell.digits_decimal c member) (by decide)
  simp only [text, List.filter_append, noDollar, letters, digits, List.nil_append]

theorem endsInk_plain : EndsInk (cell.letters ++ cell.digits) := by
  obtain ⟨c, rest, lettersWhole, letter⟩ := cell.exists_letter
  constructor
  · intro a first
    have same : c = a := by simpa [lettersWhole] using first
    rw [← same]
    exact isBlank_eq_false_of_isAsciiLetter letter
  · intro a last
    rw [List.getLast?_append_of_ne_nil _ cell.digits_ne_nil] at last
    exact isBlank_eq_false_of_isDecimalDigit (cell.digits_decimal a (List.mem_of_getLast? last))

theorem ofPlain?_plain : CellToken.ofPlain? (cell.letters ++ cell.digits) = some cell.token := by
  obtain ⟨d, rest, digitsWhole, digit⟩ := cell.exists_digit
  have stop : ∀ a ∈ cell.digits.head?, isAsciiLetter a = false := by
    intro a first
    have same : d = a := by simpa [digitsWhole] using first
    exact isAsciiLetter_eq_false_of_isDecimalDigit (same ▸ digit)
  have lettersRead := takeWhile_append cell.letters_ascii stop
  have fits : ¬ 3 < cell.letters.length := by
    have := cell.letters_length
    omega
  have decimal : cell.digits.all isDecimalDigit = true := List.all_eq_true.2 cell.digits_decimal
  simp [CellToken.ofPlain?, lettersRead, cell.letters_ne_nil, fits, cell.digits_ne_nil, decimal,
    token]

theorem position_read_between {before after : List Char} (front : ∀ c ∈ before, isBlank c = true)
    (back : ∀ c ∈ after, isBlank c = true) :
    Position.read (String.ofList (before ++ cell.text ++ after)) =
      cell.token.position (String.ofList (before ++ cell.text ++ after)) := by
  have kept {text : List Char} (blank : ∀ c ∈ text, isBlank c = true) :
      text.filter (· ≠ '$') = text := by
    rw [List.filter_eq_self]
    intro c member
    simpa using ne_of_class (d := '$') (blank c member) (by decide)
  have filled : cell.letters ++ cell.digits ≠ [] :=
    List.append_ne_nil_of_left_ne_nil cell.letters_ne_nil _
  rw [Position.read, String.toList_ofList, List.filter_append, List.filter_append, kept front,
    kept back,
    cell.plain_text, trim_between front back cell.endsInk_plain filled, cell.ofPlain?_plain]

theorem position_read :
    Position.read (String.ofList cell.text) = cell.token.position (String.ofList cell.text) := by
  have alone := @position_read_between cell [] [] nofun nofun
  rwa [List.nil_append, List.append_nil] at alone

def ofPosition (place : Position) (named : place.col < lastNamedColumn) : WrittenCell where
  fixedColumn := false
  letters := columnLetters (place.col + 1)
  fixedRow := false
  digits := rowDigits place.row
  letters_ascii _ member := isAsciiLetter_of_mem_columnLetters member
  letters_ne_nil := columnLetters_ne_nil (by omega)
  letters_length := columnLetters_length_le (by omega)
  digits_decimal _ member := isDecimalDigit_of_mem_rowDigits member
  digits_ne_nil := rowDigits_ne_nil place.row

theorem ofPosition_text (place : Position) (named : place.col < lastNamedColumn) :
    String.ofList (ofPosition place named).text = addressText place.col place.row := by
  rw [← String.toList_inj, addressText_toList, String.toList_ofList]
  rfl

end WrittenCell

def Position.InGrid (place : Position) : Prop := place.col < maxColumns ∧ place.row < maxRows

instance (place : Position) : Decidable place.InGrid :=
  inferInstanceAs (Decidable (place.col < maxColumns ∧ place.row < maxRows))

theorem Position.InGrid.named {place : Position} (h : place.InGrid) : place.col < lastNamedColumn :=
  lt_trans h.1 (by decide)

theorem CellToken.inGrid_of_position {token : CellToken} {shown : String} {place : Position}
    (read : token.position shown = .ok place) : place.InGrid := by
  unfold CellToken.position at read
  split at read
  · cases read
  · dsimp only at read
    split at read
    next bounds =>
      cases read
      obtain ⟨column, first, last⟩ := bounds
      simp only [Position.InGrid, maxColumns, maxRows] at *
      omega
    next => cases read

theorem CellToken.inGrid_of_toOption {token : CellToken} {shown : String} {place : Position}
    (read : (token.position shown).toOption = some place) : place.InGrid :=
  inGrid_of_position (Except.toOption_eq_some read)

theorem Position.inGrid_of_read {text : String} {place : Position}
    (read : Position.read text = .ok place) :
    place.InGrid := by
  unfold Position.read at read
  split at read
  · exact CellToken.inGrid_of_position read
  · cases read

theorem Position.read_addressText {place : Position} (h : place.InGrid) :
    Position.read (addressText place.col place.row) = .ok place := by
  have row := rowDigits_length_le h.2
  have short : ¬ maxDigits < (rowDigits place.row).length := by
    simp only [maxDigits]
    omega
  have inside : place.col + 1 ≤ maxColumns ∧ 1 ≤ place.row + 1 ∧ place.row + 1 ≤ maxRows :=
    ⟨h.1, by omega, h.2⟩
  rw [← WrittenCell.ofPosition_text place h.named, WrittenCell.position_read]
  simp only [CellToken.position, WrittenCell.token, WrittenCell.ofPosition,
    columnNumber_columnLetters,
    digitsValue_rowDigits, if_neg short, if_pos inside, Nat.add_sub_cancel]

theorem head?_toString (number : Int) :
    ∀ c ∈ (toString number).toList.head?, isAsciiLetter c = false := by
  intro c first
  rw [Int.toString_eq_repr, Int.repr_eq_if] at first
  split at first
  next =>
    rw [Nat.toList_repr] at first
    have digit := Nat.isDigit_of_mem_toDigits (by decide) (by decide) (List.mem_of_head? first)
    exact isAsciiLetter_eq_false_of_isDecimalDigit (isDecimalDigit_of_isDigit digit)
  next =>
    obtain rfl : '-' = c := by simpa using first
    decide

theorem addressText_split (col row : Int) :
    (addressText col row).toList.takeWhile isAsciiLetter = columnLetters (col + 1).toNat ∧
      (addressText col row).toList.dropWhile isAsciiLetter = (toString (row + 1)).toList := by
  rw [addressText, String.toList_append, String.toList_ofList]
  exact takeWhile_append (fun c => isAsciiLetter_of_mem_columnLetters) (head?_toString (row + 1))

theorem coordinates_of_addressText {col row col' row' : Int} (left : 0 ≤ col) (left' : 0 ≤ col')
    (same : addressText col row = addressText col' row') : col = col' ∧ row = row' := by
  have first := addressText_split col row
  have second := addressText_split col' row'
  rw [same, second.1, second.2] at first
  have cols := congrArg columnNumber first.1
  rw [columnNumber_columnLetters, columnNumber_columnLetters] at cols
  have rows := String.toList_inj.1 first.2
  rw [Int.toString_eq_repr, Int.toString_eq_repr, Int.repr_inj] at rows
  omega

theorem addressText_parts (place : Position) :
    (addressText place.col place.row).toList.takeWhile isAsciiLetter = columnLetters
      (place.col + 1) ∧
      (addressText place.col place.row).toList.dropWhile isAsciiLetter = rowDigits place.row := by
  have number : ((place.col : Int) + 1).toNat = place.col + 1 := by omega
  have split := addressText_split place.col place.row
  rwa [number, toString_succ] at split

theorem addressText_injective {first second : Position}
    (same : addressText first.col first.row = addressText second.col second.row) :
    first = second := by
  obtain ⟨col, row⟩ := coordinates_of_addressText (Int.natCast_nonneg _) (Int.natCast_nonneg _) same
  exact Position.ext (Int.ofNat.inj col) (Int.ofNat.inj row)

end FormulaTrace
