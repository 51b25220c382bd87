import FormulaTrace.Proofs.Address.Token

/-! The spellings of a cell.
A cell is written in one way and read in many.  The case of its letters, zeros in front of its row,
dollar signs and white space around it do not matter to what is read; and what was read can be
written, and read again. -/
namespace FormulaTrace
open Text

theorem toUpper_letter {c : Char} (letter : isAsciiLetter c = true) :
    isAsciiLetter c.toUpper = true ∧ c.toUpper.toUpper = c.toUpper := by
  have every : ∀ code < 128, isAsciiLetter (Char.ofNat code) = true →
      isAsciiLetter (Char.ofNat code).toUpper = true ∧
        (Char.ofNat code).toUpper.toUpper = (Char.ofNat code).toUpper := by
    decide
  have ascii : c.toNat < 128 := by
    have := (isAsciiLetter_lt letter).2
    omega
  simpa [letter] using every c.toNat ascii

theorem columnNumber_map_toUpper {letters : List Char}
    (ascii : ∀ c ∈ letters, isAsciiLetter c = true) :
    columnNumber (letters.map Char.toUpper) = columnNumber letters := by
  rw [columnNumber, List.foldl_map]
  apply List.foldl_ext
  intro number c member
  rw [(toUpper_letter (ascii c member)).2]

theorem digitsValue_zeros {zeros : List Char} (none : ∀ c ∈ zeros, digitValue? c = some 0)
    (digits : List Char) :
    digitsValue (zeros ++ digits) = digitsValue digits := by
  induction zeros with
  | nil => rfl
  | cons c rest ih =>
    obtain ⟨here, others⟩ := List.forall_mem_cons.1 none
    have step : digitsValue (c :: (rest ++ digits)) = digitsValue (rest ++ digits) := by
      simp [digitsValue, here]
    exact step.trans (ih others)

theorem namedAddress_eq_ok {col row : Int} {text : String}
    (written : namedAddress col row = .ok text) :
    (0 ≤ col ∧ col < lastNamedColumn) ∧ text = addressText col row := by
  unfold namedAddress at written
  split at written
  next named =>
    cases written
    exact ⟨⟨by omega, by omega⟩, rfl⟩
  next => cases written

theorem namedAddress_injective {col row col' row' : Int} {text : String}
    (one : namedAddress col row = .ok text) (other : namedAddress col' row' = .ok text) :
    col = col' ∧ row = row' := by
  obtain ⟨bounds, rfl⟩ := namedAddress_eq_ok one
  obtain ⟨bounds', same⟩ := namedAddress_eq_ok other
  exact coordinates_of_addressText bounds.1 bounds'.1 same

/-- A spelling of a position: the letters of its address are of either case, zeros stand in front of
the row, dollar signs in front of the letters and of the digits, and white space around all. -/
structure Spelling (place : Position) where
  before : List Char
  fixedColumn : Bool
  letters : List Char
  fixedRow : Bool
  zeros : List Char
  digits : List Char
  after : List Char
  address : namedAddress place.col place.row = .ok
    (String.ofList (letters.map Char.toUpper ++ digits))
  letters_ascii : ∀ c ∈ letters, isAsciiLetter c = true
  digits_decimal : ∀ c ∈ digits, isDecimalDigit c = true
  zeros_none : ∀ c ∈ zeros, digitValue? c = some 0
  readable : zeros.length + digits.length ≤ maxDigits
  before_blank : ∀ c ∈ before, isBlank c = true
  after_blank : ∀ c ∈ after, isBlank c = true

namespace Spelling

variable {place : Position} (spelling : Spelling place)

def text : String :=
  String.ofList (spelling.before ++
    (dollar spelling.fixedColumn ++ (spelling.letters ++
      (dollar spelling.fixedRow ++ (spelling.zeros ++ spelling.digits)))) ++ spelling.after)

theorem parts :
    spelling.letters.map Char.toUpper = columnLetters (place.col + 1) ∧
      spelling.digits = rowDigits place.row := by
  have capitals : ∀ c ∈ spelling.letters.map Char.toUpper, isAsciiLetter c = true := by
    intro c member
    obtain ⟨d, listed, rfl⟩ := List.mem_map.1 member
    exact (toUpper_letter (spelling.letters_ascii d listed)).1
  have stop : ∀ c ∈ spelling.digits.head?, isAsciiLetter c = false := fun c first =>
    isAsciiLetter_eq_false_of_isDecimalDigit (spelling.digits_decimal c (List.mem_of_head? first))
  -- No digit is a letter, so the letters of the address end where its digits start, and the two
  -- splits agree.
  have written := congrArg String.toList (namedAddress_eq_ok spelling.address).2
  rw [String.toList_ofList] at written
  obtain ⟨letters, digits⟩ := addressText_parts place
  obtain ⟨letters', digits'⟩ := takeWhile_append capitals stop
  rw [← written] at letters digits
  exact ⟨letters'.symm.trans letters, digits'.symm.trans digits⟩

theorem number : columnNumber spelling.letters = place.col + 1 := by
  rw [← columnNumber_map_toUpper spelling.letters_ascii, spelling.parts.1,
    columnNumber_columnLetters]

theorem value : digitsValue (spelling.zeros ++ spelling.digits) = place.row + 1 := by
  rw [digitsValue_zeros spelling.zeros_none, spelling.parts.2, digitsValue_rowDigits]

def cell : WrittenCell where
  fixedColumn := spelling.fixedColumn
  letters := spelling.letters
  fixedRow := spelling.fixedRow
  digits := spelling.zeros ++ spelling.digits
  letters_ascii := spelling.letters_ascii
  letters_ne_nil := by
    intro none
    have number := spelling.number
    rw [none] at number
    cases number
  letters_length := by
    have named := (namedAddress_eq_ok spelling.address).1.2
    have length := congrArg List.length spelling.parts.1
    rw [List.length_map] at length
    rw [length]
    exact columnLetters_length_le (by omega)
  digits_decimal := by
    intro c member
    rcases List.mem_append.1 member with zero | digit
    · rw [isDecimalDigit, spelling.zeros_none c zero]
      rfl
    · exact spelling.digits_decimal c digit
  digits_ne_nil := by
    rw [spelling.parts.2]
    exact List.append_ne_nil_of_right_ne_nil _ (rowDigits_ne_nil place.row)

theorem position?_cell (inside : place.InGrid) : spelling.cell.position? = some place := by
  obtain ⟨col, row⟩ := inside
  have length : spelling.cell.digits.length ≤ maxDigits := by
    change (spelling.zeros ++ spelling.digits).length ≤ maxDigits
    rw [List.length_append]
    exact spelling.readable
  have number : columnNumber spelling.cell.letters = place.col + 1 := spelling.number
  have value : digitsValue spelling.cell.digits = place.row + 1 := spelling.value
  rw [WrittenCell.position?, number, value, if_pos ⟨length, col, by omega, row⟩]
  rfl

theorem read_text (inside : place.InGrid) : Position.read spelling.text = .ok place := by
  have read := spelling.cell.position_read_between spelling.before_blank spelling.after_blank
  apply Except.toOption_eq_some
  rw [show spelling.text = String.ofList (spelling.before ++ spelling.cell.text ++ spelling.after)
    from rfl, read, WrittenCell.toOption_position, spelling.position?_cell inside]

end Spelling

/-- A position in the grid is read from all its spellings.  What is read from any text is in the
grid, has an address, and is read from this again; and no two positions have the same address,
within the grid or without. -/
theorem Position.read_and_written :
    (∀ place : Position, place.InGrid → ∀ spelling : Spelling place, Position.read spelling.text =
      .ok place) ∧ (∀ text place, Position.read text = .ok place →
        place.InGrid ∧ ∃ address, namedAddress place.col place.row = .ok address ∧
          Position.read address = .ok place) ∧
      ∀ (col row col' row' : Int) (text : String),
        namedAddress col row = .ok text → namedAddress col' row' = .ok text → col = col' ∧
          row = row' := by
  refine ⟨fun place inside spelling => spelling.read_text inside, fun text place read => ?_,
    fun col row col' row' text => namedAddress_injective⟩
  have inside := Position.inGrid_of_read read
  exact ⟨inside, _, namedAddress_of_le place.row inside.named, Position.read_addressText inside⟩

/-- The last cell of a sheet in small and capital letters, with dollar signs, zeros of two scripts
and white space. -/
def Spelling.last : Spelling ⟨16383, 1048575⟩ where
  before := ['\t', ' ']
  fixedColumn := true
  letters := ['x', 'F', 'd']
  fixedRow := true
  zeros := ['0', Char.ofNat 0x660]
  digits := ['1', '0', '4', '8', '5', '7', '6']
  after := ['\n']
  address := (namedAddress_of_le 1048575 (by decide)).trans (congrArg Except.ok (by decide +kernel))
  letters_ascii := List.all_eq_true.1 (by decide)
  digits_decimal := List.all_eq_true.1 (by decide)
  zeros_none := List.all_iff_forall_prop.1 (by decide +kernel)
  readable := by decide
  before_blank := List.all_eq_true.1 (by decide)
  after_blank := List.all_eq_true.1 (by decide)

/-- The last cell is read, and the address of the next column is another one. -/
theorem Position.read_and_written_last :
    Position.InGrid ⟨16383, 1048575⟩ ∧
      Position.read Spelling.last.text = .ok ⟨16383, 1048575⟩ ∧
      (∃ address, namedAddress 16383 1048575 = .ok address ∧
        Position.read address = .ok ⟨16383, 1048575⟩) ∧
      namedAddress 16384 1048575 ≠ namedAddress 16383 1048575 := by
  obtain ⟨spelled, written, apart⟩ := Position.read_and_written
  have inside : Position.InGrid ⟨16383, 1048575⟩ := by decide
  have read := spelled _ inside Spelling.last
  obtain ⟨address, named, back⟩ := (written _ _ read).2
  refine ⟨inside, read, ⟨address, named, back⟩, fun same => ?_⟩
  have cols := (apart 16384 1048575 16383 1048575 address (same.trans named) named).1
  omega

end FormulaTrace
