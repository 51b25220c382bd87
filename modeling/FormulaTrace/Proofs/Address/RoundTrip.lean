import FormulaTrace.Proofs.Formula.Printed
import FormulaTrace.Trace.Request

/-! Canonical addresses and the cells they are read back as.
Every way to read an address gives back the cell that the address was written for, whatever the
sheet is called, with two exceptions: there is no sheet without a name, and a line break behind a
bare name is written without quotes and then taken for white space. -/
namespace FormulaTrace
open Text Formula

theorem isBlank_eq_false_of_isNamePart {c : Char} (h : isNamePart c = true) :
    isBlank c = false := by
  simp only [isNamePart, Char.isAlphanum, Bool.or_eq_true, decide_eq_true_eq] at h
  rcases h with ((letter | digit) | rfl) | rfl
  · exact isBlank_eq_false_of_isAsciiLetter letter
  · exact isBlank_eq_false_of_isDecimalDigit (isDecimalDigit_of_isDigit digit)
  · decide
  · decide

theorem endsInk_of_isBareName {name : List Char} (bare : isBareName name = true) :
    EndsInk name := by
  apply endsInk_of_noBlank
  intro c member
  have part : isNamePart c = true := by
    cases name with
    | nil => cases member
    | cons first rest =>
      obtain ⟨start, parts⟩ := Bool.and_eq_true_iff.1 bare
      rcases List.mem_cons.1 member with rfl | later
      · exact isNamePart_of_isNameStart start
      · exact List.all_eq_true.1 parts c later
  exact isBlank_eq_false_of_isNamePart part

theorem standsBare_break {name : List Char} (bare : isBareName name = true)
    (noCell : CellToken.ofPlain? name = none) :
    standsBare (name ++ ['\n']) = true := by
  have body : dropFinalBreak (name ++ ['\n']) = name := by simp [dropFinalBreak]
  simp [standsBare, body, bare, noCell]

/-- A name is read as it is, unless it is a bare name with a line break behind it. -/
theorem readSheet_eq_iff {sheet : String} :
    readSheet sheet = sheet ↔
      ¬ ∃ name, isBareName name = true ∧ CellToken.ofPlain? name = none ∧
        sheet.toList = name ++ ['\n'] := by
  constructor
  · rintro same ⟨name, bare, noCell, whole⟩
    have stands : standsBare sheet.toList = true := by
      rw [whole]
      exact standsBare_break bare noCell
    rw [readSheet, if_pos stands] at same
    -- What is read back has no white space at its ends, and a line break is white space.
    have ends := endsInk_trim sheet.toList
    rw [← String.toList_ofList (l := trim sheet.toList), same, whole] at ends
    exact absurd (ends.2 '\n' (by simp)) (by decide)
  · intro unbroken
    by_cases bare : standsBare sheet.toList = true
    · rcases standsBare_cases bare with ⟨_, name⟩ | ⟨name, whole, plain, noCell⟩
      · exact readSheet_eq (endsInk_of_isBareName name)
      · exact absurd ⟨name, plain, noCell, whole⟩ unbroken
    · exact if_neg bare

theorem separate_nameless {place : String} (written : IsPlace place) :
    (separate (qualify "" place)).1 = none := by
  have ends := endsInk_qualify "" written
  have text : (qualify "" place).toList = '\'' :: '\'' :: '!' :: place.toList := by
    rw [qualify_toList, spellSheet_toList_of_not_bare (by decide)]
    rfl
  have empty : readEnclosed '\'' ('\'' :: '!' :: place.toList) = some
      ([], '!' :: place.toList) := by
    simp [readEnclosed]
  rw [text] at ends
  unfold separate
  simp [text, trim_eq_self ends, empty]

namespace Cell

variable {cell : Cell}

theorem separate_address (named : cell.sheet ≠ "") :
    separate cell.address = (some (readSheet cell.sheet), addressText cell.col cell.row) :=
  separate_qualify named (isPlace_addressText cell.col cell.row)

theorem coversSeveral_address (named : cell.sheet ≠ "") : coversSeveral cell.address = false := by
  have areas : areaTexts cell.address = [cell.address] :=
    areaTexts_qualify cell.sheet (isPlace_addressText cell.col cell.row)
  simp [coversSeveral, areas, separate_address named, colon_notMem_addressText]

theorem read?_own_address (inside : Position.InGrid ⟨cell.col, cell.row⟩) (named : cell.sheet ≠ "")
    (same : readSheet cell.sheet = cell.sheet) (home : String) :
    read? cell.address home = some cell := by
  have read := read?_qualify_addressText named cell.col cell.row home
  have found := position?_addressText inside
  dsimp only at found
  rw [found, same] at read
  exact read

theorem singleCell_address (cell : Cell) (inside : Position.InGrid ⟨cell.col, cell.row⟩)
    (named : cell.sheet ≠ "")
    (same : readSheet cell.sheet = cell.sheet) : singleCell cell.address "" = .ok cell.address := by
  have parted : (separate cell.address).1.getD "" ≠ "" := by
    rwa [separate_address named, Option.getD_some, same]
  simp [singleCell, coversSeveral_address named, parted, canonical?,
    read?_own_address inside named same ""]

/-- The address of a cell is taken apart into the sheet and the place, read as the cell, known by
itself and taken for a single cell, if and only if the sheet has a name that is not a bare one with
a line break behind it. -/
theorem address_round_trip_iff (inside : Position.InGrid ⟨cell.col, cell.row⟩) (home : String) :
    (separate cell.address = (some cell.sheet, addressText cell.col cell.row) ∧
      read? cell.address home = some cell ∧ canonical? cell.address home = some cell.address ∧
      singleCell cell.address "" = .ok cell.address) ↔
    cell.sheet ≠ "" ∧
      ¬ ∃ name, isBareName name = true ∧ CellToken.ofPlain? name = none ∧
        cell.sheet.toList = name ++ ['\n'] := by
  rw [← readSheet_eq_iff]
  constructor
  · rintro ⟨parted, _⟩
    have named : cell.sheet ≠ "" := by
      intro empty
      have nameless := separate_nameless (isPlace_addressText cell.col cell.row)
      rw [← empty, show qualify cell.sheet _ = cell.address from rfl, parted] at nameless
      cases nameless
    rw [separate_address named] at parted
    exact ⟨named, Option.some.inj (congrArg Prod.fst parted)⟩
  · rintro ⟨named, same⟩
    have parted := separate_address named
    have read := read?_own_address inside named same
    rw [same] at parted
    refine ⟨parted, read home, ?_, singleCell_address cell inside named same⟩
    rw [canonical?, read]
    rfl

/-- A name with what parts areas, corners, sheets and names in addresses, and one with a line break
at its end. -/
theorem address_round_trip_iff_crowded :
    separate (⟨"It's, A1:B2!", 701, 9⟩ : Cell).address = (some "It's, A1:B2!", addressText 701 9) ∧
      singleCell (⟨"It's, A1:B2!", 701, 9⟩ : Cell).address "" = .ok
        (⟨"It's, A1:B2!", 701, 9⟩ : Cell).address ∧
      separate (⟨"Data\n", 701, 9⟩ : Cell).address ≠ (some "Data\n", addressText 701 9) := by
  have inside : Position.InGrid
    ⟨(⟨"It's, A1:B2!", 701, 9⟩ : Cell).col, (⟨"It's, A1:B2!", 701, 9⟩ : Cell).row⟩ := by decide
  have crowded := (address_round_trip_iff inside "Data").2 ⟨by decide, ?_⟩
  · exact ⟨crowded.1, crowded.2.2.2, by decide +kernel⟩
  · rintro ⟨name, _, _, whole⟩
    have last := congrArg List.getLast? whole
    simp at last

end Cell

end FormulaTrace
