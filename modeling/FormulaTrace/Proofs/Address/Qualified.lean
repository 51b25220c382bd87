import FormulaTrace.Address.Reading
import FormulaTrace.Formula.Reference
import FormulaTrace.Proofs.Address.Token

/-! Qualified addresses as they are written, and what is read from them. A place on a sheet is
written with the sheet in front.  Whatever the sheet is called, the place is read back as it was;
the sheet is, if no white space stands at the ends of its name. -/
namespace FormulaTrace
open Text

def isPlaceCharacter (c : Char) : Bool := isAsciiLetter c || isDecimalDigit c || c = ':'

/-- A place on a sheet: a cell or two corners, as written by this library. -/
structure IsPlace (place : String) : Prop where
  ne_nil : place.toList ≠ []
  plain : ∀ c ∈ place.toList, isPlaceCharacter c = true

theorem isPlaceCharacter_cases {c : Char} (h : isPlaceCharacter c = true) :
    isAsciiLetter c = true ∨ isDecimalDigit c = true ∨ c = ':' := by
  simpa only [isPlaceCharacter, Bool.or_eq_true, decide_eq_true_eq, or_assoc] using h

theorem isBlank_eq_false_of_isPlaceCharacter {c : Char} (h : isPlaceCharacter c = true) :
    isBlank c = false := by
  rcases isPlaceCharacter_cases h with letter | digit | rfl
  · exact isBlank_eq_false_of_isAsciiLetter letter
  · exact isBlank_eq_false_of_isDecimalDigit digit
  · decide

theorem endsInk_of_noBlank {text : List Char} (h : ∀ c ∈ text, isBlank c = false) : EndsInk text :=
  ⟨fun c first => h c (List.mem_of_head? first), fun c last => h c (List.mem_of_getLast? last)⟩

namespace IsPlace

variable {place : String}

theorem endsInk (h : IsPlace place) : EndsInk place.toList :=
  endsInk_of_noBlank fun c member => isBlank_eq_false_of_isPlaceCharacter (h.plain c member)

theorem notMem (h : IsPlace place) {c : Char} (other : isPlaceCharacter c = false) :
    c ∉ place.toList :=
  notMem_of_class h.plain other

theorem append (h : IsPlace place) {more : String}
    (plain : ∀ c ∈ more.toList, isPlaceCharacter c = true) :
    IsPlace (place ++ more) where
  ne_nil := by
    rw [String.toList_append]
    exact List.append_ne_nil_of_left_ne_nil h.ne_nil _
  plain := by
    intro c member
    rw [String.toList_append] at member
    rcases List.mem_append.1 member with before | after
    · exact h.plain c before
    · exact plain c after

end IsPlace

theorem isPlaceCharacter_of_mem_addressText {col row : Nat} {c : Char}
    (member : c ∈ (addressText col row).toList) : isAsciiLetter c = true ∨
      isDecimalDigit c = true := by
  rw [addressText_toList] at member
  rcases List.mem_append.1 member with letter | digit
  · exact .inl (isAsciiLetter_of_mem_columnLetters letter)
  · exact .inr (isDecimalDigit_of_mem_rowDigits digit)

theorem isPlace_addressText (col row : Nat) : IsPlace (addressText col row) where
  ne_nil := by
    rw [addressText_toList]
    exact List.append_ne_nil_of_right_ne_nil _ (rowDigits_ne_nil row)
  plain := by
    intro c member
    simp only [isPlaceCharacter, Bool.or_eq_true]
    exact .inl (isPlaceCharacter_of_mem_addressText member)

theorem colon_notMem_addressText (col row : Nat) : ':' ∉ (addressText col row).toList := by
  intro member
  rcases isPlaceCharacter_of_mem_addressText member with letter | digit
  · exact absurd letter (by decide)
  · exact absurd digit (by decide)

theorem isPlace_corners (left top right bottom : Nat) :
    IsPlace (addressText left top ++ ":" ++ addressText right bottom) := by
  refine ((isPlace_addressText left top).append ?_).append (isPlace_addressText right bottom).plain
  exact List.all_eq_true.1 (by decide)

/-! ### Sheet names -/

theorem spellSheet_toList_of_bare {sheet : String} (bare : standsBare sheet.toList = true) :
    spellSheet sheet = sheet := if_pos bare

theorem spellSheet_toList_of_not_bare {sheet : String} (bare : ¬ standsBare sheet.toList = true) :
    (spellSheet sheet).toList = '\'' :: (doubleMarks '\'' sheet.toList ++ ['\'']) := by
  rw [spellSheet, if_neg bare, String.toList_ofList, enclose]

theorem exists_nameStart {name : List Char} (bare : standsBare name = true) :
    ∃ c rest, name = c :: rest ∧ isNameStart c = true := by
  have body : isBareName (dropFinalBreak name) = true := (Bool.and_eq_true_iff.1 bare).1
  cases name with
  | nil => cases body
  | cons c rest =>
    refine ⟨c, rest, rfl, ?_⟩
    unfold dropFinalBreak at body
    split at body
    · cases rest with
      | nil => cases body
      | cons d more => exact (Bool.and_eq_true_iff.1 body).1
    · exact (Bool.and_eq_true_iff.1 body).1

theorem isBlank_eq_false_of_isNameStart {c : Char} (h : isNameStart c = true) :
    isBlank c = false := by
  simp only [isNameStart, Bool.or_eq_true, decide_eq_true_eq] at h
  rcases h with letter | rfl
  · exact isBlank_eq_false_of_isAsciiLetter letter
  · decide

theorem doubleMarks_injective {mark : Char} {first second : List Char}
    (same : doubleMarks mark first = doubleMarks mark second) : first = second := by
  have read (body : List Char) : readEnclosed mark (doubleMarks mark body ++ [mark]) = some
      (body, []) :=
    readEnclosed_doubleMarks mark body nofun
  have left := read first
  have right := read second
  rw [same, right] at left
  exact (congrArg Prod.fst (Option.some.inj left)).symm

theorem spellSheet_injective {first second : String} (same : spellSheet first = spellSheet second) :
    first = second := by
  by_cases bare : standsBare first.toList = true
  · by_cases other : standsBare second.toList = true
    · rwa [spellSheet_toList_of_bare bare, spellSheet_toList_of_bare other] at same
    · obtain ⟨c, rest, whole, start⟩ := exists_nameStart bare
      have quoted := congrArg String.toList same
      rw [spellSheet_toList_of_bare bare, spellSheet_toList_of_not_bare other, whole] at quoted
      rw [(List.cons.inj quoted).1] at start
      cases start
  · by_cases other : standsBare second.toList = true
    · obtain ⟨c, rest, whole, start⟩ := exists_nameStart other
      have quoted := congrArg String.toList same
      rw [spellSheet_toList_of_bare other, spellSheet_toList_of_not_bare bare, whole] at quoted
      rw [← (List.cons.inj quoted).1] at start
      cases start
    · have quoted := congrArg String.toList same
      rw [spellSheet_toList_of_not_bare bare, spellSheet_toList_of_not_bare other] at quoted
      have bodies := List.append_cancel_right (List.cons.inj quoted).2
      exact String.toList_inj.1 (doubleMarks_injective bodies)

theorem qualify_toList (sheet place : String) :
    (qualify sheet place).toList = (spellSheet sheet).toList ++ '!' :: place.toList := by
  rw [qualify, String.toList_append, String.toList_append, List.append_assoc]
  rfl

theorem qualify_injective {sheet other place spot : String} (first : IsPlace place)
    (second : IsPlace spot) (same : qualify sheet place = qualify other spot) :
    sheet = other ∧ place = spot := by
  have noMark : '!' ∉ place.toList := first.notMem (by decide)
  have noOther : '!' ∉ spot.toList := second.notMem (by decide)
  have whole := congrArg (fun text => breakLast '!' text.toList) same
  rw [qualify_toList, qualify_toList, breakLast_append _ noMark, breakLast_append _ noOther,
    Prod.mk.injEq, Option.some.injEq] at whole
  exact ⟨spellSheet_injective (String.toList_inj.1 whole.1), String.toList_inj.1 whole.2⟩

/-- The name that is read where a sheet was written: a bare name loses the white space at its
ends. -/
def readSheet (sheet : String) : String :=
  if standsBare sheet.toList then String.ofList (trim sheet.toList) else sheet

theorem readSheet_eq {sheet : String} (ends : EndsInk sheet.toList) : readSheet sheet = sheet := by
  unfold readSheet
  split
  · rw [trim_eq_self ends, String.ofList_toList]
  · rfl

theorem endsInk_append {text place : List Char} (first : ∀ c ∈ text.head?, isBlank c = false)
    (filled : text ≠ []) (h : EndsInk place) (ne_nil : place ≠ []) :
    EndsInk (text ++ '!' :: place) := by
  constructor
  · intro c member
    rw [List.head?_append_of_ne_nil _ filled] at member
    exact first c member
  · intro c member
    rw [List.getLast?_append, List.getLast?_cons,
      List.getLast?_eq_getLast_of_ne_nil ne_nil] at member
    exact h.2 c (by rw [List.getLast?_eq_getLast_of_ne_nil ne_nil]; exact member)

theorem trim_ne_nil {c : Char} {rest : List Char} (ink : isBlank c = false) :
    trim (c :: rest) ≠ [] := by
  intro empty
  have start : trimStart (c :: rest) = c :: rest := by
    rw [trimStart, List.dropWhile_cons_of_neg (by rw [ink]; exact Bool.false_ne_true)]
  rw [trim, start, trimEnd, List.reverse_eq_nil_iff, List.dropWhile_eq_nil_iff] at empty
  have blank := empty c (by simp)
  rw [ink] at blank
  cases blank

theorem exists_spelledStart (sheet : String) :
    ∃ c rest, (spellSheet sheet).toList = c :: rest ∧ isBlank c = false := by
  by_cases bare : standsBare sheet.toList = true
  · obtain ⟨c, rest, whole, start⟩ := exists_nameStart bare
    rw [spellSheet_toList_of_bare bare]
    exact ⟨c, rest, whole, isBlank_eq_false_of_isNameStart start⟩
  · rw [spellSheet_toList_of_not_bare bare]
    exact ⟨'\'', _, rfl, by decide⟩

theorem endsInk_qualify (sheet : String) {place : String} (written : IsPlace place) :
    EndsInk (qualify sheet place).toList := by
  obtain ⟨c, rest, whole, ink⟩ := exists_spelledStart sheet
  rw [qualify_toList, whole]
  refine endsInk_append ?_ (List.cons_ne_nil c rest) written.endsInk written.ne_nil
  rintro d ⟨⟩
  exact ink

theorem separate_marked {address : String} {c : Char} {name after : List Char}
    (text : address.toList = c :: name ++ '!' :: after) (ink : isBlank c = false) (quote : c ≠ '\'')
    (mark : '!' ∉ after)
    (filled : after ≠ []) (ends : EndsInk after) :
    separate address = (some (String.ofList (trim (c :: name))), String.ofList after) := by
  have whole : EndsInk (c :: name ++ '!' :: after) := by
    refine endsInk_append ?_ (List.cons_ne_nil c name) ends filled
    rintro d ⟨⟩
    exact ink
  have parts := breakLast_append (c :: name) mark
  unfold separate
  simp only [text, trim_eq_self whole]
  split
  next rest same => exact absurd (List.cons.inj same).1 quote
  next =>
    rw [parts]
    simp only [if_neg (trim_ne_nil ink), trim_eq_self ends]

theorem separate_enclosed {address : String} {name after : List Char}
    (text : address.toList = enclose '\'' name ++ '!' :: after) (named : name ≠ [])
    (line : '\n' ∉ after)
    (filled : after ≠ []) (ends : EndsInk after) :
    separate address = (some (String.ofList name), String.ofList after) := by
  have whole : EndsInk (enclose '\'' name ++ '!' :: after) := by
    refine endsInk_append ?_ (List.cons_ne_nil _ _) ends filled
    rintro d ⟨⟩
    decide
  have opened : enclose '\'' name ++ '!' :: after =
      '\'' :: (doubleMarks '\'' name ++ '\'' :: '!' :: after) := by
    simp [enclose]
  have read : readEnclosed '\'' (doubleMarks '\'' name ++ '\'' :: '!' :: after) = some
      (name, '!' :: after) :=
    readEnclosed_doubleMarks '\'' name (by simp)
  rw [opened] at text whole
  unfold separate
  simp only [text, trim_eq_self whole, read, if_pos (And.intro named line), trim_eq_self ends]

theorem separate_qualify_of_bare {sheet place : String} (bare : standsBare sheet.toList = true)
    (written : IsPlace place) :
    separate (qualify sheet place) = (some (readSheet sheet), place) := by
  obtain ⟨c, rest, whole, start⟩ := exists_nameStart bare
  have text : (qualify sheet place).toList = c :: rest ++ '!' :: place.toList := by
    rw [qualify_toList, spellSheet_toList_of_bare bare, whole]
  have parts := separate_marked text (isBlank_eq_false_of_isNameStart start)
    (ne_of_class start (by decide)) (written.notMem (by decide)) written.ne_nil written.endsInk
  rw [parts, readSheet, if_pos bare, whole, String.ofList_toList]

theorem separate_qualify_of_quoted {sheet place : String} (named : sheet ≠ "")
    (bare : ¬ standsBare sheet.toList = true) (written : IsPlace place) :
    separate (qualify sheet place) = (some (readSheet sheet), place) := by
  have text : (qualify sheet place).toList = enclose '\'' sheet.toList ++ '!' :: place.toList := by
    rw [qualify_toList, spellSheet_toList_of_not_bare bare]
    rfl
  have filled : sheet.toList ≠ [] := fun empty => named (String.toList_eq_nil_iff.1 empty)
  rw [separate_enclosed text filled (written.notMem (by decide)) written.ne_nil written.endsInk,
    readSheet, if_neg bare, String.ofList_toList, String.ofList_toList]

theorem separate_qualify {sheet place : String} (named : sheet ≠ "") (written : IsPlace place) :
    separate (qualify sheet place) = (some (readSheet sheet), place) := by
  by_cases bare : standsBare sheet.toList = true
  · exact separate_qualify_of_bare bare written
  · exact separate_qualify_of_quoted named bare written

theorem readSheet_ne_empty {sheet : String} (named : sheet ≠ "") : readSheet sheet ≠ "" := by
  unfold readSheet
  split
  next bare =>
    obtain ⟨c, rest, whole, start⟩ := exists_nameStart bare
    intro empty
    have trimmed : trim sheet.toList = [] := by simpa using congrArg String.toList empty
    rw [whole] at trimmed
    exact trim_ne_nil (isBlank_eq_false_of_isNameStart start) trimmed
  next => exact named

/-! ### Reading the first cell back -/

theorem scan_quotedName_append (before : Option Char) {text : List Char} (h : '\'' ∉ text)
    (rest : List Char) :
    ∃ last, Piece.scan quotedName 0 before (text ++ rest) =
      text.map Piece.plain ++ Piece.scan quotedName 0 last rest := by
  induction text generalizing before with
  | nil => exact ⟨before, rfl⟩
  | cons c more ih =>
    obtain ⟨other, others⟩ := List.ne_and_not_mem_of_not_mem_cons h
    have none : quotedName before (c :: (more ++ rest)) = none := by
      unfold quotedName
      split
      next same => exact absurd (List.cons.inj same).1.symm other
      next => rfl
    obtain ⟨last, read⟩ := ih (some c) others
    exact ⟨last, by simp [Piece.scan_plain none, read]⟩

theorem scan_quotedName (before : Option Char) {text : List Char} (h : '\'' ∉ text) :
    Piece.scan quotedName 0 before text = text.map Piece.plain := by
  obtain ⟨last, read⟩ := scan_quotedName_append before h []
  simpa [Piece.scan] using read

def Text.Piece.spelled : Piece (List Char) → List Char
  | .plain c => [c]
  | .found name => name

theorem partAtCommas_solid {pieces : List (Piece (List Char))} (h : .plain ',' ∉ pieces) :
    partAtCommas pieces = [pieces.flatMap Piece.spelled] := by
  induction pieces with
  | nil => rfl
  | cons piece more ih =>
    obtain ⟨other, others⟩ := List.ne_and_not_mem_of_not_mem_cons h
    cases piece with
    | plain c =>
      have comma : c ≠ ',' := fun same => other (congrArg Piece.plain same.symm)
      simp [partAtCommas, comma, ih others, Piece.spelled]
    | found name => simp [partAtCommas, ih others, Piece.spelled]

theorem partAtCommas_solid_append {pieces : List (Piece (List Char))} (h : .plain ',' ∉ pieces)
    (rest : List (Piece (List Char))) :
    partAtCommas (pieces ++ .plain ',' :: rest) = pieces.flatMap Piece.spelled :: partAtCommas
      rest := by
  induction pieces with
  | nil => simp [partAtCommas]
  | cons piece more ih =>
    obtain ⟨other, others⟩ := List.ne_and_not_mem_of_not_mem_cons h
    cases piece with
    | plain c =>
      have comma : c ≠ ',' := fun same => other (congrArg Piece.plain same.symm)
      simp [partAtCommas, comma, ih others, Piece.spelled]
    | found name => simp [partAtCommas, ih others, Piece.spelled]

theorem comma_notMem_plain {text : List Char} (h : ',' ∉ text) :
    (.plain ',' : Piece (List Char)) ∉ text.map Piece.plain := by
  simpa using h

theorem spelled_plain (text : List Char) : (text.map Piece.plain).flatMap Piece.spelled = text := by
  simp [List.flatMap_map, Piece.spelled]

theorem partAtCommas_plain {text : List Char} (h : ',' ∉ text) :
    partAtCommas (text.map Piece.plain) = [text] := by
  rw [partAtCommas_solid (comma_notMem_plain h), spelled_plain]

theorem areaTexts_place {place : String} (written : IsPlace place) : areaTexts place = [place] := by
  unfold areaTexts pieces
  rw [scan_quotedName _ (written.notMem (by decide)),
    partAtCommas_plain (written.notMem (by decide)),
    List.map_singleton, trim_eq_self written.endsInk,
    List.filter_cons_of_pos (by simpa using written.ne_nil)]
  simp

theorem read?_qualify {sheet place : String} (named : sheet ≠ "") (written : IsPlace place)
    (home : String) :
    Cell.read? (qualify sheet place) home =
      (position? (breakFirst ':' place.toList).1).map fun spot =>
        ⟨readSheet sheet, spot.col, spot.row⟩ := by
  unfold Cell.read?
  rw [separate_qualify named written]
  simp only [Option.getD_some, if_neg (readSheet_ne_empty named), areaTexts_place written,
    List.head?_cons]
  rw [Option.bind_eq_bind, Option.bind_some, Option.map_eq_bind]
  rfl

theorem read?_qualify_addressText {sheet : String} (named : sheet ≠ "") (col row : Nat)
    (home : String) :
    Cell.read? (qualify sheet (addressText col row)) home =
      (position? (addressText col row).toList).map fun spot =>
        ⟨readSheet sheet, spot.col, spot.row⟩ := by
  rw [read?_qualify named (isPlace_addressText col row),
    breakFirst_of_not_mem (colon_notMem_addressText col row)]

theorem read?_address {sheet : String} (named : sheet ≠ "") (ends : EndsInk sheet.toList)
    {place : Position} (inside : place.InGrid) (home : String) :
    Cell.read? (qualify sheet (addressText place.col place.row)) home = some
      ⟨sheet, place.col, place.row⟩ := by
  rw [read?_qualify_addressText named, readSheet_eq ends, position?, String.ofList_toList,
    Position.read_addressText inside]
  rfl

theorem read?_corners {sheet : String} (named : sheet ≠ "") (left top right bottom : Nat)
    (home : String) :
    Cell.read? (qualify sheet (addressText left top ++ ":" ++ addressText right bottom)) home =
      Cell.read? (qualify sheet (addressText left top)) home := by
  have parts : (addressText left top ++ ":" ++ addressText right bottom).toList =
      (addressText left top).toList ++ ':' :: (addressText right bottom).toList := by
    rw [String.toList_append, String.toList_append, List.append_assoc]
    rfl
  rw [read?_qualify named (isPlace_corners left top right bottom), parts,
    breakFirst_append _ (colon_notMem_addressText left top), read?_qualify_addressText named]

end FormulaTrace
