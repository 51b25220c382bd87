import FormulaTrace.Proofs.Address.Lists
import FormulaTrace.Proofs.Formula.Areas
import FormulaTrace.Proofs.Formula.Exactness

/-! Sums of printed areas, and what is read from them.
An area is read back with its sheet and in its place, except in two cases.  Double quotes in the
names of sheets are taken for string literals, and what they enclose is lost; and a line break at
the end of a bare name parts the name from its exclamation mark. -/
namespace FormulaTrace
open Text Formula

/-- A name that a sheet may have. -/
structure LegalTitle (title : String) : Prop where
  ne_empty : title ≠ ""
  allowed : ∀ c ∈ title.toList, c ∉ "\\/?*:[]".toList

instance (title : String) : Decidable (LegalTitle title) :=
  decidable_of_iff (title ≠ "" ∧ (title.toList.all fun c => !"\\/?*:[]".toList.contains c) = true)
    <| by
    constructor
    · rintro ⟨named, free⟩
      exact ⟨named, fun c inside => by simpa using List.all_eq_true.1 free c inside⟩
    · intro legal
      exact ⟨legal.ne_empty, List.all_eq_true.2
        fun c inside => by simpa using legal.allowed c inside⟩

namespace Area

/-- An area within the grid, on a sheet with a legal name. -/
structure Legal (area : Area) : Prop where
  title : LegalTitle area.sheet
  left : 0 ≤ area.left
  top : 0 ≤ area.top
  right : area.right < maxColumns
  bottom : area.bottom < maxRows

instance (area : Area) : Decidable area.Legal :=
  decidable_of_iff
    (LegalTitle area.sheet ∧ 0 ≤ area.left ∧ 0 ≤ area.top ∧ area.right < maxColumns ∧
      area.bottom < maxRows)
    ⟨fun ⟨title, left, top, right, bottom⟩ => ⟨title, left, top, right, bottom⟩,
      fun h => ⟨h.title, h.left, h.top, h.right, h.bottom⟩⟩

def firstPosition (area : Area) : Position := ⟨area.left.toNat, area.top.toNat⟩

def lastPosition (area : Area) : Position := ⟨area.right.toNat, area.bottom.toNat⟩

def place (area : Area) : String :=
  if area.isSingle then area.anchor else area.anchor ++ ":" ++ addressText area.right area.bottom

theorem text_eq (area : Area) : area.text = qualify area.sheet area.place := by
  unfold text place
  split <;> rfl

variable {area : Area}

theorem ofCorners_ordered (area : Area) (sheet : String) :
    ofCorners sheet area.left area.top area.right area.bottom = area.onSheet sheet := by
  have across := area.left_le_right
  have down := area.top_le_bottom
  simp only [ofCorners, onSheet, mk.injEq, true_and]
  omega

theorem isSingle_iff : area.isSingle = true ↔ area.left = area.right ∧ area.top = area.bottom := by
  simp [isSingle]

namespace InGrid

theorem corners (inside : area.InGrid) :
    (area.left = area.firstPosition.col ∧ area.top = area.firstPosition.row) ∧
      area.right = area.lastPosition.col ∧ area.bottom = area.lastPosition.row := by
  have across := area.left_le_right
  have down := area.top_le_bottom
  have left := inside.left
  have top := inside.top
  simp only [firstPosition, lastPosition]
  omega

theorem positions (inside : area.InGrid) :
    area.firstPosition.InGrid ∧ area.lastPosition.InGrid := by
  have across := area.left_le_right
  have down := area.top_le_bottom
  have left := inside.left
  have top := inside.top
  have right := inside.right
  have bottom := inside.bottom
  simp only [Position.InGrid, firstPosition, lastPosition]
  omega

theorem isPlace (inside : area.InGrid) : IsPlace area.place := by
  obtain ⟨⟨left, top⟩, right, bottom⟩ := inside.corners
  unfold place anchor
  rw [left, top, right, bottom]
  split
  · exact isPlace_addressText _ _
  · exact isPlace_corners _ _ _ _

end InGrid

namespace Legal

theorem within (legal : area.Legal) : area.InGrid :=
  ⟨legal.left, legal.right, legal.top, legal.bottom⟩

theorem corners (legal : area.Legal) :
    (area.left = area.firstPosition.col ∧ area.top = area.firstPosition.row) ∧
      area.right = area.lastPosition.col ∧ area.bottom = area.lastPosition.row :=
        legal.within.corners

theorem inGrid (legal : area.Legal) : area.firstPosition.InGrid ∧ area.lastPosition.InGrid :=
  legal.within.positions

theorem isPlace (legal : area.Legal) : IsPlace area.place := legal.within.isPlace

theorem onSheet (legal : area.Legal) {title : String} (named : LegalTitle title) :
    (area.onSheet title).Legal :=
  ⟨named, legal.left, legal.top, legal.right, legal.bottom⟩

def written (legal : area.Legal) : WrittenPlace where
  start := .ofPosition area.firstPosition legal.inGrid.1.named
  stop := if area.isSingle then none else some (.ofPosition area.lastPosition legal.inGrid.2.named)

end Legal

end Area

theorem WrittenCell.ofPosition_toList (place : Position) (named : place.col < lastNamedColumn) :
    (ofPosition place named).text = (addressText place.col place.row).toList := by
  rw [← ofPosition_text place named, String.toList_ofList]

theorem WrittenCell.position?_ofPosition {place : Position} (inside : place.InGrid) :
    (ofPosition place inside.named).position? = some place := by
  have read := Position.read_addressText inside
  rw [← ofPosition_text place inside.named, position_read] at read
  rw [← toOption_position, read]
  rfl

namespace Formula

variable {area : Area}

theorem spell_written (legal : area.Legal) : legal.written.spell = area.place.toList := by
  obtain ⟨⟨left, top⟩, right, bottom⟩ := legal.corners
  unfold Area.place Area.anchor Area.Legal.written WrittenPlace.spell
  rw [left, top, right, bottom]
  split <;> simp [WrittenCell.ofPosition_toList]

theorem area?_positions {place : WrittenPlace} {first last : Position}
    (start : place.start.position? = some first)
    (stop : (place.stop.getD place.start).position? = some last) (sheet : String) :
    place.area? sheet = some (.ofCorners sheet first.col first.row last.col last.row) := by
  unfold WrittenPlace.area?
  rw [start, stop]
  rfl

theorem area?_written (legal : area.Legal) (sheet : String) :
    legal.written.area? sheet = some (area.onSheet sheet) := by
  have start : legal.written.start.position? = some area.firstPosition :=
    WrittenCell.position?_ofPosition legal.inGrid.1
  have stop : (legal.written.stop.getD legal.written.start).position? = some area.lastPosition := by
    unfold Area.Legal.written
    dsimp only
    split
    next single =>
      obtain ⟨col, row⟩ := Area.isSingle_iff.1 single
      have same : area.lastPosition = area.firstPosition := by
        simp only [Area.lastPosition, Area.firstPosition, col, row]
      rw [Option.getD_none, same]
      exact start
    next => exact WrittenCell.position?_ofPosition legal.inGrid.2
  obtain ⟨⟨left, top⟩, right, bottom⟩ := legal.corners
  rw [area?_positions start stop, ← left, ← top, ← right, ← bottom, Area.ofCorners_ordered]

def sumFormula (areas : List Area) : String := "=" ++ "+".intercalate (areas.map Area.text)

def further (areas : List Area) : List Char := areas.flatMap fun area => '+' :: area.text.toList

def printed : List Area → List Char
  | [] => []
  | area :: rest => area.text.toList ++ further rest

theorem further_cons (area : Area) (rest : List Area) :
    further (area :: rest) = '+' :: printed (area :: rest) := rfl

theorem sumFormula_toList (areas : List Area) :
    (sumFormula areas).toList = '=' :: printed areas := by
  unfold sumFormula
  rw [String.toList_append, String.toList_intercalate]
  cases areas with
  | nil => rfl
  | cons area rest =>
    simp only [List.map_cons, intercalate_cons, List.flatMap_map]
    rfl

theorem boundary_further (areas : List Area) : Boundary (further areas) := by
  cases areas with
  | nil => exact Boundary.nil
  | cons area rest =>
    rw [further_cons]
    rintro c ⟨⟩
    decide

/-- Whether the name of the sheet is written without quotes in spite of a line break at its end. -/
def breaksOff (area : Area) : Bool :=
  standsBare area.sheet.toList && area.sheet.toList.getLast? = some '\n'

/-- The area that is read where an area is printed in a formula of a sheet.  Of a range behind a
name that breaks off the last cell is read, as if it stood alone. -/
def readBack? (owner : String) (area : Area) : Option Area :=
  if breaksOff area then
    if area.isSingle then none
      else some (.ofCorners owner area.right area.bottom area.right area.bottom)
  else some area

theorem standsBare_cases {name : List Char} (bare : standsBare name = true) :
    (name.getLast? ≠ some '\n' ∧ isBareName name = true) ∨
      ∃ body, name = body ++ ['\n'] ∧ isBareName body = true ∧ CellToken.ofPlain? body = none := by
  obtain ⟨bare, noCell⟩ := Bool.and_eq_true_iff.1 bare
  unfold dropFinalBreak at bare noCell
  by_cases last : name.getLast? = some '\n'
  · obtain ⟨body, rfl⟩ := List.getLast?_eq_some_iff.1 last
    rw [if_pos last, List.dropLast_concat] at bare noCell
    exact .inr ⟨body, rfl, bare, by simpa using noCell⟩
  · rw [if_neg last] at bare
    exact .inl ⟨last, bare⟩

theorem dropDollar_of_isNamePart {text after : List Char} (parts : ∀ c ∈ text, isNamePart c = true)
    {mark : Char}
    (other : mark ≠ '$') : CellToken.dropDollar (text ++ mark :: after) = text ++
      mark :: after := by
  have first : (text ++ mark :: after).head? ≠ some '$' := by
    cases text with
    | nil => simpa using other
    | cons c rest =>
      simpa using ne_of_class (parts c List.mem_cons_self) (by decide : isNamePart '$' = false)
  simpa [dollar] using dropDollar_dollar false first

/-- A bare name in front of a line break holds no mention at its start, unless it is of the shape of
a cell. -/
theorem mention_of_line (before : Option Char) {name : List Char} (bare : isBareName name = true)
    (noCell : CellToken.ofPlain? name = none) (rest : List Char) :
    mention before (name ++ '\n' :: rest) = none := by
  obtain ⟨c, more, whole, start, others⟩ := BareName.exists_first ⟨name, bare⟩
  dsimp only at whole
  have parts : ∀ d ∈ name, isNamePart d = true := by
    rw [whole]
    exact List.forall_mem_cons.2 ⟨isNamePart_of_isNameStart start, others⟩
  have home : readQualifier (name ++ '\n' :: rest) = some (.home, name ++ '\n' :: rest) := by
    apply readQualifier_home
    · simpa [whole] using ne_of_class start (by decide)
    · simpa [whole] using ne_of_class start (by decide)
    · rw [(span_append (by decide) name rest).2, List.dropWhile_eq_nil_iff.2 parts]
      simp
  have letters := span_append (by decide : isAsciiLetter '\n' = false) name rest
  have digits := span_append (by decide : isDecimalDigit '\n' = false)
    (name.dropWhile isAsciiLetter) rest
  have behind : ∀ d ∈ name.dropWhile isAsciiLetter, isNamePart d = true :=
    fun d member => parts d ((List.dropWhile_suffix _).mem member)
  have token : CellToken.read (name ++ '\n' :: rest) =
      if name.takeWhile isAsciiLetter = [] ∨ 3 < (name.takeWhile isAsciiLetter).length ∨
          (name.dropWhile isAsciiLetter).takeWhile isDecimalDigit = [] then none
      else some
        (⟨name.takeWhile isAsciiLetter, (name.dropWhile isAsciiLetter).takeWhile isDecimalDigit⟩,
        (name.dropWhile isAsciiLetter).dropWhile isDecimalDigit ++ '\n' :: rest) := by
    unfold CellToken.read
    dsimp only
    rw [dropDollar_of_isNamePart parts (by decide), letters.1, letters.2,
      dropDollar_of_isNamePart behind (by decide), digits.1, digits.2]
  -- A token that ended with the name would make it one of the shape of a cell; any other is
  -- followed by a name part.
  cases left : (name.dropWhile isAsciiLetter).dropWhile isDecimalDigit with
  | nil =>
    have decimal := List.dropWhile_eq_nil_iff.1 left
    have every : (name.dropWhile isAsciiLetter).takeWhile isDecimalDigit =
        name.dropWhile isAsciiLetter :=
      List.takeWhile_eq_self_iff.2 decimal
    have all : (name.dropWhile isAsciiLetter).all isDecimalDigit = true :=
      List.all_eq_true.2 decimal
    have none : CellToken.read (name ++ '\n' :: rest) = none := by
      rw [token, every]
      unfold CellToken.ofPlain? at noCell
      simp only [all, Bool.not_true, Bool.false_eq_true, or_false] at noCell
      split at noCell
      next shape => rw [if_pos shape]
      next => cases noCell
    simp [mention, home, none]
  | cons d later =>
    have part : isNamePart d = true :=
      behind d ((List.dropWhile_suffix isDecimalDigit).mem (by simp [left]))
    have other : d ≠ ':' := ne_of_class part (by decide)
    have noEnd := not_mayEnd_of_isNamePart (later ++ '\n' :: rest) part
    rw [left] at token
    split at token
    next => simp [mention, home, token]
    next => simp [mention, home, token, readStop, other, noEnd]

theorem isNamePart_of_mem_addressText {col row : Nat} {c : Char}
    (member : c ∈ (addressText col row).toList) :
    isNamePart c = true := by
  have alphanumeric : c.isAlphanum = true := by
    rw [addressText_toList] at member
    rcases List.mem_append.1 member with letter | digit
    · exact Bool.or_eq_true_iff.2 (.inl (isAsciiLetter_of_mem_columnLetters letter))
    · exact Bool.or_eq_true_iff.2 (.inr (isDigit_of_mem_rowDigits digit))
  simp [isNamePart, alphanumeric]

theorem mentionsAfter_marked (col row : Nat) (rest : List Char) :
    ∃ d, mentionsAfter (some '!') ((addressText col row).toList ++ rest) = mentionsAfter (some d)
      rest := by
  have parts : ∀ c ∈ (addressText col row).toList, isNamePart c = true :=
    fun _ => isNamePart_of_mem_addressText
  obtain ⟨c, more, whole⟩ := List.exists_cons_of_ne_nil (isPlace_addressText col row).ne_nil
  rw [whole] at parts ⊢
  obtain ⟨first, others⟩ := List.forall_mem_cons.1 parts
  obtain ⟨d, _, passed⟩ := mentionsAfter_parts more rest first others
  exact ⟨d, (mentionsAfter_cons (mention_of_not_mayStart _ rfl)).trans passed⟩

def areasAfter (owner : String) (before : Option Char) (text : List Char) : List Area :=
  (mentionsAfter before text).filterMap fun found => found.area? owner

theorem areasAfter_found {before : Option Char} (free : mayStart before = true)
    {text rest : List Char} {qualifier : Qualifier} {place : WrittenPlace} (filled : text ≠ [])
    (boundary : Boundary rest)
    (qualified : readQualifier (text ++ rest) = some (qualifier, place.spell ++ rest))
    (owner : String) :
    areasAfter owner before (text ++ rest) =
      ((qualifier.sheet? owner).bind place.area?).toList ++ areasAfter owner text.getLast?
        rest := by
  unfold areasAfter
  rw [mentionsAfter_found filled (mention_place free place boundary qualified), List.filterMap_cons,
    place.area?_mention]
  cases (qualifier.sheet? owner).bind place.area? <;> rfl

theorem areasAfter_cell {place : Position} (inside : place.InGrid) {before : Option Char}
    (free : mayStart before = true) {rest : List Char} (boundary : Boundary rest) (owner : String) :
    ∃ before', areasAfter owner before ((addressText place.col place.row).toList ++ rest) =
      .ofCorners owner place.col place.row place.col place.row :: areasAfter owner before'
        rest := by
  let written : WrittenPlace := ⟨.ofPosition place inside.named, none⟩
  have spelled : written.spell = (addressText place.col place.row).toList := by
    simp [written, WrittenPlace.spell, WrittenCell.ofPosition_toList]
  have read : written.start.position? = some place := WrittenCell.position?_ofPosition inside
  have filled : written.spell ≠ [] := by
    rw [spelled]
    exact (isPlace_addressText _ _).ne_nil
  rw [← spelled, areasAfter_found free filled boundary (readQualifier_place written boundary)]
  change ∃ before', (written.area? owner).toList ++ _ = _
  rw [area?_positions read read]
  exact ⟨_, rfl⟩

theorem readQualifier_area (legal : area.Legal) (whole : breaksOff area = false)
    (rest : List Char) :
    readQualifier (area.text.toList ++ rest) = some
      (.sheet area.sheet, legal.written.spell ++ rest) := by
  rw [area.text_eq, qualify_toList, spell_written, List.append_assoc, List.cons_append]
  by_cases bare : standsBare area.sheet.toList = true
  · rcases standsBare_cases bare with ⟨_, name⟩ | ⟨body, ends, _⟩
    · have read := readQualifier_bare ⟨area.sheet.toList, name⟩ (area.place.toList ++ rest)
      rw [spellSheet_toList_of_bare bare]
      simpa using read
    · rw [ends] at bare
      simp [breaksOff, ends, bare] at whole
  · have filled : area.sheet.toList ≠ [] :=
      fun empty => legal.title.ne_empty (String.toList_eq_nil_iff.1 empty)
    have noBracket : ']' ∉ area.sheet.toList :=
      fun member => legal.title.allowed ']' member (by decide)
    have read := readQualifier_quoted filled (area.place.toList ++ rest)
    rw [spellSheet_toList_of_not_bare bare]
    simpa [enclose, noBracket] using read

theorem areasAfter_whole (legal : area.Legal) (whole : breaksOff area = false)
    {before : Option Char} (free : mayStart before = true) {rest : List Char}
    (boundary : Boundary rest) (owner : String) :
    ∃ before', areasAfter owner before (area.text.toList ++ rest) =
      (readBack? owner area).toList ++ areasAfter owner before' rest := by
  have filled : area.text.toList ≠ [] := by
    rw [area.text_eq, qualify_toList]
    exact List.append_ne_nil_of_right_ne_nil _ (List.cons_ne_nil _ _)
  rw [areasAfter_found free filled boundary (readQualifier_area legal whole rest), readBack?, whole]
  change ∃ before', (legal.written.area? area.sheet).toList ++ _ = _
  rw [area?_written legal]
  exact ⟨_, rfl⟩

theorem areasAfter_broken (legal : area.Legal) (broken : breaksOff area = true)
    {before : Option Char} {rest : List Char} (boundary : Boundary rest) (owner : String) :
    ∃ before', areasAfter owner before (area.text.toList ++ rest) =
      (readBack? owner area).toList ++ areasAfter owner before' rest := by
  obtain ⟨bare, ends⟩ := Bool.and_eq_true_iff.1 broken
  rcases standsBare_cases bare with ⟨other, _⟩ | ⟨body, sheet, name, noCell⟩
  · exact absurd (of_decide_eq_true ends) other
  obtain ⟨c, more, start, first, others⟩ := BareName.exists_first ⟨body, name⟩
  dsimp only at start
  obtain ⟨d, _, passed⟩ := mentionsAfter_parts more ('\n' :: '!' :: (area.place.toList ++ rest))
    (isNamePart_of_isNameStart first) others
  have inert : ∀ c ∈ ['\n', '!'], canStart c = false := List.all_iff_forall_prop.1 (by decide)
  have marked : areasAfter owner before (area.text.toList ++ rest) =
      areasAfter owner (some '!') (area.place.toList ++ rest) := by
    have noMention := mention_of_line before name noCell ('!' :: (area.place.toList ++ rest))
    unfold areasAfter
    rw [area.text_eq, qualify_toList, spellSheet_toList_of_bare bare, sheet]
    simp only [List.append_assoc, List.cons_append, List.nil_append]
    rw [start, List.cons_append] at noMention ⊢
    rw [mentionsAfter_cons noMention, passed]
    exact congrArg _ (mentionsAfter_inert (some d) (area.place.toList ++ rest) inert)
  obtain ⟨⟨left, top⟩, right, bottom⟩ := legal.corners
  rw [marked]
  unfold readBack? Area.place Area.anchor
  rw [if_pos broken, left, top, right, bottom]
  by_cases single : area.isSingle = true
  · obtain ⟨e, passed⟩ := mentionsAfter_marked area.firstPosition.col area.firstPosition.row rest
    rw [if_pos single, if_pos single]
    exact ⟨some e, congrArg _ passed⟩
  · rw [if_neg single, if_neg single]
    -- The colon is no part of a word, so that the last cell may start a mention of its own.
    obtain ⟨e, passed⟩ := mentionsAfter_marked area.firstPosition.col area.firstPosition.row
      (':' :: ((addressText area.lastPosition.col area.lastPosition.row).toList ++ rest))
    have colon := mentionsAfter_cons (mention_of_not_canStart (some e)
      ((addressText area.lastPosition.col area.lastPosition.row).toList ++ rest)
        (by decide : canStart ':' = false))
    have free : mayStart (some ':') = true := by decide
    obtain ⟨before', read⟩ := areasAfter_cell legal.inGrid.2 free boundary owner
    refine ⟨before', Eq.trans ?_ read⟩
    simp only [String.toList_append, List.append_assoc]
    exact congrArg _ (passed.trans colon)

theorem areasAfter_printed {areas : List Area} (legal : ∀ area ∈ areas, area.Legal)
    {before : Option Char} (free : mayStart before = true) (owner : String) :
    areasAfter owner before (printed areas) = areas.filterMap (readBack? owner) := by
  induction areas generalizing before with
  | nil => rfl
  | cons area rest ih =>
    obtain ⟨here, others⟩ := List.forall_mem_cons.1 legal
    have first : ∃ before', areasAfter owner before (area.text.toList ++ further rest) =
        (readBack? owner area).toList ++ areasAfter owner before' (further rest) := by
      cases broken : breaksOff area with
      | true => exact areasAfter_broken here broken (boundary_further rest) owner
      | false => exact areasAfter_whole here broken free (boundary_further rest) owner
    obtain ⟨before', read⟩ := first
    have behind : areasAfter owner before' (further rest) = rest.filterMap (readBack? owner) := by
      cases rest with
      | nil => rfl
      | cons next more =>
        have free : mayStart (some '+') = true := by decide
        rw [← ih others free, further_cons]
        exact congrArg _ (mentionsAfter_cons (mention_of_not_canStart before' _ (by decide)))
    rw [printed, read, behind, List.filterMap_cons]
    cases readBack? owner area <;> rfl

theorem references_sum {areas shown : List Area} (legal : ∀ area ∈ shown, area.Legal)
    (shows : emptyLiterals (printed areas) = printed shown) (owner : String) :
    references (sumFormula areas) owner = firstsBy referenceKey
      (shown.filterMap (readBack? owner)) := by
  have equals := mentionsAfter_cons (mention_of_not_canStart none (printed shown)
    (by decide : canStart '=' = false))
  unfold references
  have free : mayStart (some '=') = true := by decide
  rw [sumFormula_toList, emptyLiterals_cons_of_ne _ (by decide), shows,
    ← areasAfter_printed legal free]
  exact congrArg (fun found =>
    firstsBy referenceKey (found.filterMap fun mention => mention.area? owner)) equals

end Formula

end FormulaTrace
