import FormulaTrace.Proofs.Address.RoundTrip

/-! Areas joined by commas, and the cell that is read from them. The sheet is parted from the places
before the areas are parted from each other.  A quoted name ends at its closing quote, and the first
area is read as it was written; a bare name is taken to end at the last exclamation mark of all, so
that several areas of which the first stands on such a sheet are read as one cell of a sheet that
there is not. -/
namespace FormulaTrace
open Text Formula

theorem notMem_spellSheet {sheet : String} {c : Char} (quote : c ≠ '\'')
    (other : c ∉ sheet.toList) :
    c ∉ (spellSheet sheet).toList := by
  by_cases bare : standsBare sheet.toList = true
  · rwa [spellSheet_toList_of_bare bare]
  · simp [spellSheet_toList_of_not_bare bare, quote, notMem_doubleMarks other]

theorem readSheet_of_line {sheet : String} (line : '\n' ∉ sheet.toList) :
    readSheet sheet = sheet := by
  rw [readSheet_eq_iff]
  rintro ⟨name, _, _, whole⟩
  simp [whole] at line

theorem endsInk_spellSheet {sheet : String} (line : '\n' ∉ sheet.toList) :
    EndsInk (spellSheet sheet).toList := by
  by_cases bare : standsBare sheet.toList = true
  · rw [spellSheet_toList_of_bare bare]
    rcases standsBare_cases bare with ⟨_, name⟩ | ⟨name, whole, _⟩
    · exact endsInk_of_isBareName name
    · simp [whole] at line
  · rw [spellSheet_toList_of_not_bare bare]
    constructor
    · simp only [List.head?_cons, Option.mem_def, Option.some.injEq, forall_eq']
      decide
    · rw [← List.cons_append, List.getLast?_concat]
      simp only [Option.mem_def, Option.some.injEq, forall_eq']
      decide

namespace Area

def firstCell (area : Area) : Cell := ⟨area.sheet, area.firstPosition.col, area.firstPosition.row⟩

/-- Areas as one address: their texts with commas between them. -/
def joined (areas : List Area) : String := ",".intercalate (areas.map text)

def behind (areas : List Area) : List Char := areas.flatMap fun area => ',' :: area.text.toList

theorem joined_cons (first : Area) (rest : List Area) :
    (joined (first :: rest)).toList = first.text.toList ++ behind rest := by
  simp [joined, behind, intercalate_cons, List.flatMap_map]

theorem joined_singleton (area : Area) : joined [area] = area.text := by
  rw [← String.toList_inj, joined_cons]
  simp [behind]

variable {area first : Area} {rest : List Area}

theorem text_toList (area : Area) :
    area.text.toList = (spellSheet area.sheet).toList ++ '!' :: area.place.toList := by
  rw [text_eq, qualify_toList]

theorem line_behind (legal : ∀ area ∈ rest, area.Legal)
    (lines : ∀ area ∈ rest, '\n' ∉ area.sheet.toList) :
    '\n' ∉ behind rest := by
  simp only [behind, List.mem_flatMap, not_exists, not_and]
  intro area member
  have name := notMem_spellSheet (by decide) (lines area member)
  have place : '\n' ∉ area.place.toList := (legal area member).isPlace.notMem (by decide)
  simp [text_toList, name, place]

theorem endsInk_behind (legal : ∀ area ∈ rest, area.Legal) : EndsInk (behind rest) := by
  induction rest with
  | nil => constructor <;> simp [behind]
  | cons area rest ih =>
    obtain ⟨here, others⟩ := List.forall_mem_cons.1 legal
    have comma : EndsInk [','] := by constructor <;> simp <;> decide
    have text := endsInk_qualify area.sheet here.isPlace
    rw [← text_eq] at text
    exact (comma.append text).append (ih others)

namespace Legal

theorem position?_first (legal : area.Legal) :
    position? (breakFirst ':' area.place.toList).1 = some area.firstPosition := by
  obtain ⟨⟨left, top⟩, -⟩ := legal.corners
  have found := position?_addressText legal.inGrid.1
  have colon := colon_notMem_addressText area.firstPosition.col area.firstPosition.row
  have start : (breakFirst ':' area.place.toList).1 = area.anchor.toList := by
    rw [← left, ← top] at colon
    unfold place
    split
    · rw [anchor, breakFirst_of_not_mem colon]
    · rw [String.toList_append, String.toList_append, List.append_assoc]
      exact congrArg Prod.fst (breakFirst_append (addressText area.right area.bottom).toList colon)
  rw [start, anchor, left, top]
  exact found

theorem areaTexts_head (legal : area.Legal) (rest : List Area) :
    (areaTexts (String.ofList (area.place.toList ++ behind rest))).head? = some area.place := by
  have trimmed := trim_eq_self legal.isPlace.endsInk
  have filled := legal.isPlace.ne_nil
  have quote : '\'' ∉ area.place.toList := legal.isPlace.notMem (by decide)
  have comma : ',' ∉ area.place.toList := legal.isPlace.notMem (by decide)
  cases rest with
  | nil => simp [behind, areaTexts_place legal.isPlace]
  | cons next more =>
    obtain ⟨last, scanned⟩ := scan_quotedName_append none quote (behind (next :: more))
    have apart : behind (next :: more) = ',' :: (next.text.toList ++ behind more) := by
      simp [behind]
    have comma_plain : quotedName last (',' :: (next.text.toList ++ behind more)) = none := rfl
    rw [apart, Piece.scan_plain comma_plain] at scanned
    unfold areaTexts pieces
    rw [String.toList_ofList, apart, scanned, partAtCommas_solid_append (comma_notMem_plain comma),
      spelled_plain]
    simp [trimmed, filled]

theorem read?_of_separate (legal : area.Legal) {address sheet : String} (rest : List Area)
    (named : sheet ≠ "")
    (parts : separate address = (some sheet, String.ofList (area.place.toList ++ behind rest)))
    (home : String) :
    Cell.read? address home = some ⟨sheet, area.firstPosition.col, area.firstPosition.row⟩ := by
  unfold Cell.read?
  rw [parts]
  simp only [Option.getD_some, if_neg named, legal.areaTexts_head rest]
  simp [legal.position?_first]

end Legal

theorem read?_joined_of_quoted (legal : ∀ area ∈ first :: rest, area.Legal)
    (lines : ∀ area ∈ first :: rest, '\n' ∉ area.sheet.toList)
    (quoted : ¬ standsBare first.sheet.toList = true)
    (home : String) : Cell.read? (joined (first :: rest)) home = some first.firstCell := by
  obtain ⟨here, others⟩ := List.forall_mem_cons.1 legal
  have text : (joined (first :: rest)).toList =
      enclose '\'' first.sheet.toList ++ '!' :: (first.place.toList ++ behind rest) := by
    simp [joined_cons, text_toList, spellSheet_toList_of_not_bare quoted, enclose]
  have named : first.sheet.toList ≠ [] :=
    fun empty => here.title.ne_empty (String.toList_eq_nil_iff.1 empty)
  have line : '\n' ∉ first.place.toList ++ behind rest :=
    List.not_mem_append (here.isPlace.notMem (by decide))
      (line_behind others (List.forall_mem_cons.1 lines).2)
  have filled : first.place.toList ++ behind rest ≠ [] :=
    List.append_ne_nil_of_left_ne_nil here.isPlace.ne_nil _
  have parts := separate_enclosed text named line filled
    (here.isPlace.endsInk.append (endsInk_behind others))
  rw [String.ofList_toList] at parts
  exact here.read?_of_separate rest here.title.ne_empty parts home

theorem read?_text (legal : area.Legal) (line : '\n' ∉ area.sheet.toList) (home : String) :
    Cell.read? area.text home = some area.firstCell := by
  have named := legal.title.ne_empty
  rw [text_eq, read?_qualify named legal.isPlace, legal.position?_first, readSheet_of_line line]
  rfl

/-- A bare name in front is taken to reach as far as the last name. -/
theorem read?_joined_of_bare {middle : List Area} {last : Area}
    (legal : ∀ area ∈ first :: middle ++ [last], area.Legal)
    (line : '\n' ∉ last.sheet.toList) (bare : standsBare first.sheet.toList = true)
    (home : String) :
    Cell.read? (joined (first :: (middle ++ [last]))) home =
      some ⟨joined (first :: middle) ++ "," ++ spellSheet last.sheet, last.firstPosition.col,
        last.firstPosition.row⟩ := by
  have final : last.Legal := legal last (by simp)
  obtain ⟨c, name, whole, start⟩ := exists_nameStart bare
  have ink := isBlank_eq_false_of_isNameStart start
  let before := joined (first :: middle) ++ "," ++ spellSheet last.sheet
  obtain ⟨more, opened⟩ : ∃ more, before.toList = c :: more := by
    simp [before, joined_cons, text_toList, spellSheet_toList_of_bare bare, whole]
  have text : (joined (first :: (middle ++ [last]))).toList = c :: more ++
      '!' :: last.place.toList := by
    rw [← opened]
    simp [before, joined_cons, behind, text_toList]
  -- What stands before the last mark begins with a bare name and ends with a spelled one; nothing
  -- of it is trimmed.
  have ends : EndsInk (c :: more) := by
    have comma : EndsInk ((joined (first :: middle)).toList ++ [',']) := by
      constructor
      · simp [joined_cons, text_toList, spellSheet_toList_of_bare bare, whole, ink]
      · simp
        decide
    have both := comma.append (endsInk_spellSheet line)
    rw [← opened]
    simpa [before] using both
  have parts := separate_marked text ink (ne_of_class start (by decide))
    (final.isPlace.notMem (by decide)) final.isPlace.ne_nil final.isPlace.endsInk
  rw [trim_eq_self ends, ← opened, String.ofList_toList] at parts
  have named : before ≠ "" := by
    intro empty
    simp [empty] at opened
  refine final.read?_of_separate [] named ?_ home
  simpa [behind] using parts

def readJoined (first : Area) (rest : List Area) : Cell :=
  match rest.getLast? with
  | none => first.firstCell
  | some last =>
    if standsBare first.sheet.toList then
      ⟨joined (first :: rest.dropLast) ++ "," ++ spellSheet last.sheet, last.firstPosition.col,
        last.firstPosition.row⟩
    else first.firstCell

theorem readJoined_sheet_ne {last : Area} (middle : List Area)
    (bare : standsBare first.sheet.toList = true) :
    (readJoined first (middle ++ [last])).sheet ≠ first.sheet := by
  have mark : '!' ∉ first.sheet.toList := notMem_of_standsBare bare (by decide) (by decide)
  intro same
  apply mark
  rw [← same]
  simp [readJoined, bare, joined_cons, text_toList]

theorem read?_joined (legal : ∀ area ∈ first :: rest, area.Legal)
    (lines : ∀ area ∈ first :: rest, '\n' ∉ area.sheet.toList) (home : String) :
    Cell.read? (joined (first :: rest)) home = some (readJoined first rest) := by
  rcases List.eq_nil_or_concat' rest with rfl | ⟨middle, last, rfl⟩
  · rw [joined_singleton]
    exact read?_text (legal first (by simp)) (lines first (by simp)) home
  · by_cases bare : standsBare first.sheet.toList = true
    · rw [read?_joined_of_bare legal (lines last (by simp)) bare home]
      simp [readJoined, bare]
    · rw [read?_joined_of_quoted legal lines bare home]
      simp [readJoined, bare]

/-- Joined areas are always read as some cell.  It is the first one of the first area, and the text
is known by the same address as the first area alone, if and only if no other area follows or the
first name is in quotes. -/
theorem joined_first_cell_iff (legal : ∀ area ∈ first :: rest, area.Legal)
    (lines : ∀ area ∈ first :: rest, '\n' ∉ area.sheet.toList) (home : String) :
    Cell.read? (joined (first :: rest)) home = some (readJoined first rest) ∧
      (readJoined first rest = first.firstCell ↔
        rest = [] ∨ standsBare first.sheet.toList = false) ∧
      (canonical? (joined (first :: rest)) home = canonical? first.text home ↔
        rest = [] ∨ standsBare first.sheet.toList = false) := by
  have read := read?_joined legal lines home
  have alone := read?_text (legal first (by simp)) (lines first (by simp)) home
  have kept (found : rest = [] ∨ standsBare first.sheet.toList = false) :
      readJoined first rest = first.firstCell := by
    rcases found with rfl | quoted
    · rfl
    · cases last : rest.getLast? <;> simp [readJoined, last, quoted]
  have lost (same : (readJoined first rest).sheet = first.sheet) :
      rest = [] ∨ standsBare first.sheet.toList = false := by
    rcases List.eq_nil_or_concat' rest with rfl | ⟨middle, last, rfl⟩
    · exact .inl rfl
    · right
      by_contra bare
      exact readJoined_sheet_ne middle (by simpa using bare) same
  refine ⟨read, ⟨fun same => lost (congrArg Cell.sheet same), kept⟩, ?_⟩
  simp only [canonical?, read, alone, Option.map_some, Option.some.injEq]
  constructor
  · intro same
    exact lost (qualify_injective (isPlace_addressText _ _) (isPlace_addressText _ _) same).1
  · intro found
    rw [kept found]

theorem joined_first_cell_iff_quoted :
    Cell.read? "'Net sales'!B2:C4,Other!A1" "Data" = some
      (ofCorners "Net sales" 1 1 2 3).firstCell := by
  have text : joined [ofCorners "Net sales" 1 1 2 3, ofCorners "Other" 0 0 0 0] =
      "'Net sales'!B2:C4,Other!A1" := by
    decide +kernel
  have legal : ∀ area ∈ [ofCorners "Net sales" 1 1 2 3, ofCorners "Other" 0 0 0 0], area.Legal := by
    decide +kernel
  have read := joined_first_cell_iff legal (by decide +kernel) "Data"
  rw [read.2.1.2 (.inr (by decide +kernel)), text] at read
  exact read.1

/-- The first of two cells, each with the bare name of its sheet, is not found. -/
theorem joined_first_cell_lost :
    (∀ area ∈ [ofCorners "Data" 0 0 0 0, ofCorners "Other" 1 1 1 1], area.Legal ∧
      '\n' ∉ area.sheet.toList) ∧
      joined [ofCorners "Data" 0 0 0 0, ofCorners "Other" 1 1 1 1] = "Data!A1,Other!B2" ∧
      Cell.read? "Data!A1,Other!B2" "S" ≠ some (ofCorners "Data" 0 0 0 0).firstCell ∧
      canonical? "Data!A1,Other!B2" "S" ≠ canonical? (ofCorners "Data" 0 0 0 0).text "S" := by
  decide +kernel

end Area

end FormulaTrace
