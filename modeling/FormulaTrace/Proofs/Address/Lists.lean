import FormulaTrace.Proofs.Address.Qualified

/-! Lists of areas, and how many cells they have.
A qualified place is a list of one area whatever its sheet is called, for a comma in the name of a
sheet stands between quotes. -/
namespace FormulaTrace
open Text

theorem isNamePart_of_standsBare {name : List Char} (bare : standsBare name = true) :
    ∀ c ∈ name, isNamePart c = true ∨ c = '\n' := by
  have body : isBareName (dropFinalBreak name) = true := (Bool.and_eq_true_iff.1 bare).1
  have parts : ∀ c ∈ dropFinalBreak name, isNamePart c = true := by
    cases plain : dropFinalBreak name with
    | nil => exact List.forall_mem_nil _
    | cons c rest =>
      rw [plain] at body
      obtain ⟨start, others⟩ := Bool.and_eq_true_iff.1 body
      exact List.forall_mem_cons.2 ⟨isNamePart_of_isNameStart start, List.all_eq_true.1 others⟩
  intro c member
  unfold dropFinalBreak at parts
  split at parts
  next last =>
    obtain ⟨before, rfl⟩ := List.getLast?_eq_some_iff.1 last
    rw [List.dropLast_concat] at parts
    rcases List.mem_append.1 member with inside | final
    · exact .inl (parts c inside)
    · exact .inr (List.mem_singleton.1 final)
  next => exact .inl (parts c member)

theorem notMem_of_standsBare {name : List Char} (bare : standsBare name = true) {c : Char}
    (other : isNamePart c = false) (line : c ≠ '\n') : c ∉ name := by
  intro member
  rcases isNamePart_of_standsBare bare c member with part | same
  · exact absurd part (by simp [other])
  · exact line same

theorem intercalate_cons {α : Type} (separator first : List α) (rest : List (List α)) :
    separator.intercalate (first :: rest) = first ++ rest.flatMap (separator ++ ·) := by
  induction rest generalizing first with
  | nil => simp
  | cons next more ih =>
    rw [List.intercalate_cons_cons, ih, List.flatMap_cons, List.append_assoc, List.append_assoc]

theorem quotedName_enclose (before : Option Char) (name : List Char) {after : List Char}
    (other : after.head? ≠ some '\'') :
    quotedName before ('\'' :: (doubleMarks '\'' name ++ ['\''] ++ after)) = some
      (enclose '\'' name, after) := by
  have read : readEnclosed '\'' (doubleMarks '\'' name ++ ['\''] ++ after) = some
      (name, after) := by
    rw [List.append_assoc]
    exact readEnclosed_doubleMarks '\'' name other
  have whole : '\'' :: (doubleMarks '\'' name ++ ['\''] ++ after) = enclose '\'' name ++ after :=
    rfl
  change Option.map _ (readEnclosed '\'' (doubleMarks '\'' name ++ ['\''] ++ after)) = _
  rw [read, Option.map_some, whole]
  dsimp only
  rw [List.length_append, Nat.add_sub_cancel, List.take_left]

/-- A qualified place is read to its end whatever follows, and none of its commas parts it. -/
theorem scan_qualify (sheet : String) {place : String} (written : IsPlace place)
    (before : Option Char) (rest : List Char) :
    ∃ pieces last, Piece.scan quotedName 0 before ((qualify sheet place).toList ++ rest) =
        pieces ++ Piece.scan quotedName 0 last rest ∧
      .plain ',' ∉ pieces ∧ pieces.flatMap Piece.spelled = (qualify sheet place).toList := by
  have quote : '\'' ∉ '!' :: place.toList := List.not_mem_cons_of_ne_of_not_mem (by decide)
    (written.notMem (by decide))
  have comma : ',' ∉ '!' :: place.toList := List.not_mem_cons_of_ne_of_not_mem (by decide)
    (written.notMem (by decide))
  rw [qualify_toList]
  by_cases bare : standsBare sheet.toList = true
  · rw [spellSheet_toList_of_bare bare]
    have plain {c : Char} (other : isNamePart c = false) (line : c ≠ '\n')
      (outside : c ∉ '!' :: place.toList) :
        c ∉ sheet.toList ++ '!' :: place.toList :=
          List.not_mem_append (notMem_of_standsBare bare other line) outside
    obtain ⟨last, read⟩ := scan_quotedName_append before (plain (by decide) (by decide) quote) rest
    exact ⟨_, last, read, comma_notMem_plain (plain (by decide) (by decide) comma), spelled_plain _⟩
  · have whole : (spellSheet sheet).toList ++ '!' :: place.toList ++ rest =
        '\'' :: (doubleMarks '\'' sheet.toList ++ ['\''] ++ ('!' :: place.toList ++ rest)) := by
      simp [spellSheet_toList_of_not_bare bare]
    have found := Piece.scan_found (quotedName_enclose before sheet.toList
      (show ('!' :: place.toList ++ rest).head? ≠ some '\'' by simp))
    obtain ⟨last, read⟩ := scan_quotedName_append _ quote rest
    rw [whole, found, read, spellSheet_toList_of_not_bare bare]
    refine ⟨.found _ :: ('!' :: place.toList).map Piece.plain, last, rfl, ?_, ?_⟩
    · exact List.not_mem_cons_of_ne_of_not_mem (by simp) (comma_notMem_plain comma)
    · rw [List.flatMap_cons, spelled_plain]
      rfl

theorem partAtCommas_qualify (sheet : String) {place : String} (written : IsPlace place) :
    partAtCommas (pieces quotedName (qualify sheet place).toList) =
      [(qualify sheet place).toList] := by
  obtain ⟨parts, last, read, comma, spelled⟩ := scan_qualify sheet written none []
  rw [List.append_nil, Piece.scan, List.append_nil] at read
  rw [pieces, read, partAtCommas_solid comma, spelled]

theorem areaTexts_qualify (sheet : String) {place : String} (written : IsPlace place) :
    areaTexts (qualify sheet place) = [qualify sheet place] := by
  have filled : (qualify sheet place).toList ≠ [] := by
    rw [qualify_toList]
    exact List.append_ne_nil_of_right_ne_nil _ (List.cons_ne_nil _ _)
  unfold areaTexts
  rw [partAtCommas_qualify sheet written, List.map_singleton,
    trim_eq_self (endsInk_qualify sheet written),
    List.filter_cons_of_pos (by simpa using filled), List.filter_nil, List.map_singleton,
      String.ofList_toList]

theorem position?_addressText {place : Position} (inside : place.InGrid) :
    position? (addressText place.col place.row).toList = some place := by
  unfold position?
  rw [String.ofList_toList, Position.read_addressText inside]
  rfl

theorem area_read?_address {sheet : String} (named : sheet ≠ "") {place : Position}
    (inside : place.InGrid) (home : String) :
    Area.read? (qualify sheet (addressText place.col place.row)) home =
      some (.ofCorners (readSheet sheet) place.col place.row place.col place.row) := by
  unfold Area.read?
  rw [separate_qualify named (isPlace_addressText _ _)]
  dsimp only
  rw [breakFirst_of_not_mem (colon_notMem_addressText _ _)]
  dsimp only [Option.getD_none]
  rw [if_pos rfl, position?_addressText inside]
  rfl

theorem area_read?_corners {sheet : String} (named : sheet ≠ "") {first last : Position}
    (one : first.InGrid) (other : last.InGrid) (home : String) :
    Area.read? (qualify sheet
      (addressText first.col first.row ++ ":" ++ addressText last.col last.row)) home =
      some (.ofCorners (readSheet sheet) first.col first.row last.col last.row) := by
  have parts : (addressText first.col first.row ++ ":" ++ addressText last.col last.row).toList =
      (addressText first.col first.row).toList ++
        ':' :: (addressText last.col last.row).toList := by
    rw [String.toList_append, String.toList_append, List.append_assoc]
    rfl
  unfold Area.read?
  rw [separate_qualify named (isPlace_corners _ _ _ _)]
  dsimp only
  rw [parts, breakFirst_append _ (colon_notMem_addressText _ _)]
  dsimp only [Option.getD_some]
  rw [if_neg (isPlace_addressText last.col last.row).ne_nil, position?_addressText one,
    position?_addressText other]
  rfl

theorem cellTotal_corners {sheet : String} (named : sheet ≠ "") {first last : Position}
    (one : first.InGrid)
    (other : last.InGrid) (across : first.col ≤ last.col) (down : first.row ≤ last.row)
    (home : String) :
    cellTotal
      (qualify sheet (addressText first.col first.row ++ ":" ++ addressText last.col last.row))
      home = ((last.col + 1 - first.col) * (last.row + 1 - first.row) : Nat) := by
  unfold cellTotal
  rw [areaTexts_qualify sheet (isPlace_corners _ _ _ _), List.foldl_cons, List.foldl_nil,
    area_read?_corners named one other, Option.map_some, Option.getD_some, Int.zero_add]
  have width : max (first.col : Int) last.col - min (first.col : Int) last.col + 1 =
      ((last.col + 1 - first.col : Nat) : Int) := by omega
  have height : max (first.row : Int) last.row - min (first.row : Int) last.row + 1 =
      ((last.row + 1 - first.row : Nat) : Int) := by omega
  simp only [Area.cellCount, Area.ofCorners]
  rw [width, height, Int.natCast_mul]

end FormulaTrace
