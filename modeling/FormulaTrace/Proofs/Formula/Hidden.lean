import FormulaTrace.Proofs.Formula.Printed

/-! What double quotes in the names of sheets hide.
A double quote in a printed sum stands in the quoted name of a sheet, and so a printed sum stays one
when what stands between two double quotes is left out.  Areas are read back as they were printed
just if nothing is left out. -/
namespace FormulaTrace.Formula
open Text

theorem exists_doubleMarks {mark c : Char} (other : c ≠ mark) {name front back : List Char}
    (split : doubleMarks mark name = front ++ c :: back) :
    ∃ first last, name = first ++ c :: last ∧ front = doubleMarks mark first ∧
      back = doubleMarks mark last := by
  induction name generalizing front with
  | nil => simp [doubleMarks] at split
  | cons d rest ih =>
    by_cases same : d = mark
    · rw [doubleMarks, if_pos same] at split
      rcases front with _ | ⟨one, _ | ⟨two, more⟩⟩ <;>
        simp only [List.nil_append, List.cons_append, List.cons.injEq] at split
      · exact absurd split.1.symm other
      · exact absurd split.2.1.symm other
      · obtain ⟨rfl, rfl, split⟩ := split
        obtain ⟨first, last, rfl, rfl, rfl⟩ := ih split
        exact ⟨d :: first, last, rfl, by simp [doubleMarks, same], rfl⟩
    · rw [doubleMarks, if_neg same] at split
      rcases front with _ | ⟨one, more⟩ <;>
        simp only [List.nil_append, List.cons_append, List.cons.injEq] at split
      · obtain ⟨rfl, rfl⟩ := split
        exact ⟨[], rest, rfl, rfl, rfl⟩
      · obtain ⟨rfl, split⟩ := split
        obtain ⟨first, last, rfl, rfl, rfl⟩ := ih split
        exact ⟨d :: first, last, rfl, by simp [doubleMarks, same], rfl⟩

theorem doubleMarks_append (mark : Char) (first last : List Char) :
    doubleMarks mark (first ++ last) = doubleMarks mark first ++ doubleMarks mark last := by
  induction first with
  | nil => rfl
  | cons c rest ih => by_cases same : c = mark <;> simp [doubleMarks, same, ih]

/-- The text of an area from within the quoted name of its sheet on. -/
def quotedRest (name : List Char) (area : Area) : List Char :=
  doubleMarks '\'' name ++ '\'' :: '!' :: area.place.toList

variable {area : Area} {areas : List Area} {front back : List Char}

theorem quotedRest_append (first : List Char) (last : List Char) (area : Area) :
    quotedRest (first ++ '"' :: last) area = doubleMarks '\'' first ++
      '"' :: quotedRest last area := by
  simp [quotedRest, doubleMarks_append, doubleMarks]

theorem text_quoted (quote : '"' ∈ area.sheet.toList) :
    area.text.toList = '\'' :: quotedRest area.sheet.toList area := by
  have bare : ¬ standsBare area.sheet.toList = true := fun bare =>
    notMem_of_standsBare bare (by decide) (by decide) quote
  rw [area.text_eq, qualify_toList, spellSheet_toList_of_not_bare bare, quotedRest]
  simp

theorem noQuote_text (legal : area.Legal) (noQuote : '"' ∉ area.sheet.toList) :
    '"' ∉ area.text.toList := by
  have place : '"' ∉ '!' :: area.place.toList :=
    List.not_mem_cons_of_ne_of_not_mem (by decide) (legal.isPlace.notMem (by decide))
  rw [area.text_eq, qualify_toList]
  by_cases bare : standsBare area.sheet.toList = true
  · rw [spellSheet_toList_of_bare bare]
    exact List.not_mem_append noQuote place
  · have marked : '"' ∉ doubleMarks '\'' area.sheet.toList := notMem_doubleMarks noQuote
    rw [spellSheet_toList_of_not_bare bare]
    exact List.not_mem_append (by simp [marked]) place

theorem exists_quotedRest (legal : area.Legal) {name : List Char}
    (split : quotedRest name area = front ++ '"' :: back) :
    ∃ first last, name = first ++ '"' :: last ∧ front = doubleMarks '\'' first ∧
      back = quotedRest last area := by
  have place : '"' ∉ '\'' :: '!' :: area.place.toList := by
    simpa using legal.isPlace.notMem (c := '"') (by decide)
  rcases List.append_eq_append_iff.1 split with ⟨more, _, rest⟩ | ⟨more, inside, rest⟩
  · exact absurd (by simp [rest]) place
  · cases more with
    | nil => exact absurd (List.cons.inj rest).1 (by decide)
    | cons c more =>
      obtain ⟨rfl, rfl⟩ := List.cons.inj rest
      obtain ⟨first, last, rfl, rfl, rfl⟩ := exists_doubleMarks (by decide) inside
      exact ⟨first, last, rfl, rfl, rfl⟩

/-- A double quote in a printed sum stands in the name of a sheet, and what stands before it does
not depend on what comes after it. -/
theorem exists_printed (legal : ∀ area ∈ areas, area.Legal)
    (split : printed areas = front ++ '"' :: back) :
    ∃ before area after first last, areas = before ++ area :: after ∧
      area.sheet.toList = first ++ '"' :: last ∧ back = quotedRest last area ++ further after ∧
      ∀ (changed : Area) (others : List Area) (name : List Char), changed.sheet.toList = first ++
        '"' :: name →
        printed (before ++ changed :: others) = front ++
          '"' :: (quotedRest name changed ++ further others) := by
  induction areas generalizing front with
  | nil => simp [printed] at split
  | cons area rest ih =>
    obtain ⟨here, others⟩ := List.forall_mem_cons.1 legal
    rcases List.append_eq_append_iff.1 split with ⟨more, rfl, later⟩ | ⟨more, inside, later⟩
    · -- The double quote stands behind the first area.
      rcases rest with _ | ⟨next, rest⟩
      · simp [further] at later
      rw [further_cons] at later
      rcases more with _ | ⟨plus, more⟩ <;>
        simp only [List.nil_append, List.cons_append, List.cons.injEq] at later
      · exact absurd later.1 (by decide)
      obtain ⟨rfl, later⟩ := later
      obtain ⟨before, found, after, first, last, whole, sheet, behind, swap⟩ := ih others later
      refine ⟨area :: before, found, after, first,
        last, by rw [whole, List.cons_append], sheet, behind, ?_⟩
      intro changed tail name named
      have swapped := swap changed tail name named
      obtain ⟨head, remaining, filled⟩ :=
        List.exists_cons_of_ne_nil (List.append_ne_nil_of_right_ne_nil before
        (List.cons_ne_nil changed tail))
      rw [filled] at swapped
      rw [List.cons_append, filled, printed, further_cons, swapped]
      simp
    · -- It stands in the first area, whose sheet is then written in quotes.
      rcases more with _ | ⟨quote, more⟩
      · rcases rest with _ | ⟨next, rest⟩ <;> simp [further] at later
      simp only [List.cons_append, List.cons.injEq] at later
      obtain ⟨rfl, rfl⟩ := later
      have quoted : '"' ∈ area.sheet.toList := by
        by_contra none
        exact noQuote_text here none (by simp [inside])
      rw [text_quoted quoted] at inside
      rcases front with _ | ⟨mark, front⟩ <;>
        simp only [List.nil_append, List.cons_append, List.cons.injEq] at inside
      · exact absurd inside.1 (by decide)
      obtain ⟨rfl, inside⟩ := inside
      obtain ⟨first, last, sheet, rfl, rfl⟩ := exists_quotedRest here inside
      refine ⟨[], area, rest, first, last, rfl, sheet, rfl, ?_⟩
      intro changed tail name named
      rw [List.nil_append, printed, text_quoted (by simp [named]), named, quotedRest_append]
      simp

/-- What is left of some areas when a part of their text is left out. -/
structure Remains (areas shown : List Area) : Prop where
  length_le : shown.length ≤ areas.length
  legal : ∀ area ∈ shown, area.Legal
  /-- Only names with double quotes may have lost something. -/
  kept : ∀ area ∈ shown, area ∈ areas ∨ '"' ∈ area.sheet.toList

theorem Remains.trans {shown later : List Area} (one : Remains areas shown)
    (two : Remains shown later) :
    Remains areas later where
  length_le := two.length_le.trans one.length_le
  legal := two.legal
  kept := by
    intro area member
    rcases two.kept area member with kept | quoted
    · exact one.kept area kept
    · exact .inr quoted

/-- Two areas become one, on a sheet that is called by the start of the one name and the end of the
other. -/
theorem remains_joined {before after later : List Area} {found : Area} {first last : List Char}
    (legal : ∀ other ∈ before ++ found :: after, other.Legal)
    (sheet : found.sheet.toList = first ++ '"' :: last)
    {name tail : List Char} (joined : area.Legal) (named : area.sheet.toList = name ++ '"' :: tail)
    (rest : later.length ≤ after.length) (members : ∀ other ∈ later, other ∈ after) :
    Remains (before ++ found :: after)
      (before ++ area.onSheet (String.ofList (first ++ '"' :: '"' :: tail)) :: later) where
  length_le := by
    simp only [List.length_append, List.length_cons]
    omega
  legal := by
    have front := (legal found (by simp)).title.allowed
    have back := joined.title.allowed
    rw [sheet] at front
    rw [named] at back
    have title : LegalTitle (String.ofList (first ++ '"' :: '"' :: tail)) := by
      refine ⟨by simp [String.ext_iff], fun c member => ?_⟩
      simp only [String.toList_ofList, List.mem_append, List.mem_cons] at member
      rcases member with inside | rfl | rfl | inside
      · exact front c (by simp [inside])
      · decide
      · decide
      · exact back c (by simp [inside])
    intro other member
    rcases List.mem_append.1 member with inside | inside
    · exact legal other (by simp [inside])
    · rcases List.mem_cons.1 inside with rfl | inside
      · exact joined.onSheet title
      · exact legal other (by simp [members other inside])
  kept := by
    intro other member
    rcases List.mem_append.1 member with inside | inside
    · exact .inl (by simp [inside])
    · rcases List.mem_cons.1 inside with rfl | inside
      · exact .inr (by simp [Area.onSheet])
      · exact .inl (by simp [members other inside])

/-- What stands between two double quotes of a printed sum can be left out, and a printed sum is
left. -/
theorem exists_remains {hidden : List Char} (legal : ∀ area ∈ areas, area.Legal)
    (split : printed areas = front ++ '"' :: (hidden ++ '"' :: back)) :
    ∃ shown, printed shown = front ++ '"' :: '"' :: back ∧ Remains areas shown := by
  obtain ⟨before, found, after, first, last, rfl, sheet, behind, swap⟩ := exists_printed legal split
  have here : found.Legal := legal found (by simp)
  rcases List.append_eq_append_iff.1 behind.symm with ⟨more, rfl, later⟩ | ⟨more, inside, later⟩
  · -- The second double quote stands in the name of a later sheet.
    rcases after with _ | ⟨next, rest⟩
    · simp [further] at later
    rw [further_cons] at later
    rcases more with _ | ⟨plus, more⟩ <;>
      simp only [List.nil_append, List.cons_append, List.cons.injEq] at later
    · exact absurd later.1 (by decide)
    have others : ∀ area ∈ next :: rest, area.Legal := fun other member => legal other (by simp_all)
    obtain ⟨between, other, rest', first', tail, whole, sheet', rfl, _⟩ :=
      exists_printed others later.2
    have member : other ∈ next :: rest := by simp [whole]
    refine ⟨before ++ other.onSheet (String.ofList (first ++ '"' :: '"' :: tail)) :: rest', ?_, ?_⟩
    · rw [swap _ rest' ('"' :: tail) (by simp [Area.onSheet])]
      simp [quotedRest, doubleMarks, Area.onSheet, Area.place, Area.anchor, Area.isSingle]
    · apply remains_joined legal sheet (others other member) sheet'
      · simp only [whole, List.length_append, List.length_cons]
        omega
      · intro area inside
        simp [whole, inside]
  · rcases more with _ | ⟨quote, more⟩
    · rcases after with _ | ⟨next, rest⟩ <;> simp [further] at later
    simp only [List.cons_append, List.cons.injEq] at later
    obtain ⟨rfl, rfl⟩ := later
    obtain ⟨second, tail, rfl, rfl, rfl⟩ := exists_quotedRest here inside
    refine ⟨before ++ found.onSheet (String.ofList (first ++ '"' :: '"' :: tail)) :: after, ?_, ?_⟩
    · rw [swap _ after ('"' :: tail) (by simp [Area.onSheet])]
      simp [quotedRest, doubleMarks, Area.onSheet, Area.place, Area.anchor, Area.isSingle]
    · have named : found.sheet.toList = (first ++ '"' :: second) ++ '"' :: tail := by simp [sheet]
      exact remains_joined legal sheet here named le_rfl fun _ => id

theorem exists_shown {text : List Char} (legal : ∀ area ∈ areas, area.Legal)
    (split : printed areas = front ++ text) :
    ∃ shown, printed shown = front ++ emptyLiterals text ∧ Remains areas shown := by
  -- What was passed over is kept in front, so that what is left is always the end of a whole
  -- printed sum.
  induction size : text.length using Nat.strongRecOn generalizing text front areas with
  | ind length ih =>
    subst size
    rcases text with _ | ⟨c, rest⟩
    · exact ⟨areas, split, ⟨le_rfl, legal, fun _ member => .inl member⟩⟩
    · have pass : printed areas = (front ++ [c]) ++ rest := by simp [split]
      by_cases other : c ≠ '"'
      · obtain ⟨shown, whole, remains⟩ := ih _ (Nat.lt_succ_self _) legal pass rfl
        exact ⟨shown, by simp [whole, emptyLiterals_cons_of_ne rest other], remains⟩
      · obtain rfl := not_not.1 other
        cases closed : readEnclosed '"' rest with
        | none =>
          obtain ⟨shown, whole, remains⟩ := ih _ (Nat.lt_succ_self _) legal pass rfl
          exact ⟨shown, by simp [whole, emptyLiterals_of_unclosed closed], remains⟩
        | some read =>
          obtain ⟨content, back⟩ := read
          obtain ⟨hidden, rfl⟩ := readEnclosed_closing closed
          obtain ⟨cut, left, once⟩ := exists_remains legal split
          have shorter : back.length < ('"' :: (hidden ++ '"' :: back)).length := by simp; omega
          have pass : printed cut = (front ++ ['"', '"']) ++ back := by simp [left]
          obtain ⟨shown, whole, remains⟩ := ih _ shorter once.legal pass rfl
          exact ⟨shown, by simp [whole, emptyLiterals_of_read closed], once.trans remains⟩

theorem readBack?_eq_self {owner : String} (whole : breaksOff area = false) :
    readBack? owner area = some area := by
  rw [readBack?, whole]
  rfl

theorem not_breaksOff_of_quote (quote : '"' ∈ area.sheet.toList) : breaksOff area = false := by
  have bare : ¬ standsBare area.sheet.toList = true := fun bare =>
    notMem_of_standsBare bare (by decide) (by decide) quote
  simp [breaksOff, bare]

theorem filterMap_readBack? (whole : ∀ area ∈ areas, breaksOff area = false) (owner : String) :
    areas.filterMap (readBack? owner) = areas := by
  rw [List.filterMap_congr fun area member => readBack?_eq_self (whole area member),
    List.filterMap_some]

theorem whole_of_readBack? {shown : List Area} {owner : String} (remains : Remains areas shown)
    (all : areas = shown.filterMap (readBack? owner)) : ∀ area ∈ shown, breaksOff area = false := by
  have count : (shown.filterMap (readBack? owner)).length = shown.length :=
    le_antisymm (List.length_filterMap_le _ _) (all ▸ remains.length_le)
  have several {area : Area} (member : area ∈ shown) (broken : breaksOff area = true) :
      area.isSingle = false := by
    have some := List.filterMap_length_eq_length.1 count area member
    by_contra single
    simp [readBack?, broken, single] at some
  intro area member
  by_contra broken
  rw [Bool.not_eq_false] at broken
  have kept : area ∈ areas := by
    rcases remains.kept area member with kept | quoted
    · exact kept
    · exact absurd (not_breaksOff_of_quote quoted) (by simp [broken])
  rw [all] at kept
  obtain ⟨other, origin, read⟩ := List.mem_filterMap.1 kept
  by_cases other' : breaksOff other = true
  · -- Only a single cell is read behind a name that is broken off.
    have single : area.isSingle = true := by
      simp only [readBack?, if_pos other', several origin other', Bool.false_eq_true, if_false,
        Option.some.injEq] at read
      rw [← read]
      simp [Area.isSingle, Area.ofCorners]
    exact absurd single (by simp [several member broken])
  · rw [readBack?, if_neg other', Option.some.injEq] at read
    exact other' (read ▸ broken)

theorem noQuote_printed (legal : ∀ area ∈ areas, area.Legal)
    (noQuote : ∀ area ∈ areas, '"' ∉ area.sheet.toList) :
    '"' ∉ printed areas := by
  intro member
  obtain ⟨front, back, split⟩ := List.mem_iff_append.1 member
  obtain ⟨before, area, after, first, last, rfl, sheet, _⟩ := exists_printed legal split
  exact noQuote area (by simp) (by simp [sheet])

/-- Printed areas are read back, each with its sheet and all in their order, just if no double
quotes in the names of their sheets hide anything and no bare name is broken off by a line break at
its end.  Nothing is hidden where no name has a double quote. -/
theorem references_sum_eq_iff (legal : ∀ area ∈ areas, area.Legal)
    (differ : (areas.map referenceKey).Nodup) (owner : String) :
    (references (sumFormula areas) owner = areas ↔
      emptyLiterals (sumFormula areas).toList = (sumFormula areas).toList ∧
        ∀ area ∈ areas, breaksOff area = false) ∧
    ((∀ area ∈ areas, '"' ∉ area.sheet.toList) →
      emptyLiterals (sumFormula areas).toList = (sumFormula areas).toList) := by
  rw [sumFormula_toList, emptyLiterals_cons_of_ne _ (by decide), List.cons.injEq]
  refine ⟨⟨fun same => ?_, ?_⟩, fun noQuote => ?_⟩
  · obtain ⟨shown, shows, remains⟩ := exists_shown legal (List.nil_append (printed areas)).symm
    rw [List.nil_append] at shows
    rw [references_sum remains.legal shows.symm] at same
    have found : areas.Sublist (shown.filterMap (readBack? owner)) := by
      conv_lhs => rw [← same]
      exact firstsAfter_sublist _ _ _
    have short := (List.length_filterMap_le (readBack? owner) shown).trans remains.length_le
    have all := found.eq_of_length_le short
    have whole := whole_of_readBack? remains all
    rw [filterMap_readBack? whole] at all
    subst all
    exact ⟨⟨rfl, shows.symm⟩, whole⟩
  · rintro ⟨⟨_, shows⟩, whole⟩
    rw [references_sum legal shows, filterMap_readBack? whole, firstsBy_of_nodup differ]
  · have plain := emptyLiterals_append [] (noQuote_printed legal noQuote)
    rw [show emptyLiterals [] = [] from rfl, List.append_nil] at plain
    exact ⟨rfl, plain⟩

/-- Sheets with an apostrophe and what looks like another reference, with one double quote, and with
a bare name. -/
def pipes : List Area :=
  [.ofCorners "It's, A1!(x)" 0 0 1 1, .ofCorners "5\" pipe" 3 3 3 3, .ofCorners "Data" 2 2 2 8]

theorem references_sum_eq_iff_pipes :
    (∀ area ∈ pipes, area.Legal) ∧ (pipes.map referenceKey).Nodup ∧
      references (sumFormula pipes) "Data" = pipes := by
  have legal : ∀ area ∈ pipes, area.Legal := by decide
  have differ : (pipes.map referenceKey).Nodup := by decide
  exact ⟨legal, differ, (references_sum_eq_iff legal differ "Data").1.2
    ⟨by decide +kernel, by decide⟩⟩

/-- Two sheets with one double quote each: of two cells one is read, on a sheet that is none of the
two. -/
theorem references_sum_hides :
    let areas : List Area := [.ofCorners "a\"b" 0 0 0 0, .ofCorners "c\"d" 1 1 1 1]
    (∀ area ∈ areas, area.Legal) ∧ (areas.map referenceKey).Nodup ∧
      references (sumFormula areas) "S" = [.ofCorners "a\"\"d" 1 1 1 1] ∧
        references (sumFormula areas) "S" ≠ areas := by
  decide +kernel

end FormulaTrace.Formula
