import FormulaTrace.Proofs.Formula.Mention

/-! The references of a formula are exactly those that were written. Neither a literal, a number, a
function name nor a reference into another workbook gives an area, and no tail of any of them does.
The induction is on the body of the formula; it keeps that a mention may start where the next item
stands. -/
namespace FormulaTrace.Formula
open Text

def Operand.hollow : Operand → List Char
  | literal _ => ['"', '"']
  | operand => operand.spell

def Body.hollow : Body → List Char
  | done => []
  | last final => final.hollow
  | operand first separator rest => first.hollow ++ (separator.text ++ rest.hollow)
  | call function rest => function.text ++ '(' :: rest.hollow
  | group rest => '(' :: rest.hollow

theorem BareName.notMem_text (name : BareName) {c : Char} (h : isNamePart c = false) :
    c ∉ name.text := by
  obtain ⟨d, rest, whole, start, parts⟩ := name.exists_first
  have every : ∀ e ∈ name.text, isNamePart e = true := by
    rw [whole]
    exact List.forall_mem_cons.2 ⟨isNamePart_of_isNameStart start, parts⟩
  exact notMem_of_class every h

theorem Qualification.noDoubleQuote (qualification : Qualification) :
    '"' ∉ qualification.spell := by
  cases qualification with
  | home => simp [spell]
  | bare sheet => simp [spell, sheet.notMem_text (c := '"') (by decide)]
  | quoted sheet =>
    have free : '"' ∉ doubleMarks '\'' sheet.text := notMem_doubleMarks sheet.noDoubleQuote
    simp [spell, enclose, free]
  | book file sheet => simp [spell, file.noDoubleQuote, sheet.notMem_text (c := '"') (by decide)]

theorem Digits.noDoubleQuote (digits : Digits) : '"' ∉ digits.text :=
  notMem_of_class digits.decimal (by decide)

theorem Separator.noDoubleQuote (separator : Separator) : '"' ∉ separator.text :=
  notMem_of_class separator.legal (by decide)

theorem Separator.boundary (separator : Separator) (rest : List Char) :
    Boundary (separator.text ++ rest) := by
  obtain ⟨c, member, _⟩ := separator.solid
  obtain ⟨d, more, whole⟩ := List.exists_cons_of_ne_nil (List.ne_nil_of_mem member)
  intro e first
  have same : d = e := by simpa [whole] using first
  exact same ▸ separator.legal d (by simp [whole])

theorem Operand.emptyLiterals_spell (operand : Operand) {rest : List Char}
    (boundary : Boundary rest) :
    emptyLiterals (operand.spell ++ rest) = operand.hollow ++ emptyLiterals rest := by
  cases operand with
  | reference qualification place =>
    apply emptyLiterals_append
    have free : '"' ∉ place.spell := place.notMem_spell (by decide) (by decide) (by decide)
      (by decide)
    simp [spell, qualification.noDoubleQuote, free]
  | literal content => exact emptyLiterals_enclose content boundary.noMark
  | number whole fraction =>
    apply emptyLiterals_append
    cases fraction with
    | none => simp [spell, whole.noDoubleQuote]
    | some fraction => simp [spell, whole.noDoubleQuote, fraction.noDoubleQuote]

theorem Boundary.nil : Boundary [] := by
  intro c first
  simp at first

/-- Emptying the literals of a formula leaves everything else as it was written. -/
theorem Body.emptyLiterals_spell (body : Body) : emptyLiterals body.spell = body.hollow := by
  induction body with
  | done => rfl
  | last final =>
    have read := final.emptyLiterals_spell Boundary.nil
    rw [List.append_nil, show emptyLiterals [] = [] from rfl, List.append_nil] at read
    exact read
  | operand first separator rest ih =>
    rw [spell, first.emptyLiterals_spell (separator.boundary _),
      emptyLiterals_append _ separator.noDoubleQuote, ih]
    rfl
  | call function rest ih =>
    have free : '"' ∉ function.text := function.notMem_text (by decide)
    rw [spell, emptyLiterals_append _ free, emptyLiterals_cons_of_ne _ (by decide), ih]
    rfl
  | group rest ih =>
    rw [spell, emptyLiterals_cons_of_ne _ (by decide), ih]
    rfl

def Operand.mention? : Operand → Option Mention
  | reference qualification place =>
    some ⟨qualification.qualifier, place.start.token, place.stop.map WrittenCell.token⟩
  | literal _ => none
  | number _ _ => none

theorem not_canStart_of_isDecimalDigit {c : Char} (h : isDecimalDigit c = true) :
    canStart c = false := by
  have noLetter := isAsciiLetter_eq_false_of_isDecimalDigit h
  have other (d : Char) (noDigit : isDecimalDigit d = false) : c ≠ d := ne_of_class h noDigit
  simp only [isAsciiLetter] at noLetter
  simp [canStart, isNameStart, noLetter, other '_' (by decide), other '$' (by decide),
    other '\'' (by decide), other '[' (by decide)]

theorem Operand.number_inert (whole : Digits) (fraction : Option Digits) :
    ∀ c ∈ (number whole fraction).spell, canStart c = false := by
  have digits (d : Digits) : ∀ c ∈ d.text, canStart c = false :=
    fun c member => not_canStart_of_isDecimalDigit (d.decimal c member)
  cases fraction with
  | none => simpa [spell] using digits whole
  | some fraction =>
    intro c member
    simp only [spell, List.mem_append, List.mem_cons] at member
    rcases member with inWhole | rfl | inFraction
    · exact digits whole c inWhole
    · decide
    · exact digits fraction c inFraction

theorem Operand.mentionsAfter_hollow {before : Option Char} (free : mayStart before = true)
    (operand : Operand) {rest : List Char} (boundary : Boundary rest) :
    ∃ before', mentionsAfter before (operand.hollow ++ rest) =
      operand.mention?.toList ++ mentionsAfter before' rest := by
  cases operand with
  | reference qualification place =>
    have filled : qualification.spell ++ place.spell ≠ [] := by
      obtain ⟨c, first, _⟩ := place.head?_spell []
      intro empty
      simp [(List.append_eq_nil_iff.1 empty).2] at first
    have read := mention_reference free qualification place boundary
    rw [← List.append_assoc] at read
    exact ⟨_, mentionsAfter_found filled read⟩
  | literal content =>
    have marks : ∀ c ∈ ['"', '"'], canStart c = false := List.all_iff_forall_prop.1 (by decide)
    exact ⟨_, mentionsAfter_inert before rest marks⟩
  | number whole fraction =>
    exact ⟨_, mentionsAfter_inert before rest (number_inert whole fraction)⟩

theorem Separator.mentionsAfter_text (separator : Separator) (before : Option Char)
    (rest : List Char) :
    ∃ before', mayStart before' = true ∧
      mentionsAfter before (separator.text ++ rest) = mentionsAfter before' rest := by
  have every : ∀ c ∈ "+-*/^&,;<>=%) ".toList, canStart c = false ∧ mayStart (some c) = true :=
    List.all_iff_forall_prop.1 (by decide)
  have passed (c : Char) (member : c ∈ separator.text) : canStart c = false ∧
      mayStart (some c) = true :=
    every c (by simpa [isSeparatorCharacter] using separator.legal c member)
  obtain ⟨c, member, _⟩ := separator.solid
  have last := List.getLast?_eq_getLast_of_ne_nil (List.ne_nil_of_mem member)
  refine ⟨_, ?_, mentionsAfter_inert before rest fun c member => (passed c member).1⟩
  rw [last]
  exact (passed _ (List.getLast_mem _)).2

theorem Body.mentionsAfter_hollow (body : Body) {before : Option Char}
    (free : mayStart before = true) :
    mentionsAfter before body.hollow = body.operands.filterMap Operand.mention? := by
  -- Whatever part was read, the reader stands again where a mention may start.
  induction body generalizing before with
  | done => rfl
  | last final =>
    obtain ⟨before', read⟩ := final.mentionsAfter_hollow free Boundary.nil
    rw [List.append_nil] at read
    rw [hollow, read, operands, show mentionsAfter before' [] = [] from rfl]
    cases mention : final.mention? <;> simp [mention]
  | operand first separator rest ih =>
    obtain ⟨before', read⟩ := first.mentionsAfter_hollow free (separator.boundary rest.hollow)
    obtain ⟨before'', free', passed⟩ := separator.mentionsAfter_text before' rest.hollow
    rw [hollow, read, passed, ih free', operands, List.filterMap_cons]
    cases first.mention? <;> rfl
  | call function rest ih =>
    rw [hollow, mentionsAfter_call, ih (by decide), operands]
  | group rest ih =>
    rw [hollow, mentionsAfter_cons (mention_of_not_canStart before rest.hollow (by decide)),
      ih (by decide), operands]

theorem Qualification.sheet?_qualifier (qualification : Qualification) (owner : String) :
    qualification.qualifier.sheet? owner = qualification.sheet? owner := by
  cases qualification with
  | home => rfl
  | bare sheet => rfl
  | quoted sheet =>
    simp only [qualifier, sheet?]
    split <;> rfl
  | book file sheet => rfl

theorem WrittenPlace.area?_mention (place : WrittenPlace) (qualifier : Qualifier) (owner : String) :
    (place.mention qualifier).area? owner = (qualifier.sheet? owner).bind place.area? := by
  have stop : (place.stop.map WrittenCell.token).getD place.start.token =
      (place.stop.getD place.start).token := by
    cases place.stop <;> rfl
  simp only [Mention.area?, WrittenPlace.mention, stop, WrittenCell.toOption_position]
  rfl

theorem Operand.area?_mention (operand : Operand) (owner : String) :
    (operand.mention?.bind fun mention => mention.area? owner) = operand.area? owner := by
  cases operand with
  | reference qualification place =>
    exact (place.area?_mention _ owner).trans (by rw [qualification.sheet?_qualifier]; rfl)
  | literal content => rfl
  | number whole fraction => rfl

/-- The references of a written formula are the areas that it names, each once, in the order of
their first mention. -/
theorem references_formula (body : Body) (owner : String) :
    references body.formula owner =
      (body.areas owner).eraseDupsBy fun first second =>
        referenceKey first = referenceKey second := by
  have hollow : emptyLiterals body.formula.toList = '=' :: body.hollow := by
    rw [Body.formula, String.toList_ofList, emptyLiterals_cons_of_ne _ (by decide),
      body.emptyLiterals_spell]
  have read : occurrences mention ('=' :: body.hollow) =
      body.operands.filterMap Operand.mention? := by
    have passed := mentionsAfter_cons
      (mention_of_not_canStart none body.hollow (by decide : canStart '=' = false))
    exact passed.trans (body.mentionsAfter_hollow (by decide))
  have areas : (body.operands.filterMap Operand.mention?).filterMap
    (fun found => found.area? owner) = body.areas owner := by
    rw [List.filterMap_filterMap, Body.areas]
    congr 1
    funext operand
    exact operand.area?_mention owner
  rw [references, hollow, read, areas, firstsBy_eq_eraseDupsBy]

end FormulaTrace.Formula
