import FormulaTrace.Proofs.Formula.Grammar
import FormulaTrace.Proofs.Formula.Literal

/-! Which mentions are read from a written formula.
A reference is read whole as one mention; every other character of a formula is passed over, because
it cannot start a mention or because it continues a word. -/
namespace FormulaTrace.Formula
open Text

def mentionsAfter (before : Option Char) (text : List Char) : List Mention :=
  occurrencesAfter mention before text

def canStart (c : Char) : Bool := isNameStart c || c = '$' || c = '\'' || c = '['

theorem mentionsAfter_cons {before : Option Char} {c : Char} {rest : List Char}
    (h : mention before (c :: rest) = none) :
    mentionsAfter before (c :: rest) = mentionsAfter (some c) rest :=
  occurrencesAfter_cons h

theorem mentionsAfter_found {before : Option Char} {text rest : List Char} {found : Mention}
    (filled : text ≠ []) (h : mention before (text ++ rest) = some (found, rest)) :
    mentionsAfter before (text ++ rest) = found :: mentionsAfter text.getLast? rest :=
  occurrencesAfter_found filled h

theorem mention_of_not_mayStart {before : Option Char} (text : List Char)
    (h : mayStart before = false) :
    mention before text = none := by
  simp [mention, h]

theorem readQualifier_of_not_canStart {c : Char} (rest : List Char) (h : canStart c = false) :
    readQualifier (c :: rest) = some (.home, c :: rest) := by
  simp only [canStart, Bool.or_eq_false_iff, decide_eq_false_iff_not] at h
  obtain ⟨⟨⟨noName, _⟩, noQuote⟩, noBracket⟩ := h
  simp [readQualifier, noQuote, noBracket, readBareName, noName]

theorem isAsciiLetter_of_not_canStart {c : Char} (h : canStart c = false) :
    isAsciiLetter c = false := by
  simp only [canStart, isNameStart, Bool.or_eq_false_iff] at h
  exact h.1.1.1.1

theorem mention_of_not_canStart (before : Option Char) {c : Char} (rest : List Char)
    (h : canStart c = false) : mention before (c :: rest) = none := by
  have noDollar : c ≠ '$' := by
    simp only [canStart, Bool.or_eq_false_iff, decide_eq_false_iff_not] at h
    exact h.1.1.2
  have noToken : CellToken.read (c :: rest) = none := by
    simp [CellToken.read, CellToken.dropDollar, noDollar, isAsciiLetter_of_not_canStart h]
  simp [mention, readQualifier_of_not_canStart rest h, noToken]

theorem mentionsAfter_inert (before : Option Char) {text : List Char} (rest : List Char)
    (h : ∀ c ∈ text, canStart c = false) :
    mentionsAfter before (text ++ rest) = mentionsAfter (text.getLast?.or before) rest :=
  occurrencesAfter_inert (fun before _ rest => mention_of_not_canStart before rest) before rest h

theorem isWordCharacter_of_isNamePart {c : Char} (h : isNamePart c = true) :
    isWordCharacter c = true ∨ c = '.' := by
  have ascii : c.isAlphanum = true → c.toNat < 128 := by
    intro alnum
    simp only [Char.isAlphanum, Bool.or_eq_true] at alnum
    rcases alnum with letter | digit
    · have := (isAsciiLetter_lt letter).2
      omega
    · have := isDigit_toNat_le digit
      omega
  simp only [isNamePart, Bool.or_eq_true, decide_eq_true_eq] at h
  rcases h with (alnum | rfl) | rfl
  · simp [isWordCharacter, ascii alnum, alnum]
  · exact .inl rfl
  · exact .inr rfl

theorem not_mayStart_of_isNamePart {c : Char} (h : isNamePart c = true) :
    mayStart (some c) = false := by
  rcases isWordCharacter_of_isNamePart h with word | rfl
  · simp [mayStart, word]
  · rfl

theorem not_mayEnd_of_isNamePart {c : Char} (rest : List Char) (h : isNamePart c = true) :
    mayEnd (c :: rest) = false := by
  rcases isWordCharacter_of_isNamePart h with word | rfl
  · simp [mayEnd, word]
  · rfl

theorem mentionsAfter_parts {c : Char} (name rest : List Char) (touched : isNamePart c = true)
    (parts : ∀ d ∈ name, isNamePart d = true) :
    ∃ d, isNamePart d = true ∧ mentionsAfter (some c) (name ++ rest) = mentionsAfter (some d)
      rest := by
  induction name generalizing c with
  | nil => exact ⟨c, touched, rfl⟩
  | cons d more ih =>
    obtain ⟨first, others⟩ := List.forall_mem_cons.1 parts
    rw [List.cons_append, mentionsAfter_cons
      (mention_of_not_mayStart _ (not_mayStart_of_isNamePart touched))]
    exact ih first others

/-- Nothing follows, or a separator does. -/
def Boundary (rest : List Char) : Prop := ∀ c ∈ rest.head?, isSeparatorCharacter c = true

theorem Boundary.head {rest : List Char} (h : Boundary rest) {p : Char → Prop} [DecidablePred p]
    (every : ("+-*/^&,;<>=%) ".toList.all fun c => p c) = true) : ∀ c ∈ rest.head?, p c := by
  intro c first
  exact List.all_iff_forall_prop.1 every c (by simpa [isSeparatorCharacter] using h c first)

theorem Boundary.dropWhile {rest : List Char} (h : Boundary rest) {p : Char → Bool}
    (every : ("+-*/^&,;<>=%) ".toList.all fun c => p c = false) = true) :
    rest.dropWhile p = rest := by
  have first := h.head every
  cases rest with
  | nil => rfl
  | cons c more => exact List.dropWhile_cons_of_neg (by simp [first c rfl])

theorem Boundary.mayEnd {rest : List Char} (h : Boundary rest) : mayEnd rest = true := by
  have first := h.head (p := fun c => Formula.mayEnd [c] = true) (by decide)
  cases rest with
  | nil => rfl
  | cons c more => exact first c rfl

theorem Boundary.noDigit {rest : List Char} (h : Boundary rest) :
    ∀ c ∈ rest.head?, isDecimalDigit c = false :=
  h.head (by decide)

theorem Boundary.noMark {rest : List Char} (h : Boundary rest) : rest.head? ≠ some '"' := by
  intro first
  exact absurd (h.head (p := (· ≠ '"')) (by decide) '"' first) (by simp)

theorem Boundary.noStop {rest : List Char} (h : Boundary rest) : readStop rest = none := by
  have first := h.head (p := (· ≠ ':')) (by decide)
  cases rest with
  | nil => rfl
  | cons c more =>
    have other : c ≠ ':' := first c rfl
    simp [readStop, other]

namespace WrittenPlace

theorem head?_spell (place : WrittenPlace) (rest : List Char) :
    ∃ c, (place.spell ++ rest).head? = some c ∧ (c = '$' ∨ isAsciiLetter c = true) := by
  obtain ⟨c, more, whole, letter⟩ := place.start.exists_letter
  cases fixed : place.start.fixedColumn with
  | true => exact ⟨'$', by simp [spell, WrittenCell.text, fixed, dollar], .inl rfl⟩
  | false => exact ⟨c, by simp [spell, WrittenCell.text, fixed, dollar, whole], .inr letter⟩

theorem read_spell (place : WrittenPlace) {rest : List Char} (boundary : Boundary rest) :
    ∃ after, CellToken.read (place.spell ++ rest) = some (place.start.token, after) ∧
      match place.stop with
      | none => after = rest ∧ readStop after = none
      | some stop => readStop after = some (stop.token, rest) := by
  cases stop : place.stop with
  | none =>
    refine ⟨rest, ?_, rfl, boundary.noStop⟩
    simp only [spell, stop, List.append_nil]
    exact place.start.read_text boundary.noDigit
  | some stop' =>
    refine ⟨':' :: (stop'.text ++ rest), ?_, ?_⟩
    · simp only [spell, stop, List.append_assoc, List.cons_append]
      apply place.start.read_text
      intro c first
      rw [← Option.some.inj first]
      decide
    · simp [readStop, stop'.read_text boundary.noDigit, boundary.mayEnd]

end WrittenPlace

theorem BareName.exists_first (name : BareName) :
    ∃ c rest, name.text = c :: rest ∧ isNameStart c = true ∧ ∀ d ∈ rest, isNamePart d = true := by
  cases whole : name.text with
  | nil => exact absurd name.bare (by simp [whole, isBareName])
  | cons c rest =>
    have bare := name.bare
    simp only [whole, isBareName, Bool.and_eq_true, List.all_eq_true] at bare
    exact ⟨c, rest, rfl, bare⟩

theorem readBareName_text (name : BareName) {after : List Char}
    (stop : ∀ c ∈ after.head?, isNamePart c = false) :
    readBareName (name.text ++ after) = some (name.text, after) := by
  obtain ⟨c, rest, whole, start, parts⟩ := name.exists_first
  have read := takeWhile_append parts stop
  simp [whole, readBareName, start, read]

/-- A text that starts like a bare name is no qualifier unless an exclamation mark ends the name. -/
theorem readQualifier_home {text : List Char} (quote : text.head? ≠ some '\'')
    (bracket : text.head? ≠ some '[') (mark : (text.dropWhile isNamePart).head? ≠ some '!') :
    readQualifier text = some (.home, text) := by
  cases text with
  | nil => rfl
  | cons c rest =>
    have noQuote : c ≠ '\'' := by simpa using quote
    have noBracket : c ≠ '[' := by simpa using bracket
    by_cases start : isNameStart c = true
    · rw [List.dropWhile_cons_of_pos (isNamePart_of_isNameStart start)] at mark
      cases after : rest.dropWhile isNamePart with
      | nil => simp [readQualifier, noQuote, noBracket, readBareName, start, after]
      | cons d more =>
        have noMark : d ≠ '!' := by simpa [after] using mark
        simp [readQualifier, noQuote, noBracket, readBareName, start, after, noMark]
    · simp [readQualifier, noQuote, noBracket, readBareName, start]

theorem head?_dropWhile_append {α : Type} {p : α → Bool} {mark : α} {before after : List α}
    (inside : mark ∉ before) (outside : (after.dropWhile p).head? ≠ some mark) :
    ((before ++ after).dropWhile p).head? ≠ some mark := by
  induction before with
  | nil => exact outside
  | cons a rest ih =>
    simp only [List.mem_cons, not_or] at inside
    rw [List.cons_append, List.dropWhile_cons]
    split
    · exact ih inside.2
    · simpa using Ne.symm inside.1

theorem WrittenPlace.notMem_spell (place : WrittenPlace) {c : Char}
    (letter : isAsciiLetter c = false)
    (digit : isDecimalDigit c = false) (dollar : c ≠ '$') (colon : c ≠ ':') : c ∉ place.spell := by
  have start := place.start.notMem_text letter digit dollar
  cases stop : place.stop with
  | none => simpa [spell, stop] using start
  | some stop' => simp [spell, stop, start, colon, stop'.notMem_text letter digit dollar]

def Qualification.qualifier : Qualification → Qualifier
  | home => .home
  | bare sheet => .sheet (String.ofList sheet.text)
  | quoted sheet => if ']' ∈ sheet.text then .external else .sheet (String.ofList sheet.text)
  | book _ _ => .external

theorem stops_at_mark (after : List Char) : ∀ c ∈ ('!' :: after).head?, isNamePart c = false := by
  intro c first
  rw [← Option.some.inj first]
  decide

theorem readQualifier_place (place : WrittenPlace) {rest : List Char} (boundary : Boundary rest) :
    readQualifier (place.spell ++ rest) = some (.home, place.spell ++ rest) := by
  obtain ⟨c, first, start⟩ := place.head?_spell rest
  have plain {d : Char} (letter : isAsciiLetter d = false) (dollar : '$' ≠ d) : c ≠ d := by
    rcases start with rfl | isLetter
    · exact dollar
    · exact ne_of_class isLetter letter
  have noMark : '!' ∉ place.spell :=
    place.notMem_spell (by decide) (by decide) (by decide) (by decide)
  apply readQualifier_home
  · simpa [first] using plain (by decide) (by decide)
  · simpa [first] using plain (by decide) (by decide)
  · apply head?_dropWhile_append noMark
    rw [boundary.dropWhile (by decide)]
    intro mark
    exact absurd (boundary.head (p := (· ≠ '!')) (by decide) '!' mark) (by simp)

theorem readQualifier_bare (sheet : BareName) (after : List Char) :
    readQualifier (sheet.text ++ '!' :: after) = some
      (.sheet (String.ofList sheet.text), after) := by
  obtain ⟨c, more, whole, start, _⟩ := sheet.exists_first
  have noQuote : c ≠ '\'' := ne_of_class start (by decide)
  have noBracket : c ≠ '[' := ne_of_class start (by decide)
  have read := readBareName_text sheet (stops_at_mark after)
  rw [whole, List.cons_append] at read
  rw [whole, List.cons_append]
  simp [readQualifier, noQuote, noBracket, read]

theorem readQualifier_book (file : BookName) (sheet : BareName) (after : List Char) :
    readQualifier ('[' :: (file.text ++ ']' :: (sheet.text ++ '!' :: after))) = some
      (.external, after) := by
  have inside : ∀ c ∈ file.text, (c ≠ ']' : Bool) = true := by
    intro c member
    simpa using fun same : c = ']' => file.noBracket (same ▸ member)
  have bracketStops : ∀ c ∈ (']' :: (sheet.text ++ '!' :: after)).head?,
    (c ≠ ']' : Bool) = false := by simp
  have afterBook := (takeWhile_append inside bracketStops).2
  have noBracket : (file.text ++ ']' :: (sheet.text ++ '!' :: after)).head? ≠ some ']' := by
    obtain ⟨c, more, whole⟩ := List.exists_cons_of_ne_nil file.text_ne_nil
    have other := inside c (by simp [whole])
    simpa [whole] using other
  have read := readBareName_text sheet (stops_at_mark after)
  simp only [readQualifier]
  rw [afterBook]
  simp only [if_neg noBracket, read]

theorem readQualifier_quoted {name : List Char} (filled : name ≠ []) (after : List Char) :
    readQualifier (enclose '\'' name ++ '!' :: after) =
      some (if ']' ∈ name then .external else .sheet (String.ofList name), after) := by
  have noQuote : ('!' :: after).head? ≠ some '\'' := by simp
  have read := readEnclosed_doubleMarks '\'' name noQuote
  simp only [enclose, List.cons_append, List.append_assoc, List.nil_append]
  simp [readQualifier, read, filled]

theorem readQualifier_spell (qualification : Qualification) (place : WrittenPlace)
    {rest : List Char} (boundary : Boundary rest) :
    readQualifier (qualification.spell ++ (place.spell ++ rest)) =
      some (qualification.qualifier, place.spell ++ rest) := by
  cases qualification with
  | home => exact readQualifier_place place boundary
  | bare sheet =>
    rw [Qualification.spell, List.append_assoc]
    exact readQualifier_bare sheet _
  | quoted sheet =>
    rw [Qualification.spell, List.append_assoc]
    exact readQualifier_quoted sheet.text_ne_nil _
  | book file sheet =>
    simp only [Qualification.spell, List.cons_append, List.append_assoc, List.nil_append]
    exact readQualifier_book file sheet _

def WrittenPlace.mention (place : WrittenPlace) (qualifier : Qualifier) : Mention :=
  ⟨qualifier, place.start.token, place.stop.map WrittenCell.token⟩

theorem mention_place {before : Option Char} (free : mayStart before = true) {text : List Char}
    {qualifier : Qualifier} (place : WrittenPlace) {rest : List Char} (boundary : Boundary rest)
    (qualified : readQualifier text = some (qualifier, place.spell ++ rest)) :
    mention before text = some (place.mention qualifier, rest) := by
  obtain ⟨after, start, stop⟩ := place.read_spell boundary
  unfold WrittenPlace.mention
  cases written : place.stop with
  | none =>
    rw [written] at stop
    obtain ⟨rfl, noStop⟩ := stop
    simp [mention, free, qualified, start, noStop, boundary.mayEnd]
  | some stop' =>
    rw [written] at stop
    simp [mention, free, qualified, start, stop]

theorem mention_reference {before : Option Char} (free : mayStart before = true)
    (qualification : Qualification) (place : WrittenPlace) {rest : List Char}
    (boundary : Boundary rest) :
    mention before (qualification.spell ++ (place.spell ++ rest)) =
      some (place.mention qualification.qualifier, rest) :=
  mention_place free place boundary (readQualifier_spell qualification place boundary)

theorem span_append {α : Type} {p : α → Bool} {mark : α} (stop : p mark = false)
    (before after : List α) :
    (before ++ mark :: after).takeWhile p = before.takeWhile p ∧
      (before ++ mark :: after).dropWhile p = before.dropWhile p ++ mark :: after := by
  induction before with
  | nil => simp [stop]
  | cons a rest ih => by_cases inside : p a = true <;> simp [inside, ih]

/-- What is left of a name in front of an opening parenthesis, after some of it was read. -/
def EndsInCall (text rest : List Char) : Prop :=
  ∃ name, (∀ c ∈ name, isNamePart c = true) ∧ text = name ++ '(' :: rest

namespace EndsInCall

variable {text rest : List Char}

theorem dropWhile (h : EndsInCall text rest) {p : Char → Bool} (stop : p '(' = false) :
    EndsInCall (text.dropWhile p) rest := by
  obtain ⟨name, parts, rfl⟩ := h
  refine ⟨name.dropWhile p, fun c member => parts c ((List.dropWhile_suffix p).mem member), ?_⟩
  exact (span_append stop name rest).2

theorem head? (h : EndsInCall text rest) :
    ∃ c more, text = c :: more ∧ (isNamePart c = true ∨ c = '(') := by
  obtain ⟨name, parts, rfl⟩ := h
  cases name with
  | nil => exact ⟨'(', rest, rfl, .inr rfl⟩
  | cons c more => exact ⟨c, more ++ '(' :: rest, rfl, .inl (parts c List.mem_cons_self)⟩

theorem head?_ne (h : EndsInCall text rest) {c : Char} (part : isNamePart c = false)
    (other : c ≠ '(') :
    text.head? ≠ some c := by
  obtain ⟨d, more, rfl, start⟩ := h.head?
  rcases start with isPart | rfl
  · simpa using ne_of_class isPart part
  · simpa using Ne.symm other

theorem dropDollar (h : EndsInCall text rest) : CellToken.dropDollar text = text := by
  have same := dropDollar_dollar false (h.head?_ne (by decide) (by decide))
  simpa [dollar] using same

theorem not_mayEnd (h : EndsInCall text rest) : mayEnd text = false := by
  obtain ⟨c, more, rfl, part | rfl⟩ := h.head?
  · exact not_mayEnd_of_isNamePart more part
  · rfl

theorem readStop (h : EndsInCall text rest) : Formula.readStop text = none := by
  have noColon := h.head?_ne (c := ':') (by decide) (by decide)
  obtain ⟨c, more, rfl, _⟩ := h.head?
  have other : c ≠ ':' := by simpa using noColon
  simp [Formula.readStop, other]

theorem readQualifier (h : EndsInCall text rest) :
    Formula.readQualifier text = some (.home, text) := by
  apply readQualifier_home
  · exact h.head?_ne (by decide) (by decide)
  · exact h.head?_ne (by decide) (by decide)
  · exact (h.dropWhile (by decide)).head?_ne (by decide) (by decide)

theorem mention (h : EndsInCall text rest) (before : Option Char) :
    Formula.mention before text = none := by
  have left : EndsInCall (((text.dropWhile isAsciiLetter)).dropWhile isDecimalDigit) rest :=
    (h.dropWhile (by decide)).dropWhile (by decide)
  cases token : CellToken.read text with
  | none => simp [Formula.mention, h.readQualifier, token]
  | some found =>
    obtain ⟨start, after⟩ := found
    have same : after = (text.dropWhile isAsciiLetter).dropWhile isDecimalDigit := by
      rw [CellToken.read] at token
      simp only [h.dropDollar,
        (h.dropWhile (by decide : isAsciiLetter '(' = false)).dropDollar] at token
      split at token
      · contradiction
      · exact (Prod.mk.inj (Option.some.inj token)).2.symm
    rw [← same] at left
    simp [Formula.mention, h.readQualifier, token, left.readStop, left.not_mayEnd]

end EndsInCall

/-- A function name is passed over, whatever cell it looks like. -/
theorem mentionsAfter_call (before : Option Char) (name : BareName) (rest : List Char) :
    mentionsAfter before (name.text ++ '(' :: rest) = mentionsAfter (some '(') rest := by
  obtain ⟨c, more, whole, start, parts⟩ := name.exists_first
  have part := isNamePart_of_isNameStart start
  have call : EndsInCall (c :: (more ++ '(' :: rest)) rest :=
    ⟨c :: more, List.forall_mem_cons.2 ⟨part, parts⟩, rfl⟩
  obtain ⟨d, _, passed⟩ := mentionsAfter_parts more ('(' :: rest) part parts
  rw [whole, List.cons_append, mentionsAfter_cons (call.mention before), passed]
  exact mentionsAfter_cons (mention_of_not_canStart _ rest (by decide))

end FormulaTrace.Formula
