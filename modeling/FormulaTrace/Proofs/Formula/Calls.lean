import FormulaTrace.Formula.FunctionName
import FormulaTrace.Proofs.Formula.Exactness

/-! The functions that a formula calls are exactly those that were written. String literals are
emptied first and quoted sheet names second.  Of an operand so little is left that it holds no call:
where it has a parenthesis inside, that went with the quotes around it, and the separator behind it
keeps the next parenthesis away from its last name. -/
namespace FormulaTrace.Formula
open Text

def Body.calls : Body → List BareName
  | done => []
  | last _ => []
  | operand _ _ rest => rest.calls
  | call function rest => function :: rest.calls
  | group rest => rest.calls

def BareName.capitals (name : BareName) : String := String.ofList (name.text.map Char.toUpper)

/-- The name of another workbook shows no parenthesis and no quote; a number does not. -/
def BookName.Quiet (file : BookName) : Prop := '(' ∉ file.text ∧ '\'' ∉ file.text

theorem BookName.quiet_of_decimal {file : BookName}
    (decimal : ∀ c ∈ file.text, isDecimalDigit c = true) : file.Quiet :=
  ⟨notMem_of_class decimal (by decide), notMem_of_class decimal (by decide)⟩

def Operand.Quiet : Operand → Prop
  | reference (.book file _) _ => file.Quiet
  | _ => True

def Body.Quiet (body : Body) : Prop := ∀ operand ∈ body.operands, operand.Quiet

/-! ### Sheet names left out -/

def emptyNames (formula : List Char) : List Char :=
  replaceOccurrences quotedSheet ['\'', '\''] formula

theorem quotedSheet_blind : Rule.Blind quotedSheet := fun _ _ _ => rfl

theorem quotedSheet_of_ne (before : Option Char) {c : Char} (rest : List Char) (h : c ≠ '\'') :
    quotedSheet before (c :: rest) = none := by
  simp [quotedSheet, h]

theorem emptyNames_cons_of_ne {c : Char} (rest : List Char) (h : c ≠ '\'') :
    emptyNames (c :: rest) = c :: emptyNames rest :=
  replaceOccurrences_cons _ quotedSheet_blind (quotedSheet_of_ne none rest h)

theorem emptyNames_append {text : List Char} (rest : List Char) (h : '\'' ∉ text) :
    emptyNames (text ++ rest) = text ++ emptyNames rest :=
  replaceOccurrences_append _ quotedSheet_blind rest fun c member rest =>
    quotedSheet_of_ne none rest fun same : c = '\'' => h (same ▸ member)

theorem emptyNames_enclose {name rest : List Char} (filled : name ≠ [])
    (h : rest.head? ≠ some '\'') :
    emptyNames (enclose '\'' name ++ rest) = '\'' :: '\'' :: emptyNames rest := by
  have found : quotedSheet none (enclose '\'' name ++ rest) = some (name, rest) := by
    have read := readEnclosed_doubleMarks '\'' name h
    simp only [enclose, List.cons_append, List.append_assoc, List.nil_append]
    simp [quotedSheet, read, filled]
  exact replaceOccurrences_found _ quotedSheet_blind (List.cons_ne_nil _ _) found

def Qualification.husk : Qualification → List Char
  | quoted _ => ['\'', '\'', '!']
  | qualification => qualification.spell

/-- What is left of a written operand when literals and quoted names are emptied. -/
def Operand.husk : Operand → List Char
  | reference qualification place => qualification.husk ++ place.spell
  | operand => operand.hollow

theorem Qualification.emptyNames_spell (qualification : Qualification) {place : WrittenPlace}
    (quiet : (Operand.reference qualification place).Quiet) (rest : List Char) :
    emptyNames (qualification.spell ++ rest) = qualification.husk ++ emptyNames rest := by
  cases qualification with
  | home => rfl
  | bare sheet =>
    exact emptyNames_append _ (by simp [spell, sheet.notMem_text (c := '\'') (by decide)])
  | quoted sheet =>
    have mark : ('!' :: rest).head? ≠ some '\'' := by simp
    rw [spell, List.append_assoc, List.singleton_append, emptyNames_enclose sheet.text_ne_nil mark,
      emptyNames_cons_of_ne _ (by decide)]
    rfl
  | book file sheet =>
    exact emptyNames_append _ (by simp [spell, quiet.2, sheet.notMem_text (c := '\'') (by decide)])

theorem Digits.noQuote (digits : Digits) : '\'' ∉ digits.text :=
  notMem_of_class digits.decimal (by decide)

theorem Operand.emptyNames_hollow (operand : Operand) (quiet : operand.Quiet) (rest : List Char) :
    emptyNames (operand.hollow ++ rest) = operand.husk ++ emptyNames rest := by
  cases operand with
  | reference qualification place =>
    have free : '\'' ∉ place.spell := place.notMem_spell (by decide) (by decide) (by decide)
      (by decide)
    rw [hollow, spell, List.append_assoc, qualification.emptyNames_spell quiet,
      emptyNames_append _ free, husk, List.append_assoc]
    · rintro _ ⟨⟩
  | literal content =>
    have marks : '\'' ∉ ['"', '"'] := by decide
    exact emptyNames_append rest marks
  | number whole fraction =>
    apply emptyNames_append
    cases fraction with
    | none => simp [hollow, spell, whole.noQuote]
    | some fraction => simp [hollow, spell, whole.noQuote, fraction.noQuote]

/-! ### Calls -/

def callsAfter (before : Option Char) (text : List Char) : List (List Char) :=
  occurrencesAfter functionCall before text

/-- Whether the name of a function may start behind a character. -/
def mayCall : Option Char → Bool
  | none => true
  | some c => !(isWordCharacter c || c = '.')

theorem functionCall_cons (before : Option Char) (c : Char) (rest : List Char) :
    functionCall before (c :: rest) =
      if mayCall before && isNameStart c then
        match (rest.dropWhile isNamePart).dropWhile isBlank with
        | '(' :: after => some (c :: rest.takeWhile isNamePart, after)
        | _ => none
      else none := by
  cases before <;> rfl

theorem functionCall_text {before : Option Char} (free : mayCall before = true) (name : BareName)
    (rest : List Char) :
    functionCall before (name.text ++ '(' :: rest) = some (name.text, rest) := by
  obtain ⟨c, more, whole, start, parts⟩ := name.exists_first
  have stop : ∀ d ∈ ('(' :: rest).head?, isNamePart d = false := by
    intro d first
    rw [← Option.some.inj first]
    decide
  have read := takeWhile_append parts stop
  have noBlank : ('(' :: rest).dropWhile isBlank = '(' :: rest :=
    List.dropWhile_cons_of_neg (by decide)
  rw [whole, List.cons_append, functionCall_cons]
  simp [free, start, read, noBlank]

theorem functionCall_of_not_isNameStart (before : Option Char) (c : Char) (rest : List Char)
    (h : isNameStart c = false) : functionCall before (c :: rest) = none := by
  simp [functionCall_cons, h]

theorem functionCall_of_uncalled (before : Option Char) (c : Char) {rest : List Char}
    (h : ((rest.dropWhile isNamePart).dropWhile isBlank).head? ≠ some '(') :
    functionCall before (c :: rest) = none := by
  rw [functionCall_cons]
  split
  · split
    next opened => simp [opened] at h
    next => rfl
  · rfl

/-- Nothing follows, or a separator that parts a name in front of it from a parenthesis behind
it. -/
structure Parted (rest : List Char) : Prop where
  boundary : Boundary rest
  uncalled : (rest.dropWhile isBlank).head? ≠ some '('

theorem Parted.nil : Parted [] := ⟨Boundary.nil, by simp⟩

theorem Separator.parted (separator : Separator) (rest : List Char) :
    Parted (separator.text ++ rest) := by
  refine ⟨separator.boundary rest, ?_⟩
  have solid : ∀ c ∈ "+-*/^&,;<>=%) ".toList, c ≠ ' ' → isBlank c = false :=
    List.all_iff_forall_prop.1 (by decide)
  obtain ⟨c, member, noSpace⟩ := separator.solid
  have noBlank := solid c (by simpa [isSeparatorCharacter] using separator.legal c member) noSpace
  have left : separator.text.dropWhile isBlank ≠ [] := by
    intro empty
    have blank := List.dropWhile_eq_nil_iff.1 empty c member
    exact absurd (noBlank.symm.trans blank) Bool.false_ne_true
  obtain ⟨d, more, whole⟩ := List.exists_cons_of_ne_nil left
  have legal := separator.legal d ((List.dropWhile_suffix isBlank).mem (by simp [whole]))
  have other : d ≠ '(' := ne_of_class legal (by decide)
  rw [List.dropWhile_append, whole]
  simpa using other

theorem callsAfter_silent (before : Option Char) {text rest : List Char} (silent : '(' ∉ text)
    (parted : Parted rest) :
    callsAfter before (text ++ rest) = callsAfter (text.getLast?.or before) rest := by
  induction text generalizing before with
  | nil => rfl
  | cons c more ih =>
    simp only [List.mem_cons, not_or] at silent
    have uncalled : (((more ++ rest).dropWhile isNamePart).dropWhile isBlank).head? ≠ some '(' := by
      rw [List.dropWhile_append]
      split
      · rw [parted.boundary.dropWhile (by decide)]
        exact parted.uncalled
      · apply head?_dropWhile_append _ parted.uncalled
        exact fun member => silent.2 ((List.dropWhile_suffix isNamePart).mem member)
    rw [List.cons_append, callsAfter,
      occurrencesAfter_cons (functionCall_of_uncalled before c uncalled)]
    refine (ih (some c) silent.2).trans ?_
    cases more <;> simp [List.getLast?_cons]

theorem callsAfter_cons (before : Option Char) {c : Char} (rest : List Char)
    (h : isNameStart c = false) :
    callsAfter before (c :: rest) = callsAfter (some c) rest :=
  occurrencesAfter_cons (functionCall_of_not_isNameStart before c rest h)

theorem callsAfter_inert (before : Option Char) {text : List Char} (rest : List Char)
    (h : ∀ c ∈ text, isNameStart c = false) :
    callsAfter before (text ++ rest) = callsAfter (text.getLast?.or before) rest :=
  occurrencesAfter_inert functionCall_of_not_isNameStart before rest h

theorem Digits.silent (digits : Digits) : '(' ∉ digits.text :=
  notMem_of_class digits.decimal (by decide)

theorem Operand.silent_husk (operand : Operand) (quiet : operand.Quiet) : '(' ∉ operand.husk := by
  cases operand with
  | reference qualification place =>
    have free : '(' ∉ place.spell := place.notMem_spell (by decide) (by decide) (by decide)
      (by decide)
    cases qualification with
    | home => simp [husk, Qualification.husk, Qualification.spell, free]
    | bare sheet =>
      simp [husk, Qualification.husk, Qualification.spell, free, sheet.notMem_text (c := '(')
        (by decide)]
    | quoted sheet => simp [husk, Qualification.husk, free]
    | book file sheet =>
      simp [husk, Qualification.husk, Qualification.spell, free, quiet.1,
        sheet.notMem_text (c := '(') (by decide)]
  | literal content => simp [husk, hollow]
  | number whole fraction =>
    cases fraction with
    | none => simp [husk, hollow, spell, whole.silent]
    | some fraction => simp [husk, hollow, spell, whole.silent, fraction.silent]

theorem Separator.callsAfter_text (separator : Separator) (before : Option Char)
    (rest : List Char) :
    ∃ before', mayCall before' = true ∧ callsAfter before (separator.text ++ rest) =
      callsAfter before' rest := by
  have every : ∀ c ∈ "+-*/^&,;<>=%) ".toList, isNameStart c = false ∧ mayCall (some c) = true :=
    List.all_iff_forall_prop.1 (by decide)
  have passed (c : Char) (member : c ∈ separator.text) : isNameStart c = false ∧
      mayCall (some c) = true :=
    every c (by simpa [isSeparatorCharacter] using separator.legal c member)
  obtain ⟨c, member, _⟩ := separator.solid
  have last := List.getLast?_eq_getLast_of_ne_nil (List.ne_nil_of_mem member)
  refine ⟨_, ?_, callsAfter_inert before rest fun c member => (passed c member).1⟩
  rw [last]
  exact (passed _ (List.getLast_mem _)).2

theorem Body.callsAfter_hollow (body : Body) (quiet : body.Quiet) {before : Option Char}
    (free : mayCall before = true) :
    callsAfter before (emptyNames body.hollow) = body.calls.map BareName.text := by
  -- Whatever part was read, the reader stands again where the name of a function may start.
  induction body generalizing before with
  | done => rfl
  | last final =>
    have emptied := final.emptyNames_hollow (quiet final List.mem_cons_self) []
    rw [List.append_nil] at emptied
    rw [hollow, emptied]
    exact callsAfter_silent before (final.silent_husk (quiet final List.mem_cons_self)) Parted.nil
  | operand first separator rest ih =>
    obtain ⟨here, others⟩ := List.forall_mem_cons.1 quiet
    have noQuote : '\'' ∉ separator.text := notMem_of_class separator.legal (by decide)
    have silent := callsAfter_silent before (first.silent_husk here)
      (separator.parted (emptyNames rest.hollow))
    obtain ⟨before', free', passed⟩ := separator.callsAfter_text (first.husk.getLast?.or before)
      (emptyNames rest.hollow)
    rw [hollow, first.emptyNames_hollow here, emptyNames_append _ noQuote, silent, passed,
      ih others free']
    rfl
  | call function rest ih =>
    have noQuote : '\'' ∉ function.text ++ ['('] := by
      simp [function.notMem_text (c := '\'') (by decide)]
    have emptied := emptyNames_append rest.hollow noQuote
    have filled : function.text ++ ['('] ≠ [] := by simp
    have read := functionCall_text free function (emptyNames rest.hollow)
    rw [List.append_cons] at read
    rw [hollow, List.append_cons, emptied, callsAfter, occurrencesAfter_found filled read,
      List.getLast?_concat]
    exact congrArg _ (ih quiet (by decide))
  | group rest ih =>
    rw [hollow, emptyNames_cons_of_ne _ (by decide), callsAfter_cons _ _ (by decide),
      ih quiet (by decide)]
    rfl

/-- The functions that a written formula calls are those that it opens, in capitals, each once, in
the order of their first use. -/
theorem functionNames_formula {body : Body} (quiet : body.Quiet) :
    functionNames body.formula = (body.calls.map BareName.capitals).eraseDups := by
  have emptied : emptyNames (emptyLiterals body.formula.toList) =
      '=' :: emptyNames body.hollow := by
    rw [Body.formula, String.toList_ofList, emptyLiterals_cons_of_ne _ (by decide),
      body.emptyLiterals_spell]
    exact emptyNames_cons_of_ne _ (by decide)
  have read : occurrences functionCall ('=' :: emptyNames body.hollow) =
      body.calls.map BareName.text :=
    (callsAfter_cons none _ (by decide)).trans (body.callsAfter_hollow quiet (by decide))
  have unfolded : functionNames body.formula =
      firstsBy id ((occurrences functionCall (emptyNames (emptyLiterals body.formula.toList))).map
        fun name => String.ofList (name.map Char.toUpper)) := rfl
  rw [unfolded, emptied, read, List.map_map, firstsBy_eq_eraseDupsBy]
  rfl

/-- A formula with parentheses in a literal and in the name of a sheet, and with a function in two
spellings. -/
def nested : Body :=
  let cell : WrittenCell :=
    ⟨false, ['B'], true, ['2'],
      List.all_eq_true.1 rfl, by decide, by decide, List.all_eq_true.1 rfl, by decide⟩
  let sheet : BareName := ⟨"Data".toList, by decide⟩
  let sum : QuotedName := ⟨"O'Brien SUM(".toList, by decide, by decide⟩
  let one : Digits := ⟨['1'], List.all_eq_true.1 rfl, by decide⟩
  let comma : Separator := ⟨[','], List.all_eq_true.1 rfl, ',', by decide, by decide⟩
  let plus : Separator := ⟨") + ".toList, List.all_eq_true.1 rfl, '+', by decide, by decide⟩
  .call ⟨"If".toList, by decide⟩ <|
  .operand (.literal "MAX(A1)".toList) comma <|
  .call ⟨"log.10".toList, by decide⟩ <|
  .operand (.reference (.quoted sum) ⟨cell, none⟩) plus <|
  .group <|
  .operand (.reference (.book ⟨['1'], by decide, by decide, by decide⟩ sheet) ⟨cell, some cell⟩)
    comma <|
  .call ⟨"IF".toList, by decide⟩ <|
  .last (.number one (some one))

theorem functionNames_formula_nested :
    nested.formula = "=If(\"MAX(A1)\",log.10('O''Brien SUM('!B$2) + ([1]Data!B$2:B$2,IF(1.1" ∧
      nested.Quiet ∧ functionNames nested.formula = ["IF", "LOG.10"] := by
  have quiet : nested.Quiet := by
    let book : BookName := ⟨['1'], by decide, by decide, by decide⟩
    have quiet : book.Quiet := BookName.quiet_of_decimal (List.all_eq_true.1 rfl)
    simpa [nested, Body.Quiet, Body.operands, Operand.Quiet] using quiet
  exact ⟨by decide +kernel, quiet, (functionNames_formula quiet).trans (by decide +kernel)⟩

end FormulaTrace.Formula
