import FormulaTrace.Proofs.Address.Coordinate
import FormulaTrace.Text.Blank
import FormulaTrace.Text.DecimalDigit
import FormulaTrace.Text.LowerCase
import Mathlib.Data.Bool.AllAny
import Mathlib.Data.List.DropRight

/-! White space at the ends of a text.
Trimming is determined by the two ends, and lower-casing keeps both of them blank or not blank. -/
namespace FormulaTrace.Text

def apart (first second : CodeRanges) : Bool :=
  first.all fun range => second.all fun other => decide (range.2 < other.1 ∨ other.2 < range.1)

theorem contains_eq_false_of_apart {first second : CodeRanges} {code : Nat}
    (h : apart first second = true) (member : first.contains code = true) :
    second.contains code = false := by
  obtain ⟨range, inFirst, lower, upper⟩ := (CodeRanges.contains_iff _ _).1 member
  rw [← Bool.not_eq_true]
  intro both
  obtain ⟨other, inSecond, lower', upper'⟩ := (CodeRanges.contains_iff _ _).1 both
  simp only [apart, List.all_eq_true, decide_eq_true_eq] at h
  have disjoint := h range inFirst other inSecond
  omega

def allBlanks : CodeRanges := (9, 13) :: (28, 32) :: wideBlanks

theorem isBlank_eq_contains (c : Char) : isBlank c = allBlanks.contains c.toNat := by
  by_cases ascii : c.toNat < 128
  · have inside : CodeRanges.contains [(0, 127)] c.toNat = true :=
      (CodeRanges.contains_iff _ _).2 ⟨(0, 127), List.mem_singleton_self _, by omega, by omega⟩
    have disjoint : apart [(0, 127)] wideBlanks = true := by decide
    have wide := contains_eq_false_of_apart disjoint inside
    rw [isBlank, if_pos ascii]
    simp only [CodeRanges.contains] at wide
    simp [allBlanks, CodeRanges.contains, wide]
  · have first : ¬ c.toNat ≤ 13 := by omega
    have second : ¬ c.toNat ≤ 32 := by omega
    rw [isBlank, if_neg ascii]
    simp [allBlanks, CodeRanges.contains, first, second]

theorem isBlank_ofNat {code : Nat} (h : allBlanks.contains code = false) :
    isBlank (Char.ofNat code) = false := by
  rw [isBlank_eq_contains]
  by_cases valid : code.isValidChar
  · have same : (Char.ofNat code).toNat = code := by
      rw [Char.ofNat, dif_pos valid]
      rfl
    rwa [same]
  · rw [Char.ofNat, dif_neg valid]
    decide

theorem decimalRanges_contains {c : Char} (h : isDecimalDigit c = true) :
    CodeRanges.contains ((48, 57) :: wideDigits) c.toNat = true := by
  rw [CodeRanges.contains_iff]
  simp only [isDecimalDigit, digitValue?] at h
  split at h
  · split at h
    · rename_i digit
      simp only [Char.isDigit, Bool.and_eq_true, decide_eq_true_eq, UInt32.le_iff_toNat_le] at digit
      exact ⟨(48, 57), List.mem_cons_self, digit.1, digit.2⟩
    · simp at h
  · rw [Option.isSome_map] at h
    obtain ⟨range, found⟩ := Option.isSome_iff_exists.1 h
    have inside := List.find?_some found
    simp only [Bool.and_eq_true, decide_eq_true_eq] at inside
    exact ⟨range, List.mem_cons_of_mem _ (List.mem_of_find?_eq_some found), inside⟩

theorem isBlank_eq_false_of_isDecimalDigit {c : Char} (h : isDecimalDigit c = true) :
    isBlank c = false := by
  rw [isBlank_eq_contains]
  exact contains_eq_false_of_apart (by decide) (decimalRanges_contains h)

theorem isBlank_eq_false_of_isAsciiLetter {c : Char} (h : isAsciiLetter c = true) :
    isBlank c = false := by
  have every : ∀ code < 128, isAsciiLetter (Char.ofNat code) = true →
      isBlank (Char.ofNat code) = false := by
    decide
  have ascii : c.toNat < 128 := by
    have := (isAsciiLetter_lt h).2
    omega
  simpa [h] using every c.toNat ascii

theorem mem_trimStart {text : List Char} {c : Char} (member : c ∈ text) (ink : isBlank c = false) :
    c ∈ trimStart text := by
  rw [← List.takeWhile_append_dropWhile (p := isBlank) (l := text)] at member
  rcases List.mem_append.1 member with blank | here
  · rw [List.mem_takeWhile_imp blank] at ink
    cases ink
  · exact here

theorem mem_trim {text : List Char} {c : Char} (member : c ∈ text) (ink : isBlank c = false) :
    c ∈ trim text := by
  rw [trim, trimEnd, List.mem_reverse]
  exact mem_trimStart (List.mem_reverse.2 (mem_trimStart member ink)) ink

/-- Neither end of the text is blank. -/
def EndsInk (text : List Char) : Prop :=
  (∀ c ∈ text.head?, isBlank c = false) ∧ (∀ c ∈ text.getLast?, isBlank c = false)

instance (text : List Char) : Decidable (EndsInk text) :=
  decidable_of_iff (text.head?.all (fun c => !isBlank c) = true ∧
    text.getLast?.all (fun c => !isBlank c) = true) (by
      unfold EndsInk
      cases text.head? <;> cases text.getLast? <;> simp)

theorem EndsInk.append {first second : List Char} (one : EndsInk first) (other : EndsInk second) :
    EndsInk (first ++ second) := by
  constructor
  · intro c member
    rw [List.head?_append, Option.mem_def, Option.or_eq_some_iff] at member
    rcases member with here | ⟨_, there⟩
    · exact one.1 c here
    · exact other.1 c there
  · intro c member
    rw [List.getLast?_append, Option.mem_def, Option.or_eq_some_iff] at member
    rcases member with there | ⟨_, here⟩
    · exact other.2 c there
    · exact one.2 c here

theorem trimStart_eq_self_iff {text : List Char} :
    trimStart text = text ↔ ∀ c ∈ text.head?, isBlank c = false := by
  cases text with
  | nil => simp [trimStart]
  | cons c rest =>
    rw [trimStart, List.dropWhile_eq_self_iff]
    simp

theorem trimEnd_eq_self_iff {text : List Char} :
    trimEnd text = text ↔ ∀ c ∈ text.getLast?, isBlank c = false := by
  rw [show trimEnd text = text.rdropWhile isBlank from rfl, List.rdropWhile_eq_self_iff]
  cases text with
  | nil => simp
  | cons c rest => simp [List.getLast?_eq_getLast_of_ne_nil]

theorem trim_eq_self {text : List Char} (h : EndsInk text) : trim text = text := by
  rw [trim, trimStart_eq_self_iff.2 h.1, trimEnd_eq_self_iff.2 h.2]

theorem trim_between {before text after : List Char} (front : ∀ c ∈ before, isBlank c = true)
    (back : ∀ c ∈ after, isBlank c = true) (ends : EndsInk text) (filled : text ≠ []) :
    trim (before ++ text ++ after) = text := by
  have start : trimStart (before ++ text ++ after) = text ++ after := by
    rw [List.append_assoc, trimStart, List.dropWhile_append_of_pos front]
    apply trimStart_eq_self_iff.2
    rw [List.head?_append_of_ne_nil _ filled]
    exact ends.1
  have turned : ∀ c ∈ after.reverse, isBlank c = true :=
    fun c member => back c (List.mem_reverse.1 member)
  rw [trim, start, trimEnd, List.reverse_append, List.dropWhile_append_of_pos turned]
  exact trimEnd_eq_self_iff.2 ends.2

theorem head?_trimEnd {text : List Char} (h : ∀ c ∈ text.head?, isBlank c = false) :
    ∀ c ∈ (trimEnd text).head?, isBlank c = false := by
  intro c first
  have before : trimEnd text <+: text := List.rdropWhile_prefix isBlank text
  obtain ⟨rest, whole⟩ := before
  apply h
  rw [← whole, List.head?_append, Option.mem_def.1 first]
  rfl

theorem endsInk_trim (text : List Char) : EndsInk (trim text) := by
  constructor
  · apply head?_trimEnd
    rw [← trimStart_eq_self_iff]
    exact List.dropWhile_idempotent isBlank _
  · rw [← trimEnd_eq_self_iff]
    exact List.rdropWhile_idempotent isBlank _

def capitalRanges : CodeRanges := wideCapitals.map fun (first, last, _, _) => (first, last)

def smallRanges : CodeRanges :=
  wideCapitals.map fun (first, last, _, distance) =>
    ((first + distance).toNat, (last + distance).toNat)

theorem capitalRanges_apart : apart capitalRanges allBlanks = true := by decide +kernel

theorem smallRanges_apart : apart smallRanges allBlanks = true := by decide +kernel

theorem isBlank_toLower {c : Char} (h : c.toNat < 128) : isBlank c.toLower = isBlank c := by
  have every : ∀ code < 128, isBlank (Char.ofNat code).toLower = isBlank (Char.ofNat code) := by
    decide
  simpa using every c.toNat h

theorem isBlank_eq_false_of_capital {c : Char} {first last step : Nat} {distance : Int}
    (listed : (first, last, step, distance) ∈ wideCapitals) (lower : first ≤ c.toNat)
    (upper : c.toNat ≤ last) :
    isBlank c = false ∧ isBlank (Char.ofNat (c.toNat + distance).toNat) = false := by
  constructor
  · rw [isBlank_eq_contains]
    refine contains_eq_false_of_apart capitalRanges_apart ((CodeRanges.contains_iff _ _).2 ?_)
    exact ⟨(first, last), List.mem_map.2 ⟨_, listed, rfl⟩, lower, upper⟩
  · apply isBlank_ofNat
    refine contains_eq_false_of_apart smallRanges_apart ((CodeRanges.contains_iff _ _).2 ?_)
    refine ⟨_, List.mem_map.2 ⟨_, listed, rfl⟩, ?_, ?_⟩
    · exact Int.toNat_le_toNat (by omega)
    · exact Int.toNat_le_toNat (by omega)

theorem isBlank_of_mem_lowerChar {c d : Char} (h : d ∈ lowerChar c) : isBlank d = isBlank c := by
  simp only [lowerChar] at h
  split at h
  · rename_i ascii
    rw [List.mem_singleton.1 h]
    exact isBlank_toLower ascii
  · split at h
    · rename_i dotted
      have plain : isBlank c = false := by
        rw [isBlank_eq_contains, dotted]
        decide
      have dots : ∀ d ∈ ['i', Char.ofNat 0x307], isBlank d = false :=
        List.all_iff_forall_prop.1 (by decide)
      rw [plain, dots d h]
    · split at h
      · rename_i first last step distance found
        obtain ⟨lower, upper⟩ : first ≤ c.toNat ∧ c.toNat ≤ last := by
          have inside := List.find?_some found
          simp only [Bool.and_eq_true, decide_eq_true_eq] at inside
          exact inside.1
        obtain ⟨capital, small⟩ :=
          isBlank_eq_false_of_capital (List.mem_of_find?_eq_some found) lower upper
        rw [List.mem_singleton.1 h, capital, small]
      · rw [List.mem_singleton.1 h]

theorem lowerChar_ne_nil (c : Char) : lowerChar c ≠ [] := by
  simp only [lowerChar]
  grind

theorem exists_lowerAfter_cons (before : List Char) (c : Char) (rest : List Char) :
    ∃ read ≠ [], (∀ d ∈ read, isBlank d = isBlank c) ∧
      lowerAfter before (c :: rest) = read ++ lowerAfter (c :: before) rest := by
  by_cases sigma : c = capitalSigma
  · refine ⟨[if casedAhead before && !casedAhead rest then finalSigma
      else smallSigma], by simp, ?_, ?_⟩
    · subst sigma
      have small : isBlank smallSigma = isBlank capitalSigma := by decide
      have final : isBlank finalSigma = isBlank capitalSigma := by decide
      intro d only
      rw [List.mem_singleton.1 only]
      split
      · exact final
      · exact small
    · simp [lowerAfter, sigma]
  · exact ⟨lowerChar c, lowerChar_ne_nil c, fun d =>
      isBlank_of_mem_lowerChar, by simp [lowerAfter, sigma]⟩

theorem head?_lowerAfter (before text : List Char) :
    (lowerAfter before text).head?.map isBlank = text.head?.map isBlank := by
  cases text with
  | nil => rfl
  | cons c rest =>
    obtain ⟨read, filled, same, whole⟩ := exists_lowerAfter_cons before c rest
    obtain ⟨d, more, rfl⟩ := List.exists_cons_of_ne_nil filled
    simp [whole, same d]

theorem getLast?_lowerAfter (before text : List Char) :
    (lowerAfter before text).getLast?.map isBlank = text.getLast?.map isBlank := by
  induction text generalizing before with
  | nil => rfl
  | cons c rest ih =>
    obtain ⟨read, filled, same, whole⟩ := exists_lowerAfter_cons before c rest
    rw [whole, List.getLast?_append, List.getLast?_cons, Option.map_or, ih]
    cases rest with
    | nil =>
      have last := List.getLast?_eq_getLast_of_ne_nil filled
      simp [last, same _ (List.getLast_mem filled)]
    | cons d more => simp [List.getLast?_cons]

theorem endsInk_iff {text : List Char} :
    EndsInk text ↔ text.head?.map isBlank ≠ some true ∧ text.getLast?.map isBlank ≠ some true := by
  simp only [EndsInk, Option.mem_def, ne_eq, Option.map_eq_some_iff, not_exists, not_and,
    Bool.not_eq_true]

theorem endsInk_of_lower_eq {first second : List Char} (same : lower first = lower second)
    (h : EndsInk second) : EndsInk first := by
  rw [endsInk_iff, ← head?_lowerAfter [], ← getLast?_lowerAfter []] at h ⊢
  rwa [show lowerAfter [] first = lowerAfter [] second from same]

end FormulaTrace.Text
