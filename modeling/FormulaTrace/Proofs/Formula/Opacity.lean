import FormulaTrace.Formula.FunctionName
import FormulaTrace.Formula.Reference
import FormulaTrace.Proofs.Formula.Literal
import Mathlib.Algebra.Group.Nat.Even

/-! What string literals hold.
A literal may touch other quotes, and a quote behind it may be left open, so that the reader takes
quotes together that were not written together.  Where it comes out does not depend on what the
literal holds, if no quotation is open in front of the literal. -/
namespace FormulaTrace.Formula
open Text

variable {mark : Char}

/-- The text behind a literal is left over in the same way whatever the literal holds. -/
theorem exists_left_of_content (mark : Char) (after : List Char) :
    ∃ left, ∀ content, ∃ body, readEnclosed mark (doubleMarks mark content ++ mark :: after) = some
      (body, left) := by
  obtain ⟨body, left, closed⟩ :
      ∃ body left, readEnclosed mark (mark :: after) = some (body, left) := by
    cases after with
    | nil => exact ⟨[], [], by simp [readEnclosed]⟩
    | cons c rest =>
      by_cases same : c = mark
      · subst same
        cases read : readEnclosed c rest with
        | none => exact ⟨[], c :: rest, by simp [readEnclosed, read]⟩
        | some found => exact ⟨c :: found.1, found.2, by simp [readEnclosed, read]⟩
      · exact ⟨[], c :: rest, by simp [readEnclosed, same]⟩
  refine ⟨left, fun content => ?_⟩
  induction content with
  | nil => exact ⟨body, closed⟩
  | cons c rest ih =>
    obtain ⟨inner, ih⟩ := ih
    by_cases same : c = mark
    · exact ⟨mark :: inner, by simp [doubleMarks, same, readEnclosed, ih]⟩
    · refine ⟨c :: inner, ?_⟩
      rw [doubleMarks, if_neg same, List.cons_append, readEnclosed_cons_of_ne same, ih]
      rfl

/-- A reader within a quotation comes out in front of a literal, where no quotation is open, or at a
place behind it. -/
theorem exists_left_of_literal (after : List Char) :
    (before : List Char) → ¬ Even (before.count mark) → ∃ left : List Char → List Char,
      (∀ content, ∃ body, readEnclosed mark (before ++ (enclose mark content ++ after)) = some
        (body, left content)) ∧
      ((∃ between, between.length < before.length ∧ Even (between.count mark) ∧
          left = fun content => between ++ (enclose mark content ++ after)) ∨
        ∃ fixed, left = fun _ => fixed)
  | [], odd => absurd .zero odd
  | c :: rest, odd => by
    by_cases same : mark = c
    · subst same
      rw [List.count_cons_self, Nat.even_add_one, not_not] at odd
      rcases rest with _ | ⟨d, rest⟩
      · -- The mark that opens the literal is the second one of a doubled mark.
        obtain ⟨fixed, read⟩ := exists_left_of_content mark after
        refine ⟨fun _ => fixed, fun content => ?_, .inr ⟨fixed, rfl⟩⟩
        obtain ⟨body, read⟩ := read content
        exact ⟨mark :: body, by simp [enclose, readEnclosed, read]⟩
      · by_cases doubled : mark = d
        · subst doubled
          rw [List.count_cons_self, Nat.even_add_one] at odd
          obtain ⟨left, read, ends⟩ := exists_left_of_literal after rest odd
          refine ⟨left, fun content => ?_, ends.imp_left ?_⟩
          · obtain ⟨body, read⟩ := read content
            exact ⟨mark :: body, by simp [readEnclosed, read]⟩
          · rintro ⟨between, shorter, even, found⟩
            exact ⟨between, Nat.lt_succ_of_lt (Nat.lt_succ_of_lt shorter), even, found⟩
        · refine ⟨fun content => d :: rest ++ (enclose mark content ++ after), fun content => ?_,
            .inl ⟨d :: rest, Nat.lt_succ_self _, odd, rfl⟩⟩
          exact ⟨[], by simp [readEnclosed, Ne.symm doubled]⟩
    · rw [List.count_cons_of_ne (Ne.symm same)] at odd
      obtain ⟨left, read, ends⟩ := exists_left_of_literal after rest odd
      refine ⟨left, fun content => ?_, ends.imp_left ?_⟩
      · obtain ⟨body, read⟩ := read content
        exact ⟨c ::
          body, by rw [List.cons_append, readEnclosed_cons_of_ne (Ne.symm same), read]; rfl⟩
      · rintro ⟨between, shorter, even, found⟩
        exact ⟨between, Nat.lt_succ_of_lt shorter, even, found⟩

/-- A formula with its literals emptied does not show what a literal held in front of which no
quotation is open. -/
theorem exists_emptied (before after : List Char) (even : Even (before.count '"')) :
    ∃ emptied, ∀ content, emptyLiterals (before ++ (enclose '"' content ++ after)) = emptied := by
  -- A quotation that the reader opens may end in front of the literal; then what is left is
  -- shorter.
  induction size : before.length using Nat.strongRecOn generalizing before with
  | ind length ih =>
    subst size
    rcases before with _ | ⟨c, rest⟩
    · obtain ⟨left, read⟩ := exists_left_of_content '"' after
      refine ⟨'"' :: '"' :: emptyLiterals left, fun content => ?_⟩
      obtain ⟨body, read⟩ := read content
      rw [List.nil_append, enclose, List.cons_append, List.append_assoc]
      exact emptyLiterals_of_read read
    · by_cases other : c ≠ '"'
      · rw [List.count_cons_of_ne other] at even
        obtain ⟨emptied, same⟩ := ih _ (Nat.lt_succ_self _) rest even rfl
        refine ⟨c :: emptied, fun content => ?_⟩
        rw [List.cons_append, emptyLiterals_cons_of_ne _ other, same]
      · obtain rfl := not_not.1 other
        rw [List.count_cons_self, Nat.even_add_one] at even
        obtain ⟨left, read, ends⟩ := exists_left_of_literal after rest even
        have passed (content : List Char) :
            emptyLiterals ('"' :: rest ++ (enclose '"' content ++ after)) =
              '"' :: '"' :: emptyLiterals (left content) := by
          obtain ⟨body, read⟩ := read content
          exact emptyLiterals_of_read read
        rcases ends with ⟨between, shorter, even, rfl⟩ | ⟨fixed, rfl⟩
        · obtain ⟨emptied, same⟩ := ih _ (Nat.lt_succ_of_lt shorter) between even rfl
          exact ⟨'"' :: '"' :: emptied, fun content => by rw [passed, same]⟩
        · exact ⟨_, passed⟩

def literalOf (content : String) : String := String.ofList (enclose '"' content.toList)

/-- What a string literal holds changes nothing about the areas that a formula refers to and the
functions that it calls, whatever stands before and behind the literal, if no quotation is open in
front of it. -/
theorem literal_content_irrelevant {before : String} (even : Even (before.toList.count '"'))
    (after first second owner : String) :
    references (before ++ literalOf first ++ after) owner = references
      (before ++ literalOf second ++ after) owner ∧
      functionNames (before ++ literalOf first ++ after) = functionNames
        (before ++ literalOf second ++ after) := by
  obtain ⟨emptied, same⟩ := exists_emptied before.toList after.toList even
  have whole (content : String) : emptyLiterals (before ++ literalOf content ++ after).toList =
      emptied := by
    rw [String.toList_append, String.toList_append, literalOf, String.toList_ofList,
      List.append_assoc, same]
  unfold references functionNames
  rw [whole, whole]
  exact ⟨rfl, rfl⟩

/-- A literal between another one that it touches and a quote that is left open: what is read is
read from outside of it. -/
theorem literal_content_irrelevant_touching :
    let before := "=A1&\"x\""
    let after := "\"&LOG10(B2)"
    Even (before.toList.count '"') ∧
      references (before ++ literalOf "+SUM(C3)" ++ after) "S" = references
        (before ++ literalOf "\"" ++ after) "S" ∧
      references (before ++ literalOf "\"" ++ after) "S" =
        [.ofCorners "S" 0 0 0 0, .ofCorners "S" 1 1 1 1] ∧
      functionNames (before ++ literalOf "+SUM(C3)" ++ after) = functionNames
        (before ++ literalOf "\"" ++ after) ∧
      functionNames (before ++ literalOf "\"" ++ after) = ["LOG10"] := by
  have even : Even ("=A1&\"x\"".toList.count '"') := by decide
  obtain ⟨areas, names⟩ := literal_content_irrelevant even "\"&LOG10(B2)" "+SUM(C3)" "\"" "S"
  exact ⟨even, areas, by decide +kernel, names, by decide +kernel⟩

end FormulaTrace.Formula
