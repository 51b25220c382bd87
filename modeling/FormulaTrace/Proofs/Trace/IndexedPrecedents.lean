import FormulaTrace.Proofs.Formula.Areas
import FormulaTrace.Proofs.Trace.Agreement
import FormulaTrace.Proofs.Trace.Beside

/-! Traces of precedents with an index and without one.
The index keeps the areas of every formula as texts, and a walk takes the first cell of each;
without an index a walk takes the first cells of the areas themselves.  Both find the same cells
below every cell, so that both find the same tree. -/
namespace FormulaTrace
open Text

namespace Walk

variable {sheets : List Sheet} {values : Option (List Sheet)} {limits : Limits} {limit : Int}
  {held : Option (List Candidate) → Prop}

open OpenWorkbook

theorem filterMap_texts (home : String) {areas : List Area} (placed : ∀ area ∈ areas, area.Placed) :
    (areas.map Area.text).filterMap (fun address => canonical? address home) =
      (areas.map Area.anchorAddress).filterMap fun address => canonical? address home := by
  rw [List.filterMap_map, List.filterMap_map]
  apply List.filterMap_congr
  intro area member
  rw [Function.comp_apply, Function.comp_apply]
  exact Area.canonical?_text (placed area member) home

theorem capChildren_texts (cap : Int) (home : String) {areas : List Area}
    (placed : ∀ area ∈ areas, area.Placed) :
    capChildren cap home (areas.map Area.text) = capChildren cap home
      (areas.map Area.anchorAddress) := by
  unfold capChildren
  rw [filterMap_texts home placed]

theorem below_precedents_agree (well : WellFormedSheets sheets)
    (few : ∀ reader ∈ Reader.all sheets, (reader.areas.length : Int) ≤ limits.maxReferences)
    {snapshot : Snapshot} (known : Known sheets snapshot) (follows : hasFormula snapshot = true) :
    Agree (Abreast held (Beside sheets values limit)) (Abreast held (Beside sheets values limit))
      (fun _ => True) (below source limits .precedents snapshot)
        (below source limits .precedents snapshot) := by
  obtain ⟨sheet, place, tells⟩ := known
  have named := well.named sheet tells.listed
  cases written : snapshot.formula with
  | none =>
    rw [hasFormula, written] at follows
    cases follows
  | some formula =>
    have filled : formula ≠ "" := by
      rw [hasFormula, written] at follows
      exact of_decide_eq_true follows
    have member := tells.reader (well.spanned sheet tells.listed) written
    have home : (separate snapshot.address).1.getD "" = sheet.title := by
      rw [tells.separate_address named]
      rfl
    have groups : (Index.ofSheets limit sheets).precedents snapshot.address =
        (Formula.references formula sheet.title).map fun area => [area.text] := by
      have address : snapshot.address = (⟨sheet.title, place, formula⟩ : Reader).address :=
        tells.address
      rw [address, Index.precedents_ofSheets well.differ member]
      rfl
    have fits := few _ member
    simp only [Reader.areas] at fits
    have whole := Int.not_lt.2 fits
    refine below_agree ((Index.ofSheets limit sheets).precedents snapshot.address) ?_
      fun p s q t related => ?_
    · dsimp only
      unfold fromFormula
      rw [home, written, groups]
      simp only [if_neg filled, decide_eq_false whole, upTo_of_length_le fits]
      refine noted_agree (gather_agree ?_)
      rw [← List.flatMap_def, ← List.map_eq_flatMap]
      exact capChildren_texts _ _ fun area listed => Formula.placed_of_mem_references named listed
    · obtain ⟨after, told, untold, beside⟩ := indexed_beside tells named .precedents p q related.2
      exact ⟨after, t, told, untold, beside⟩

theorem visit_precedents_agree (well : WellFormedSheets sheets)
    (few : ∀ reader ∈ Reader.all sheets, (reader.areas.length : Int) ≤ limits.maxReferences)
    (depth : Nat) (address : String) :
    Agree (Abreast held (Beside sheets values limit)) (Abreast held (Beside sheets values limit))
      (fun _ => True) (visit source limits .precedents depth address)
      (visit source limits .precedents depth address) := by
  have reads (child : String) : Agree (Abreast held (Beside sheets values limit))
      (Abreast held (Beside sheets values limit)) (Known sheets) (Walk.read source child)
        (Walk.read source child) :=
    read_agree (fun _ _ _ => rfl) (readCell_agree limit child)
  refine visit_agree reads (fun snapshot known follows => ?_) depth address
  exact below_precedents_agree well few known (follows rfl)

end Walk

namespace Trace

open OpenWorkbook Walk

/-- Whether an index is used or not, a trace of precedents of a workbook ends in the same way,
unless a formula has more references than are followed. -/
theorem request_precedents_indexed {sheets : List Sheet} (values : Option (List Sheet))
    (limit : Int) (well : WellFormedSheets sheets) {limits : Limits}
    (few : ∀ reader ∈ Reader.all sheets, (reader.areas.length : Int) ≤ limits.maxReferences)
    (target : Target) (depth : Value) :
    ((request source limits target (some "precedents") depth).run.run
      (start sheets values (some limit))).1.map withoutOrigin =
      ((request source limits target (some "precedents") depth).run.run
        (start sheets values none)).1.map withoutOrigin := by
  apply request_agree
  intro direction asked read _
  have direction : Mode.precedents = direction := Except.ok.inj read
  subst direction
  have started : Beside sheets values limit (start sheets values (some limit))
      (start sheets values none) :=
    ⟨shows_start_indexed well.spanned limit, shows_start well.spanned⟩
  have even : Even (fun _ => True) {} {} := ⟨rfl, rfl, rfl, trivial⟩
  refine run_agree (Abreast (fun _ => True) (Beside sheets values limit)) ⟨even, started⟩
    fun address _ => ?_
  apply (visit_precedents_agree well few _ address).mono (fun _ _ _ _ related => related)
  exact fun _ _ _ _ related => ⟨related.1, trivial⟩

theorem request_precedents_indexed_ledger :
    (∀ reader ∈ Reader.all ledger, (reader.areas.length : Int) ≤ ({} : Limits).maxReferences) ∧
      ((request source {} (.text "'sum 1'!B1") (some "precedents") .blank).run.run
          (start ledger none (some 10000))).1.map withoutOrigin =
        ((request source {} (.text "'sum 1'!B1") (some "precedents") .blank).run.run
          (start ledger none none)).1.map withoutOrigin ∧
      ((request source {} (.text "'sum 1'!B1") (some "precedents") .blank).run.run
          (start ledger none none)).1.toOption.map nodeCount = some 3 := by
  have few : ∀ reader ∈ Reader.all ledger, (reader.areas.length : Int) ≤
      ({} : Limits).maxReferences := by
    decide +kernel
  exact ⟨few, request_precedents_indexed none 10000 ledger_wellFormed few _ _, by decide +kernel⟩

end Trace

end FormulaTrace
