import FormulaTrace.Proofs.Trace.Circularity
import FormulaTrace.Proofs.Trace.Course
import Mathlib.Tactic.Tauto

/-! What a truncated trace left out.
A trace is marked as truncated if somewhere cells or references were too many, or if sheets were
skipped; a trace without the mark went to all cells that were found. -/
namespace FormulaTrace

variable {σ : Type}

def Finding.skips : Finding → Bool
  | listed _ _ (some inventory) => !inventory.skipped.isEmpty
  | _ => false

def Stop.cuts (limits : Limits) : Stop → Bool
  | expanded snapshot finding => snapshot.omits limits finding || finding.skips
  | _ => false

namespace Walk

variable {source : Source σ} {limits : Limits} {mode : Mode} {progress later : Progress}
  {state after : σ}

theorem Finds.truncated_eq {snapshot : Snapshot} {finding : Finding}
    (finds : Finds source limits snapshot mode progress state finding later after) :
    later.truncated = (progress.truncated || finding.skips) := by
  cases finds with
  | taken _ _ _ took => simp [Finding.skips, Inventory.take_truncated took]
  | _ => simp [Finding.skips]

/-- What a walk remembers as left out is what its stops left out. -/
theorem Course.truncated_eq {depth : Nat} {addresses : List String} {stops : List Stop}
    {nodes : List Node}
    (course : Course source limits mode depth addresses progress state stops nodes later after) :
    later.truncated = (progress.truncated || stops.any (Stop.cuts limits)) := by
  induction course with
  | done => simp
  | again reads old further ih => simp [ih, Stop.cuts]
  | constant reads new direction bare shows further ih => simp [ih, Stop.cuts, Progress.enter]
  | last reads new follows further ih => simp [ih, Stop.cuts, Progress.enter]
  | expanded reads new follows finds descends further inner ih =>
    simp [ih, inner, finds.truncated_eq, Stop.cuts, Progress.enter, Progress.noting, Bool.or_assoc,
      Bool.or_comm]

end Walk

theorem Finding.followed_eq {limits : Limits} {finding : Finding}
    (few : finding.exceeds limits = false) :
    finding.followed limits = finding.addresses := by
  cases finding with
  | parsed areas =>
    have fits : (areas.length : Int) ≤ limits.maxReferences := by simpa [exceeds] using few
    simp [followed, addresses, Walk.upTo_of_length_le fits]
  | _ => rfl

theorem Snapshot.requested_eq {snapshot : Snapshot} {limits : Limits} {finding : Finding}
    (whole : snapshot.omits limits finding = false) :
    snapshot.requested limits finding = snapshot.distinct finding.addresses := by
  obtain ⟨few, fits⟩ := Bool.or_eq_false_iff.1 whole
  rw [Finding.followed_eq few] at fits
  rw [requested, Finding.followed_eq few, List.take_of_length_le]
  simpa using fits

theorem Finding.exceeds_iff {limits : Limits} {finding : Finding} :
    finding.exceeds limits = true ↔ ∃ areas, finding = .parsed areas ∧
      limits.maxReferences < areas.length := by
  cases finding <;> simp [exceeds]

theorem Finding.skips_iff {finding : Finding} :
    finding.skips = true ↔ ∃ target candidates inventory,
      finding = .listed target candidates (some inventory) ∧ inventory.skipped ≠ [] := by
  cases finding with
  | listed target candidates taken =>
    cases taken with
    | none => simp [skips]
    | some inventory =>
      constructor
      · intro skips
        exact ⟨target, candidates, inventory, rfl, by simpa [Finding.skips] using skips⟩
      · rintro ⟨_, _, _, same, left⟩
        cases same
        simpa [skips] using left
  | _ => simp [skips]

theorem Stop.cuts_expanded {limits : Limits} {snapshot : Snapshot} {finding : Finding} :
    (expanded snapshot finding).cuts limits = true ↔
      limits.maxChildren.toNat < (snapshot.distinct (finding.followed limits)).length ∨
        (∃ areas, finding = .parsed areas ∧ limits.maxReferences < areas.length) ∨
        ∃ target candidates inventory, finding = .listed target candidates (some inventory) ∧
          inventory.skipped ≠ [] := by
  rw [← Finding.exceeds_iff, ← Finding.skips_iff]
  simp only [cuts, Snapshot.omits, Bool.or_eq_true, decide_eq_true_eq]
  tauto

theorem Stop.any_cuts {limits : Limits} {stops : List Stop} :
    stops.any (cuts limits) = true ↔
      ∃ snapshot finding, expanded snapshot finding ∈ stops ∧
        (expanded snapshot finding).cuts limits = true := by
  rw [List.any_eq_true]
  constructor
  · rintro ⟨stop, member, cut⟩
    cases stop with
    | expanded snapshot finding => exact ⟨snapshot, finding, member, cut⟩
    | _ => cases cut
  · rintro ⟨snapshot, finding, member, cut⟩
    exact ⟨_, member, cut⟩

/-- If nothing was left out at any stop, a walk went to every cell that was found. -/
theorem Stop.requested_eq {limits : Limits} {stops : List Stop}
    (whole : stops.any (cuts limits) = false) {snapshot : Snapshot} {finding : Finding}
    (member : expanded snapshot finding ∈ stops) :
    snapshot.requested limits finding = snapshot.distinct finding.addresses := by
  have uncut : (expanded snapshot finding).cuts limits = false := by
    simpa using List.any_eq_false.1 whole _ member
  exact Snapshot.requested_eq (Bool.or_eq_false_iff.1 uncut).1

namespace Trace

open Reading

variable {source : Source σ} {limits : Limits} {target : Target} {state after : σ} {trace : Trace}

theorem Course.truncated_eq {address : String} {stops : List Stop}
    (course : Course source limits address state trace stops after) :
    trace.truncated = stops.any (Stop.cuts limits) := by
  cases course with
  | bare reads follows bare rootless whole => simp [whole]
  | rooted walked rooted truncated => simp [truncated, walked.truncated_eq]

/-- A trace is marked as truncated exactly if at some cell that it expanded there were more cells
than a node may have children, or more references in the formula than are followed, or an inventory
that skips sheets. Otherwise it went to every cell that was found, each once. -/
theorem request_truncated_iff {mode : Option String} {depth : Value}
    (given : Gives (request source limits target mode depth) state trace after) :
    ∃ address stops, target.address = .ok address ∧
      Course source limits address state trace stops after ∧
      (trace.truncated = true ↔ ∃ snapshot finding, .expanded snapshot finding ∈ stops ∧
        (limits.maxChildren.toNat < (snapshot.distinct (finding.followed limits)).length ∨
          (∃ areas, finding = .parsed areas ∧ limits.maxReferences < areas.length) ∨
          ∃ target candidates inventory, finding = .listed target candidates (some inventory) ∧
            inventory.skipped ≠ [])) ∧
      (trace.truncated = false → ∀ snapshot finding, .expanded snapshot finding ∈ stops →
        snapshot.requested limits finding = snapshot.distinct finding.addresses) := by
  obtain ⟨address, stops, place, _, course⟩ := request_course given
  refine ⟨address, stops, place, course, ?_, fun whole snapshot finding member => ?_⟩
  · simp only [course.truncated_eq, Stop.any_cuts, Stop.cuts_expanded]
  · rw [course.truncated_eq] at whole
    exact Stop.requested_eq whole member

/-- The first formula of the ring refers to two cells; a trace that lets a node have one child
leaves one out. -/
theorem request_truncated_iff_ring :
    ∃ trace after,
      Gives (request Script.ring.source { maxChildren := 1 } (.text "S!A1")
        (some "precedents") .blank) Script.ring.start trace after ∧
      trace.truncated = true ∧
      ∃ address stops, (Target.text "S!A1").address = .ok address ∧
        Course Script.ring.source { maxChildren := 1 } address Script.ring.start trace stops after ∧
        (trace.truncated = true ↔ ∃ snapshot finding, .expanded snapshot finding ∈ stops ∧
          (1 < (snapshot.distinct (finding.followed { maxChildren := 1 })).length ∨
            (∃ areas, finding = .parsed areas ∧ 20 < (areas.length : Int)) ∨
            ∃ target candidates inventory, finding = .listed target candidates (some inventory) ∧
              inventory.skipped ≠ [])) ∧
        (trace.truncated = false → ∀ snapshot finding, .expanded snapshot finding ∈ stops →
          snapshot.requested { maxChildren := 1 } finding =
            snapshot.distinct finding.addresses) := by
  obtain ⟨trace, after, given, truncated⟩ := exists_gives
    (show (((request Script.ring.source { maxChildren := 1 } (.text "S!A1")
      (some "precedents") .blank).run.run
      Script.ring.start).1.toOption.any Trace.truncated) = true by
      decide +kernel)
  exact ⟨trace, after, given, truncated, request_truncated_iff given⟩

end Trace

end FormulaTrace
