import FormulaTrace.Proofs.Trace.Circularity
import FormulaTrace.Proofs.Trace.Course
import Mathlib.Data.List.Nodup

/-! The stops of a walk.
A walk enters every cell at one stop, and it comes to every cell that it requested; its nodes stand
in the order of its stops. -/
namespace FormulaTrace

variable {σ : Type}

def Node.atDepth : Nat → Node → List Node
  | 0, node => [node]
  | depth + 1, node => node.children.flatMap (atDepth depth)

namespace Stop

def snapshot : Stop → Snapshot
  | again snapshot => snapshot
  | constant snapshot _ => snapshot
  | last snapshot => snapshot
  | expanded snapshot _ => snapshot

def address (stop : Stop) : String := stop.snapshot.address

def enters : Stop → Bool
  | again _ => false
  | constant _ _ => true
  | last _ => true
  | expanded _ _ => true

theorem subset_inner (stop : Stop) (inner further : List Stop) :
    inner ⊆ stop :: (inner ++ further) :=
  List.subset_cons_of_subset _ (List.subset_append_left _ _)

theorem subset_further (stop : Stop) (inner further : List Stop) :
    further ⊆ stop :: (inner ++ further) :=
  List.subset_cons_of_subset _ (List.subset_append_right _ _)

end Stop

namespace Walk

variable {source : Source σ} {limits : Limits} {mode : Mode} {depth : Nat} {addresses : List String}
  {progress later : Progress} {state after : σ} {stops : List Stop} {nodes : List Node}

namespace Finds

variable {snapshot : Snapshot} {finding : Finding}

theorem searched (finds : Finds source limits snapshot mode progress state finding later after) :
    progress.Searched later := by
  cases finds with
  | taken asked place unknown took => exact ⟨rfl, fun known => by simp [unknown] at known⟩
  | _ => exact ⟨rfl, fun _ => ⟨rfl, rfl⟩⟩

theorem visited (finds : Finds source limits snapshot mode progress state finding later after)
    (more : Bool) :
    (later.noting more).visited = progress.visited :=
  finds.searched.visited

theorem listed {target : Cell} {candidates : List Candidate} {taken : Option Inventory}
    (finds : Finds source limits snapshot mode progress state (.listed target candidates taken)
      later after) :
    later.candidates = some candidates := by
  cases finds with
  | held asked place known => exact known
  | taken asked place unknown took => rfl

end Finds

/-- What a walk did at one of its stops, and what it knew in the end. -/
inductive Stands (source : Source σ) (limits : Limits) (mode : Mode) (stops : List Stop)
    (later : Progress) :
    Stop → Prop where
  | again {address : String} {state after : σ} {snapshot : Snapshot}
      (reads : (source.readCell address).Gives state snapshot after) :
      Stands source limits mode stops later (.again snapshot)
  | constant {address : String} {state after : σ} {snapshot shown : Snapshot}
      (reads : (source.readCell address).Gives state snapshot after) (follows : mode = .precedents)
      (bare : hasFormula snapshot = false) :
        Stands source limits mode stops later (.constant snapshot shown)
  | last {address : String} {state after : σ} {snapshot : Snapshot}
      (reads : (source.readCell address).Gives state snapshot after) :
      Stands source limits mode stops later (.last snapshot)
  | expanded {address : String} {depth : Nat} {progress found below : Progress}
      {state between after deep : σ}
      {snapshot : Snapshot} {finding : Finding} {inner : List Stop} {children : List Node}
      (reads : (source.readCell address).Gives state snapshot between)
      (follows : mode = .precedents → hasFormula snapshot = true)
      (finds : Finds source limits snapshot mode progress between finding found after)
      (descends : Course source limits mode depth (snapshot.requested limits finding)
        (found.noting (snapshot.omits limits finding)) after inner children below deep)
      (among : inner ⊆ stops) (kept : found.Keeps later) :
      Stands source limits mode stops later (.expanded snapshot finding)

namespace Stands

theorem mono {others : List Stop} {further : Progress} {stop : Stop} (fewer : stops ⊆ others)
    (kept : later.Keeps further) (stands : Stands source limits mode stops later stop) :
    Stands source limits mode others further stop := by
  cases stands with
  | again reads => exact .again reads
  | constant reads follows bare => exact .constant reads follows bare
  | last reads => exact .last reads
  | expanded reads follows finds descends among known =>
    exact .expanded reads follows finds descends (List.Subset.trans among fewer) (known.trans kept)

end Stands

namespace Course

theorem keeps (course : Course source limits mode depth addresses progress state stops nodes later
    after) :
    progress.Keeps later := by
  induction course with
  | done => exact .refl _
  | again reads old further ih => exact ih
  | constant reads new follows bare shows further ih => exact ih
  | last reads new follows further ih => exact ih
  | expanded reads new follows finds descends further inner ih =>
    have found : Progress.Keeps (Progress.enter _ _) _ := finds.searched.keeps
    exact (found.trans inner).trans ih

theorem visited_eq (course : Course source limits mode depth addresses progress state stops nodes
    later after) :
    later.visited = ((stops.filter Stop.enters).map Stop.address).reverse ++ progress.visited := by
  induction course with
  | done => rfl
  | again reads old further ih =>
    rw [ih, List.filter_cons_of_neg (by simp [Stop.enters])]
  | constant reads new follows bare shows further ih =>
    rw [ih, List.filter_cons_of_pos rfl, List.map_cons, List.reverse_cons, List.append_assoc]
    rfl
  | last reads new follows further ih =>
    rw [ih, List.filter_cons_of_pos rfl, List.map_cons, List.reverse_cons, List.append_assoc]
    rfl
  | expanded reads new follows finds descends further inner ih =>
    rw [List.cons_append, List.filter_cons_of_pos rfl, List.filter_append]
    simp [ih, inner, finds.visited, Progress.enter, Stop.address, Stop.snapshot]

theorem visited_nodup (course : Course source limits mode depth addresses progress state stops nodes
    later after) (differ : progress.visited.Nodup) : later.visited.Nodup := by
  induction course with
  | done => exact differ
  | again reads old further ih => exact ih differ
  | constant reads new follows bare shows further ih => exact ih (List.nodup_cons.2 ⟨new, differ⟩)
  | last reads new follows further ih => exact ih (List.nodup_cons.2 ⟨new, differ⟩)
  | expanded reads new follows finds descends further inner ih =>
    apply ih
    apply inner
    rw [finds.visited]
    exact List.nodup_cons.2 ⟨new, differ⟩

theorem visited_subset (course : Course source limits mode depth addresses progress state stops
    nodes later after) :
    progress.visited ⊆ later.visited := by
  rw [course.visited_eq]
  exact List.subset_append_right _ _

theorem mem_visited (course : Course source limits mode depth addresses progress state stops nodes
    later after) :
    ∀ stop ∈ stops, stop.address ∈ later.visited := by
  induction course with
  | done => simp
  | again reads old further ih => exact List.forall_mem_cons.2 ⟨further.visited_subset old, ih⟩
  | constant reads new follows bare shows further ih =>
    exact List.forall_mem_cons.2 ⟨further.visited_subset List.mem_cons_self, ih⟩
  | last reads new follows further ih =>
    exact List.forall_mem_cons.2 ⟨further.visited_subset List.mem_cons_self, ih⟩
  | expanded reads new follows finds descends further inner ih =>
    refine List.forall_mem_cons.2 ⟨?_, List.forall_mem_append.2 ⟨fun stop member => ?_, ih⟩⟩
    · apply further.visited_subset
      apply descends.visited_subset
      rw [finds.visited]
      exact List.mem_cons_self
    · exact further.visited_subset (inner stop member)

theorem stands (course : Course source limits mode depth addresses progress state stops nodes later
    after) :
    ∀ stop ∈ stops, Stands source limits mode stops later stop := by
  induction course with
  | done => simp
  | again reads old further ih =>
    refine List.forall_mem_cons.2 ⟨.again reads, fun stop member => ?_⟩
    exact (ih stop member).mono (List.subset_cons_self _ _) (.refl _)
  | constant reads new follows bare shows further ih =>
    refine List.forall_mem_cons.2 ⟨.constant reads follows bare, fun stop member => ?_⟩
    exact (ih stop member).mono (List.subset_cons_self _ _) (.refl _)
  | last reads new follows further ih =>
    refine List.forall_mem_cons.2 ⟨.last reads, fun stop member => ?_⟩
    exact (ih stop member).mono (List.subset_cons_self _ _) (.refl _)
  | expanded reads new follows finds descends further inner ih =>
    refine List.forall_mem_cons.2
      ⟨?_, List.forall_mem_append.2 ⟨fun stop member => ?_, fun stop member => ?_⟩⟩
    · exact .expanded reads follows finds descends (Stop.subset_inner _ _ _)
        (Progress.Keeps.trans descends.keeps further.keeps)
    · exact (inner stop member).mono (Stop.subset_inner _ _ _) further.keeps
    · exact (ih stop member).mono (Stop.subset_further _ _ _) (.refl _)

theorem enters_once
    (course : Course source limits mode depth addresses {} state stops nodes later after)
    {first second : Stop} (one : first ∈ stops) (enters : first.enters = true)
    (other : second ∈ stops) (enters' : second.enters = true)
    (same : first.address = second.address) : first = second := by
  have differ := course.visited_nodup List.nodup_nil
  rw [course.visited_eq, List.append_nil, List.nodup_reverse] at differ
  exact List.inj_on_of_nodup_map differ (List.mem_filter.2 ⟨one, enters⟩)
    (List.mem_filter.2 ⟨other, enters'⟩) same

theorem exists_enters (course : Course source limits mode depth addresses {} state stops nodes later
    after) {address : String} (member : address ∈ stops.map Stop.address) :
    ∃ stop ∈ stops, stop.enters = true ∧ stop.address = address := by
  obtain ⟨stop, among, rfl⟩ := List.mem_map.1 member
  have visited := course.mem_visited stop among
  rw [course.visited_eq, List.append_nil, List.mem_reverse] at visited
  obtain ⟨first, entered, same⟩ := List.mem_map.1 visited
  obtain ⟨among, enters⟩ := List.mem_filter.1 entered
  exact ⟨first, among, enters, same⟩

section Table

variable {cells : String → Snapshot} (reads : source.ReadsFrom cells)
include reads

theorem arrives (course : Course source limits mode depth addresses progress state stops nodes later
    after) :
    (addresses.map fun address => (cells address).address) ⊆ stops.map Stop.address := by
  induction course with
  | done => exact List.nil_subset _
  | again told old further ih =>
    obtain rfl := reads _ _ _ _ told
    exact List.cons_subset_cons _ ih
  | constant told new follows bare shows further ih =>
    obtain rfl := reads _ _ _ _ told
    exact List.cons_subset_cons _ ih
  | last told new follows further ih =>
    obtain rfl := reads _ _ _ _ told
    exact List.cons_subset_cons _ ih
  | expanded told new follows finds descends further inner ih =>
    obtain rfl := reads _ _ _ _ told
    exact List.cons_subset_cons _
      (List.Subset.trans ih (List.map_subset _ (List.subset_append_right _ _)))

theorem preorder_addresses
    (course : Course source limits mode depth addresses progress state stops nodes later after) :
    (Node.preorderAll nodes).map Node.address = stops.map Stop.address := by
  induction course with
  | done => rfl
  | again told old further ih => exact congrArg _ ih
  | constant told new follows bare shows further ih =>
    have known := reads _ _ _ _ told
    have shown := reads _ _ _ _ shows
    subst known shown
    exact congrArg _ ih
  | last told new follows further ih => exact congrArg _ ih
  | expanded told new follows finds descends further inner ih =>
    simp [Node.preorderAll, Node.preorder, Snapshot.node, Node.address, Stop.address, Stop.snapshot,
      ih, inner]

theorem root_address {start : String} {root : Node}
    (course : Course source limits mode depth [start] {} state stops [root] later after) :
    root.address = (cells start).address := by
  cases course with
  | again told old => cases old
  | constant told new follows bare shows further =>
    obtain rfl := reads _ _ _ _ shows
    rfl
  | last told new follows further =>
    obtain rfl := reads _ _ _ _ told
    rfl
  | expanded told new follows finds descends further =>
    obtain rfl := reads _ _ _ _ told
    rfl

end Table

end Course

end Walk

end FormulaTrace
