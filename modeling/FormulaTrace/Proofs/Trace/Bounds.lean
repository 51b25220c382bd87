import FormulaTrace.Outcome
import FormulaTrace.Proofs.Trace.Failures
import FormulaTrace.Proofs.Trace.Shape

/-! Bounds of traces.
How deep a tree may be and how many children a node may have bounds the calls of a trace as well,
whatever its source answers: a node costs two calls at most, apart from those of a scan for
formulas. -/
namespace FormulaTrace

variable {σ α β : Type}

/-- How many nodes a tree has if every node that is not at the bottom has so many children. -/
def treeSize (width : Nat) : Nat → Nat
  | 0 => 1
  | depth + 1 => 1 + width * treeSize width depth

def Call.scans : Call → Bool
  | sheetNames | usedRange _ | formulaGrid _ => true
  | readCell _ | precedents _ | dependents _ => false

def unscanned (calls : List MadeCall) : Nat := calls.countP fun made => !made.call.scans

theorem unscanned_append (calls more : List MadeCall) :
    unscanned (calls ++ more) = unscanned calls + unscanned more :=
  List.countP_append

namespace Reading

/-- The reading makes no more than so many calls that do not belong to a scan. -/
def Spends (cost : Nat) (reading : Reading (Recorded σ) α) : Prop :=
  reading.Makes fun _ made => unscanned made ≤ cost

variable {cost further : Nat} {reading : Reading (Recorded σ) α}

theorem Spends.mono (spends : reading.Spends cost) (within : cost ≤ further) :
    reading.Spends further := by
  intro record
  obtain ⟨made, adds, few⟩ := spends record
  exact ⟨made, adds, Nat.le_trans few within⟩

theorem spends_ofExcept (result : Except Failure α) :
    (ofExcept result : Reading (Recorded σ) α).Spends 0 :=
  makes_ofExcept (Nat.le_refl 0)

theorem Spends.bind {next : α → Reading (Recorded σ) β} (spends : reading.Spends cost)
    (rest : ∀ value, (next value).Spends further) : (reading >>= next).Spends (cost + further) := by
  refine Makes.bind spends rest (fun _ _ few => Nat.le_trans few (Nat.le_add_right _ _))
    fun _ _ _ _ few more => ?_
  rw [unscanned_append]
  exact Nat.add_le_add few more

theorem spends_recorded (call : Call) (reading : Reading σ α) : (recorded call reading).Spends 1 :=
  fun _ => ⟨_, rfl, List.countP_le_length⟩

theorem spends_guard {source : Source (Recorded σ)} (spends : reading.Spends cost) (what : String)
    (place : Option String) : (source.guard what place reading).Spends cost :=
  makes_guard spends (fun _ _ few => few) (Nat.zero_le _)

def Only (kind : Call → Bool) : Relation (Recorded σ) (Recorded σ) := fun _ reading _ =>
  reading.Makes fun _ made => ∀ entry ∈ made, kind entry.call = true

variable {kind : Call → Bool}

theorem only_ofExcept (result : Except Failure α) :
    Only (σ := σ) kind _ (ofExcept result) (ofExcept result) :=
  makes_ofExcept fun _ inside => absurd inside List.not_mem_nil

theorem only_sequential : Sequential (Only (σ := σ) kind) where
  pure value := only_ofExcept (.ok value)
  bind first rest := first.bind rest (fun _ _ all => all) fun _ _ _ _ all more =>
    List.forall_mem_append.2 ⟨all, more⟩

theorem only_checked {source : Source (Recorded σ)} (only : Only kind α reading reading) :
    Only kind α (Inventory.checked source reading) (Inventory.checked source reading) :=
  makes_checked only fun _ inside => absurd inside List.not_mem_nil

theorem only_recorded {call : Call} (fits : kind call = true) (reading : Reading σ α) :
    Only kind α (recorded call reading) (recorded call reading) :=
  fun _ => ⟨_, rfl, List.forall_mem_singleton.2 fits⟩

theorem only_batch {call : β → Call} (fits : ∀ item, kind (call item) = true) (delay : β → σ → Nat)
    (reading : β → Reading σ α) (items : List β) :
    Only kind _ (batchRecorded call delay reading items)
      (batchRecorded call delay reading items) := by
  intro record
  obtain ⟨made, adds, calls⟩ := makes_batch call delay reading items record
  exact ⟨made, adds, fits_of_calls fits calls⟩

theorem Only.spends (only : Only Call.scans α reading reading) : reading.Spends 0 := by
  intro record
  obtain ⟨made, adds, all⟩ := only record
  exact ⟨made, adds, Nat.le_of_eq
    (List.countP_eq_zero.2 fun entry inside => by simp [all entry inside])⟩

end Reading

theorem Inventory.take_only (source : Source σ) (moment : Option Nat) (budget : Int) :
    Reading.Only Call.scans _ (take (source.recorded moment) budget)
      (take (source.recorded moment) budget) :=
  take_related { Reading.only_sequential with
    sheetNames := Reading.only_checked (Reading.only_recorded rfl _)
    usedRange := fun _ => Reading.only_checked (Reading.only_recorded rfl _)
    grids := fun sheets => Reading.only_checked
      (Reading.only_batch (fun _ => rfl) source.delay source.formulaGrid sheets)
    listed := fun _ => Reading.only_ofExcept _ } budget

theorem one_le_treeSize (width depth : Nat) : 1 ≤ treeSize width depth := by
  cases depth with
  | zero => exact Nat.le_refl 1
  | succ depth => exact Nat.le_add_right _ _

namespace Walk

def Spends (cost : Nat) (walk : Walk (Recorded σ) α) : Prop :=
  ∀ progress, Reading.Spends cost (walk.run progress)

variable {cost further : Nat} {walk : Walk (Recorded σ) α}

theorem Spends.mono (spends : Spends cost walk) (within : cost ≤ further) : Spends further walk :=
  fun progress => (spends progress).mono within

theorem spends_pure (value : α) : Spends 0 (pure value : Walk (Recorded σ) α) :=
  fun progress => Reading.spends_ofExcept (.ok (value, progress))

theorem Spends.bind {next : α → Walk (Recorded σ) β} (spends : Spends cost walk)
    (rest : ∀ value, Spends further (next value)) : Spends (cost + further) (walk >>= next) := by
  intro progress
  rw [StateT.run_bind]
  exact (spends progress).bind fun (value, later) => rest value later

theorem Spends.bind_quiet {next : α → Walk (Recorded σ) β} (spends : Spends cost walk)
    (quiet : ∀ value, Spends 0 (next value)) : Spends cost (walk >>= next) :=
  spends.bind quiet

theorem spends_of_related (scans : Related (Reading.Only Call.scans) walk walk) : Spends 0 walk :=
  fun progress => (scans progress).spends

theorem spends_lift {reading : Reading (Recorded σ) α} (spends : reading.Spends cost) :
    Spends cost (liftM reading : Walk (Recorded σ) α) :=
  fun progress => spends.bind fun value => Reading.spends_ofExcept (.ok (value, progress))

theorem spends_mapM {step : α → Walk (Recorded σ) β} (items : List α)
    (steps : ∀ item, Spends cost (step item)) :
    Spends (items.length * cost) (items.mapM step) := by
  induction items with
  | nil =>
    rw [List.mapM_nil]
    exact (spends_pure []).mono (Nat.zero_le _)
  | cons item rest ih =>
    rw [List.mapM_cons, List.length_cons, Nat.succ_mul, Nat.add_comm]
    exact (steps item).bind fun value => ih.bind_quiet fun values => spends_pure (value :: values)

variable (source : Source σ) (moment : Option Nat) (limits : Limits) (mode : Mode)

theorem read_spends (address : String) : Spends 1 (read (source.recorded moment) address) :=
  spends_lift (Reading.spends_guard (Reading.spends_recorded _ _) _ _)

theorem leaf_spends (address : String) : Spends 1 (leaf (source.recorded moment) address) :=
  (read_spends source moment address).bind_quiet fun _ => spends_pure _

theorem arrive_spends (address : String) :
    Spends 1 (arrive (source.recorded moment) mode address) := by
  have scans : Reading.Sequential (Reading.Only (σ := σ) Call.scans) := Reading.only_sequential
  refine (read_spends source moment address).bind_quiet fun snapshot => spends_of_related ?_
  refine related_get_bind fun progress => ?_
  split
  · exact related_pure scans _
  · refine related_bind scans (related_modify scans _) fun _ => ?_
    split <;> exact related_pure scans _

theorem indexed_spends (address : String) :
    Spends 1 (indexed (source.recorded moment) mode address) := by
  cases mode <;> exact spends_lift (Reading.spends_guard (Reading.spends_recorded _ _) _ _)

theorem below_spends (snapshot : Snapshot) :
    Spends 1 (below (source.recorded moment) limits mode snapshot) := by
  have scans : Reading.Sequential (Reading.Only (σ := σ) Call.scans) := Reading.only_sequential
  refine (indexed_spends source moment mode snapshot.address).bind_quiet fun told =>
    spends_of_related ?_
  cases told with
  | some groups =>
    exact related_bind scans (related_modify scans _) fun _ => gather_related scans _ _ _
  | none =>
    refine related_bind scans (related_modify scans _) fun _ => ?_
    cases mode with
    | precedents => exact fromFormula_related scans _ _ _
    | dependents =>
      refine fromInventory_related scans (fun budget => ?_) limits _
      exact Reading.makes_guard (Inventory.take_only source moment budget) (fun _ _ all => all)
        fun _ inside => absurd inside List.not_mem_nil

theorem below_length {source : Source σ} {limits : Limits} {mode : Mode} {snapshot : Snapshot}
    {progress later : Progress} {state after : σ} {addresses : List String}
    (given : Gives (below source limits mode snapshot) progress state addresses later after) :
    addresses.length ≤ limits.maxChildren.toNat := by
  obtain ⟨finding, found, _, rfl, _⟩ := below_found given
  exact List.length_take_le _ _

/-- What a node costs in all that is below it, if every child costs so much at most. -/
theorem descend_spends_of_child {depth : Nat}
    (children : ∀ address, Spends cost (child (source.recorded moment) limits mode depth address))
    (snapshot : Snapshot) :
    Spends (1 + limits.maxChildren.toNat * cost)
      (descend (source.recorded moment) limits mode (depth + 1) snapshot) := by
  intro progress
  -- How many children there are is known only from the answer, so that it is carried along with the
  -- cost.
  have asks : Reading.Makes (fun outcome made => unscanned made ≤ 1 ∧ ∀ addresses later,
      outcome = .ok (addresses, later) → addresses.length ≤ limits.maxChildren.toNat)
      ((below (source.recorded moment) limits mode snapshot).run progress) := by
    intro record
    obtain ⟨made, adds, few⟩ := below_spends source moment limits mode snapshot progress record
    exact ⟨made, adds, few, fun addresses later answers =>
      below_length (Reading.gives_leaves answers)⟩
  have walked (found : List String × Progress) :
    Reading.Makes (fun _ made => unscanned made ≤ found.1.length * cost)
      ((found.1.mapM (child (source.recorded moment) limits mode depth)).run found.2) :=
    spends_mapM found.1 children found.2
  refine asks.bind walked ?_ ?_
  · exact fun _ _ asked => Nat.le_trans asked.1 (Nat.le_add_right _ _)
  · rintro ⟨addresses, later⟩ made _ more ⟨few, short⟩ further
    rw [unscanned_append]
    have total := Nat.mul_le_mul_right cost (short addresses later rfl)
    exact Nat.add_le_add few (Nat.le_trans further total)

/-- A child costs one call to come to it, and one more to show it if it has no formula or all that
is below it. -/
theorem child_spends_of_descend {depth : Nat}
    (descends : ∀ snapshot, Spends cost
      (descend (source.recorded moment) limits mode depth snapshot)) (address : String) :
    Spends (1 + max 1 cost) (child (source.recorded moment) limits mode depth address) := by
  unfold child
  rw [visit_eq, bind_assoc]
  refine (arrive_spends source moment mode address).bind fun arrival => ?_
  cases arrival with
  | again snapshot => exact (spends_pure (circular snapshot)).mono (Nat.zero_le _)
  | constant => exact (leaf_spends source moment address).mono (Nat.le_max_left _ _)
  | entered snapshot =>
    unfold conclude
    rw [bind_assoc]
    exact ((descends snapshot).bind_quiet fun children => spends_pure _).mono (Nat.le_max_right _ _)

theorem descend_spends (depth : Nat) (snapshot : Snapshot) :
    Spends (2 * treeSize limits.maxChildren.toNat depth - 1)
      (descend (source.recorded moment) limits mode depth snapshot) := by
  induction depth generalizing snapshot with
  | zero => exact (spends_pure []).mono (Nat.zero_le _)
  | succ depth ih =>
    have positive := one_le_treeSize limits.maxChildren.toNat depth
    have child (address : String) :=
      (child_spends_of_descend source moment limits mode ih address).mono
      (show 1 + max 1 (2 * treeSize limits.maxChildren.toNat depth - 1) ≤
        2 * treeSize limits.maxChildren.toNat depth by
        omega)
    refine (descend_spends_of_child source moment limits mode child snapshot).mono (Nat.le_of_eq ?_)
    rw [treeSize, Nat.mul_add, Nat.mul_left_comm]
    omega

theorem visit_spends (depth : Nat) (address : String) :
    Spends (2 * treeSize limits.maxChildren.toNat depth)
      (visit (source.recorded moment) limits mode depth address) := by
  have positive := one_le_treeSize limits.maxChildren.toNat depth
  rw [visit_eq]
  refine ((arrive_spends source moment mode address).bind fun arrival => ?_).mono
    (show 1 + (2 * treeSize limits.maxChildren.toNat depth - 1) ≤ _ by omega)
  cases arrival with
  | again snapshot => exact (spends_pure _).mono (Nat.zero_le _)
  | constant => exact (spends_pure _).mono (Nat.zero_le _)
  | entered snapshot =>
    exact (descend_spends source moment limits mode depth snapshot).bind_quiet fun _ =>
        spends_pure _

end Walk

namespace Node

/-- A tree is so deep at most, and its nodes have so many children at most. -/
structure Within (depth width : Int) (root : Node) : Prop where
  shallow : ∀ level : Nat, depth < level → root.atDepth level = []
  narrow : ∀ node ∈ root.preorder, (node.children.length : Int) ≤ max 0 width

theorem Within.last_childless {depth width : Int} {root : Node} (within : root.Within depth width)
    (bound : 0 ≤ depth) :
    ∀ node ∈ root.atDepth depth.toNat, node.children = [] := by
  have none := within.shallow (depth.toNat + 1) (by omega)
  rw [atDepth_succ] at none
  exact List.flatMap_eq_nil_iff.1 none

end Node

namespace Trace

open Reading

variable {limits : Limits} {target : Target} {asked : Option Int}

theorem arguments_ofDepth {mode : Option String} {address : String} {direction : Mode}
    {bound : Option Int}
    (given : arguments target mode (.ofDepth asked) = .ok (address, direction, bound)) :
    bound = asked := by
  unfold arguments at given
  rw [Value.askedDepth_ofDepth] at given
  obtain ⟨_, -, given⟩ := Except.bind_eq_ok given
  obtain ⟨_, depth, given⟩ := Except.bind_eq_ok given
  obtain ⟨_, -, given⟩ := Except.bind_eq_ok given
  cases depth
  cases given
  rfl

theorem request_spends (source : Source σ) (moment : Option Nat) (limits : Limits) (target : Target)
    (mode : Option String) (asked : Option Int) :
    (request (source.recorded moment) limits target mode (.ofDepth asked)).Spends
      (2 * treeSize limits.maxChildren.toNat (limits.boundDepth asked).toNat) := by
  rw [request_eq]
  cases given : arguments target mode (.ofDepth asked) with
  | error failure => exact Spends.mono (spends_ofExcept (.error failure)) (Nat.zero_le _)
  | ok arguments =>
    obtain ⟨address, direction, bound⟩ := arguments
    obtain rfl := arguments_ofDepth given
    exact Spends.bind (Walk.visit_spends source moment limits direction _ address {}) fun _ =>
      spends_ofExcept (.ok _)

theorem request_within {source : Source σ} {mode : Option String} {state after : σ} {trace : Trace}
    {root : Node}
    (given : Gives (request source limits target mode (.ofDepth asked)) state trace after)
    (rooted : trace.root = some root) : trace.maxDepth = limits.boundDepth asked ∧
      root.Within trace.maxDepth limits.maxChildren := by
  obtain ⟨_, bound, stops, progress, _, counted, parts, walked⟩ := request_walked given rooted
  rw [Value.askedDepth_ofDepth] at counted
  cases counted
  have bounded : trace.maxDepth = limits.boundDepth asked := congrArg maxDepth parts
  have positive := limits.one_le_boundDepth asked
  refine ⟨bounded, fun level beyond => ?_, fun node inside => ?_⟩
  · have none : root.atDepth (trace.maxDepth.toNat + 1) = [] := by
      have empty := walked.atDepth_eq_nil
      rwa [List.flatMap_cons, List.flatMap_nil, List.append_nil] at empty
    exact Node.atDepth_eq_nil none (by omega)
  · obtain ⟨stop, _, made⟩ := walked.exists_makes (root.preorderAll_singleton ▸ inside)
    have few := made.children_length
    omega

/-- A trace is bounded, whatever its source answers.  Its tree is no deeper than the depth that was
asked for, within the bounds for it, and its nodes have no more children than they may; a node on
the last level, a node for a cell that was come to before and, in a trace of precedents, a node
without a formula have none.  And a trace that is ended by a failure or by a cancellation makes no
more calls than a tree of this depth and width allows, those of scans apart. -/
theorem request_bounds (source : Source σ) (limits : Limits) (target : Target)
    (mode : Option String) (asked : Option Int) (state : σ) :
    (∀ trace root after, Gives (request source limits target mode (.ofDepth asked))
      state trace after → trace.root = some root →
      trace.maxDepth = max 1 (min (asked.getD limits.defaultDepth) limits.maxDepth) ∧
      root.Within trace.maxDepth limits.maxChildren ∧
      (∀ node ∈ root.atDepth trace.maxDepth.toNat, node.children = []) ∧
      (mode = some "precedents" → ∀ node ∈ root.preorder, node.formula.getD "" = "" →
        node.children = []) ∧
      ∃ address stops, target.address = .ok address ∧
        Course source limits address state trace stops after ∧
        List.Forall₂ (Stop.Makes limits) stops root.preorder ∧
        (stops.zip root.preorder).Pairwise
          fun earlier made => made.1.address = earlier.1.address → made.2.children = []) ∧
    ∀ event, unscanned ((request (source.recorded event) limits target mode (.ofDepth asked)).leaves
      ⟨state, []⟩).calls ≤
      2 * treeSize limits.maxChildren.toNat (limits.boundDepth asked).toNat := by
  refine ⟨fun trace root after given rooted => ?_, fun event => ?_⟩
  · obtain ⟨bounded, within⟩ := request_within given rooted
    obtain ⟨_, _, _, named, _⟩ := request_course given
    obtain ⟨address, _, stops, progress, place, _, parts, walked⟩ := request_walked given rooted
    have positive := limits.one_le_boundDepth asked
    have truncated : trace.truncated = progress.truncated := congrArg Trace.truncated parts
    have makes := walked.makes
    have again := walked.again_childless
    rw [Node.preorderAll_singleton] at makes again
    refine ⟨bounded, within, within.last_childless (by omega), fun asks node inside bare => ?_,
      address, stops, place, .rooted walked rooted truncated, makes, again⟩
    have follows : trace.mode = .precedents :=
      Mode.name_injective (Option.some.inj (named.symm.trans asks))
    rw [follows] at walked
    exact walked.bare_childless node (root.preorderAll_singleton ▸ inside) bare
  · exact Makes.start (request_spends source event limits target mode asked) state

/-- In the ring too a trace goes no deeper than it may. -/
theorem request_bounds_ring :
    ∃ trace root after,
      Gives (request Script.ring.source {} (.text "S!A1") (some "precedents") (.ofDepth (some 7)))
        Script.ring.start trace after ∧
      trace.root = some root ∧ trace.maxDepth = 5 ∧ root.Within 5 80 := by
  obtain ⟨trace, root, after, given, rooted, _⟩ := exists_rooted
    (show ((request Script.ring.source {} (.text "S!A1") (some "precedents")
      (.ofDepth (some 7))).run.run
      Script.ring.start).1.toOption.any (fun trace => trace.root.isSome && true) = true by
      decide +kernel)
  obtain ⟨bounded, within, _⟩ := (request_bounds _ _ _ _ _ _).1 trace root after given rooted
  have five : trace.maxDepth = 5 := bounded
  rw [five] at within
  exact ⟨trace, root, after, given, rooted, five, within⟩

end Trace

end FormulaTrace
