import FormulaTrace.Proofs.Trace.Searches
import FormulaTrace.Trace.Script

/-!
Trees of traces hold no cycle: a cell is entered once, and wherever it comes up again a node without
children marks it.
-/
namespace FormulaTrace

open Walk

variable {σ : Type}

/-- Whatever a source answers about a cell is what a table says. -/
def Source.ReadsFrom (source : Source σ) (cells : String → Snapshot) : Prop :=
  ∀ address state snapshot after,
    (source.readCell address).Gives state snapshot after → snapshot = cells address

namespace Node

/-- Nodes in the order of a walk: the addresses it has seen before them and after them. -/
inductive Met : List String → List Node → List String → Prop where
  | nothing (seen : List String) : Met seen [] seen
  | again {seen after : List String} {node : Node} {rest : List Node}
      (marked : node.isCircular = true) (ends : node.children = []) (old : node.address ∈ seen)
      (further : Met seen rest after) : Met seen (node :: rest) after
  | fresh {seen after : List String} {node : Node} {rest : List Node}
      (unmarked : node.isCircular = false) (new : node.address ∉ seen)
      (further : Met (node.address :: seen) rest after) : Met seen (node :: rest) after

/-- Every cell stands in the tree once; wherever it comes up again, later, a mark without children
stands for it. -/
structure MarksCycles (root : Node) : Prop where
  once : ((root.preorder.filter fun node => !node.isCircular).map Node.address).Nodup
  ends : ∀ node ∈ root.preorder, node.isCircular = true → node.children = []
  earlier : ∀ before node later, root.preorder = before ++ node :: later → node.isCircular = true →
    ∃ first ∈ before, first.isCircular = false ∧ first.address = node.address

namespace Met

variable {seen between after : List String} {nodes others : List Node}

theorem append (first : Met seen nodes between) (second : Met between others after) :
    Met seen (nodes ++ others) after := by
  induction first with
  | nothing seen => exact second
  | again marked ends old further ih => exact .again marked ends old (ih second)
  | fresh unmarked new further ih => exact .fresh unmarked new (ih second)

theorem once (met : Met seen nodes after) :
    ((nodes.filter fun node => !node.isCircular).map Node.address).Nodup ∧
      ∀ node ∈ nodes, node.isCircular = false → node.address ∉ seen := by
  induction met with
  | nothing seen => exact ⟨List.nodup_nil, fun node member => absurd member List.not_mem_nil⟩
  | @again seen after node rest marked ends old further ih =>
    rw [List.filter_cons_of_neg (by simp [marked])]
    refine ⟨ih.1, fun other member unmarked => ?_⟩
    rcases List.mem_cons.1 member with rfl | later
    · rw [marked] at unmarked
      cases unmarked
    · exact ih.2 other later unmarked
  | @fresh seen after node rest unmarked new further ih =>
    obtain ⟨differ, unseen⟩ := ih
    rw [List.filter_cons_of_pos (by simp [unmarked]), List.map_cons, List.nodup_cons]
    refine ⟨⟨fun repeated => ?_, differ⟩, fun other member plain => ?_⟩
    · obtain ⟨other, member, same⟩ := List.mem_map.1 repeated
      obtain ⟨later, plain⟩ := List.mem_filter.1 member
      have absent := unseen other later (by simpa using plain)
      exact absent (List.mem_cons.2 (.inl same))
    · rcases List.mem_cons.1 member with rfl | later
      · exact new
      · exact fun old => unseen other later plain (List.mem_cons_of_mem _ old)

theorem ends (met : Met seen nodes after) :
    ∀ node ∈ nodes, node.isCircular = true → node.children = [] := by
  induction met with
  | nothing seen => exact fun node member => absurd member List.not_mem_nil
  | again marked ends old further ih =>
    intro other member circular
    rcases List.mem_cons.1 member with rfl | later
    · exact ends
    · exact ih other later circular
  | fresh unmarked new further ih =>
    intro other member circular
    rcases List.mem_cons.1 member with rfl | later
    · rw [unmarked] at circular
      cases circular
    · exact ih other later circular

theorem earlier (met : Met seen nodes after) :
    ∀ before node later, nodes = before ++ node :: later → node.isCircular = true →
      node.address ∈ seen ∨ ∃ first ∈ before, first.isCircular = false ∧
        first.address = node.address := by
  induction met with
  | nothing seen =>
    intro before node later parts
    exact absurd parts.symm (by simp)
  | @again seen after head rest marked ends old further ih =>
    intro before node later parts circular
    cases before with
    | nil =>
      obtain ⟨rfl, rfl⟩ := List.cons.inj parts
      exact .inl old
    | cons first before =>
      obtain ⟨rfl, others⟩ := List.cons.inj parts
      apply (ih before node later others circular).imp_right
      rintro ⟨found, member, facts⟩
      exact ⟨found, List.mem_cons_of_mem _ member, facts⟩
  | @fresh seen after head rest unmarked new further ih =>
    intro before node later parts circular
    cases before with
    | nil =>
      obtain ⟨rfl, rfl⟩ := List.cons.inj parts
      rw [unmarked] at circular
      cases circular
    | cons first before =>
      obtain ⟨rfl, others⟩ := List.cons.inj parts
      rcases ih before node later others circular with old | ⟨found, member, facts⟩
      · rcases List.mem_cons.1 old with same | old
        · exact .inr ⟨head, List.mem_cons_self, unmarked, same.symm⟩
        · exact .inl old
      · exact .inr ⟨found, List.mem_cons_of_mem _ member, facts⟩

theorem marksCycles {root : Node} (met : Met [] root.preorder after) : root.MarksCycles where
  once := met.once.1
  ends := met.ends
  earlier := by
    intro before node later parts circular
    rcases met.earlier before node later parts circular with old | found
    · exact absurd old List.not_mem_nil
    · exact found

end Met

end Node

namespace Walk

variable {source : Source σ} {limits : Limits} {mode : Mode} {progress later : Progress}
  {state after : σ}

/-- What became of the cells entered: a tree told of them, or nothing was told of one more. -/
def Told (cells : String → Snapshot) (address : String) (seen after : List String) :
    Option Node → Prop
  | some node => Node.Met seen node.preorder after
  | none => (cells address).address ∉ seen ∧ after = (cells address).address :: seen

def Arrived (cells : String → Snapshot) (address : String) (seen after : List String) :
    Arrival → Prop
  | .again snapshot => Told cells address seen after (some (circular snapshot))
  | .constant => Told cells address seen after none
  | .entered snapshot =>
    snapshot = cells address ∧ snapshot.address ∉ seen ∧ after = snapshot.address :: seen

theorem met_circular {snapshot : Snapshot} {seen : List String} (old : snapshot.address ∈ seen) :
    Node.Met seen (circular snapshot).preorder seen := by
  unfold circular Snapshot.node Node.preorder Node.preorderAll
  exact .again (decide_eq_true rfl) rfl old (.nothing seen)

theorem met_entered {snapshot : Snapshot} {children : List Node} {seen after : List String}
    (unmarked : snapshot.formula ≠ some circularMark) (new : snapshot.address ∉ seen)
    (met : Node.Met (snapshot.address :: seen) (Node.preorderAll children) after) :
    Node.Met seen (snapshot.node snapshot.formula children).preorder after := by
  unfold Snapshot.node Node.preorder
  exact .fresh (decide_eq_false unmarked) new met

theorem mapM_met {step : String → Walk σ Node} (addresses : List String)
    (steps : ∀ address progress state node later after,
      Gives (step address) progress state node later after →
      Node.Met progress.visited node.preorder later.visited) {nodes : List Node}
    (given : Gives (addresses.mapM step) progress state nodes later after) :
    Node.Met progress.visited (Node.preorderAll nodes) later.visited := by
  induction addresses generalizing progress state nodes later after with
  | nil =>
    rw [List.mapM_nil] at given
    obtain ⟨rfl, rfl, _⟩ := gives_pure.1 given
    exact .nothing _
  | cons address rest ih =>
    rw [List.mapM_cons] at given
    obtain ⟨node, middle, between, first, given⟩ := gives_bind.1 given
    obtain ⟨others, further, beyond, second, given⟩ := gives_bind.1 given
    obtain ⟨rfl, rfl, _⟩ := gives_pure.1 given
    unfold Node.preorderAll
    exact (steps address progress state node middle between first).append (ih second)

section Table

variable {cells : String → Snapshot} (reads : source.ReadsFrom cells)
include reads

theorem arrive_told {address : String} {arrival : Arrival}
    (given : Gives (arrive source mode address) progress state arrival later after) :
    Arrived cells address progress.visited later.visited arrival := by
  obtain ⟨snapshot, guarded, entered⟩ := arrive_gives given
  have known := reads address state snapshot after (Reading.gives_guard guarded)
  rcases entered with ⟨old, rfl, rfl⟩ | ⟨new, same, rfl⟩
  · exact met_circular old
  · rw [same]
    by_cases constant : mode = .precedents ∧ (!hasFormula snapshot) = true
    · rw [if_pos constant]
      rw [known] at new ⊢
      exact ⟨new, rfl⟩
    · rw [if_neg constant]
      exact ⟨known, new, rfl⟩

variable (unmarked : ∀ address, (cells address).formula ≠ some circularMark)
include unmarked

theorem leaf_met {address : String} {node : Node} {seen : List String}
    (told : Told cells address seen progress.visited none)
    (given : Gives (leaf source address) progress state node later after) :
    Node.Met seen node.preorder later.visited := by
  obtain ⟨snapshot, middle, between, reading, rest⟩ := gives_bind.1 given
  obtain ⟨found, rfl⟩ := gives_read reading
  have known := reads address state snapshot between found
  subst known
  obtain ⟨rfl, rfl, _⟩ := gives_pure.1 rest
  obtain ⟨new, entered⟩ := told
  rw [entered]
  exact met_entered (unmarked address) new (.nothing _)

theorem child_met {depth : Nat}
    (visits : ∀ address progress state result later after,
      Gives (visit source limits mode depth address) progress state result later after →
        Told cells address progress.visited later.visited result)
    {address : String} {node : Node}
    (given : Gives (child source limits mode depth address) progress state node later after) :
    Node.Met progress.visited node.preorder later.visited := by
  obtain ⟨visited, middle, between, visiting, rest⟩ := gives_bind.1 given
  have told := visits _ _ _ _ _ _ visiting
  cases visited with
  | some tree =>
    obtain ⟨rfl, rfl, _⟩ := gives_pure.1 rest
    exact told
  | none => exact leaf_met reads unmarked told rest

theorem visit_told_of_descend {depth : Nat}
    (inner : ∀ snapshot progress state children later after,
      Gives (descend source limits mode depth snapshot) progress state children later after →
        Node.Met progress.visited (Node.preorderAll children) later.visited)
    {address : String} {result : Option Node}
    (given : Gives (visit source limits mode depth address) progress state result later after) :
    Told cells address progress.visited later.visited result := by
  rw [visit_eq] at given
  obtain ⟨arrival, middle, between, arrived, rest⟩ := gives_bind.1 given
  have told := arrive_told reads arrived
  cases arrival with
  | again snapshot =>
    obtain ⟨rfl, rfl, _⟩ := gives_pure.1 rest
    exact told
  | constant =>
    obtain ⟨rfl, rfl, _⟩ := gives_pure.1 rest
    exact told
  | entered snapshot =>
    obtain ⟨children, further, beyond, descended, rest⟩ := gives_bind.1 rest
    obtain ⟨rfl, rfl, _⟩ := gives_pure.1 rest
    obtain ⟨rfl, new, entered⟩ := told
    -- The cell was entered before its children, so that their trees may only mark it.
    have met := inner _ _ _ _ _ _ descended
    rw [entered] at met
    exact met_entered (unmarked address) new met

/-- The trees below a cell tell of every cell that was entered on the way. -/
theorem descend_met (depth : Nat) {snapshot : Snapshot} {children : List Node}
    (given : Gives (descend source limits mode depth snapshot) progress state children later
      after) :
    Node.Met progress.visited (Node.preorderAll children) later.visited := by
  induction depth generalizing snapshot progress state children later after with
  | zero =>
    obtain ⟨rfl, rfl, _⟩ := gives_pure.1 given
    exact .nothing _
  | succ depth ih =>
    obtain ⟨addresses, middle, between, found, rest⟩ := gives_bind.1 given
    rw [← (below_searched found).visited]
    refine mapM_met addresses (fun address progress state node later after given => ?_) rest
    refine child_met reads unmarked (fun _ _ _ _ _ _ visiting => ?_) given
    exact visit_told_of_descend reads unmarked (fun _ _ _ _ _ _ descended => ih descended) visiting

theorem visit_told (depth : Nat) {address : String} {result : Option Node}
    (given : Gives (visit source limits mode depth address) progress state result later after) :
    Told cells address progress.visited later.visited result :=
  visit_told_of_descend reads unmarked
    (fun _ _ _ _ _ _ descended => descend_met reads unmarked depth descended) given

end Table

end Walk

namespace Trace

open Reading

variable {source : Source σ} {limits : Limits} {target : Target} {state after : σ} {trace : Trace}

/-- The tree of a trace marks every cycle, whatever the source says about what cells lead to. -/
theorem request_marksCycles {cells : String → Snapshot} (reads : source.ReadsFrom cells)
    (unmarked : ∀ address, (cells address).formula ≠ some circularMark)
    {mode : Option String} {depth : Value} {root : Node}
    (given : Gives (request source limits target mode depth) state trace after)
    (rooted : trace.root = some root) : root.MarksCycles := by
  obtain ⟨direction, asked, _, _, given⟩ := request_gives given
  obtain ⟨address, progress, _, visited, _⟩ := run_gives given
  rw [rooted] at visited
  exact Node.Met.marksCycles (visit_told reads unmarked _ visited)

end Trace

theorem Script.answer_gives {α : Type} {script : Script} {call : Call} {value told : α}
    {state after : State} (given : (script.answer call value).Gives state told after) :
    told = value := by
  unfold Reading.Gives answer at given
  simp only [ExceptT.run_mk, StateT.run] at given
  split at given
  · cases given
  · cases given
    rfl

theorem Script.readsFrom (script : Script) :
    script.source.ReadsFrom fun address => (script.cells.lookup address).getD (unlisted address) :=
  fun _ _ _ _ given => answer_gives given

theorem Script.unmarked {script : Script}
    (listed : ∀ entry ∈ script.cells, entry.2.formula ≠ some circularMark) (address : String) :
    ((script.cells.lookup address).getD (unlisted address)).formula ≠ some circularMark := by
  cases found : script.cells.lookup address with
  | none =>
    intro same
    cases same
  | some snapshot =>
    obtain ⟨before, after, parts, _⟩ := List.lookup_eq_some_iff.1 found
    exact listed (address, snapshot) (by simp [parts])

def Script.ring : Script where
  cells := [
    ("S!A1", ⟨.int 3, some "=B1+C1", none, "S!A1"⟩),
    ("S!B1", ⟨.int 2, some "=A1+C1", none, "S!B1"⟩),
    ("S!C1", ⟨.int 1, none, none, "S!C1"⟩)]
  sheets := []
  ranges := []
  precedents := []
  dependents := []
  failures := []
  cancelAfter := none

theorem Trace.request_marksCycles_ring :
    ∃ trace root after,
      Reading.Gives (Trace.request Script.ring.source {} (.text "S!A1") (some "precedents") .blank)
        Script.ring.start trace after ∧
      trace.root = some root ∧ trace.nodeCount = 5 ∧ root.MarksCycles := by
  obtain ⟨trace, after, given, found⟩ := Reading.exists_gives
    (show (((Trace.request Script.ring.source {} (.text "S!A1") (some "precedents") .blank).run.run
      Script.ring.start).1.toOption.any fun trace => trace.root.isSome && trace.nodeCount = 5) =
        true by
      decide +kernel)
  obtain ⟨rooted, count⟩ := Bool.and_eq_true_iff.1 found
  obtain ⟨root, rooted⟩ := Option.isSome_iff_exists.1 rooted
  exact ⟨trace, root, after, given, rooted, of_decide_eq_true count,
    Trace.request_marksCycles Script.ring.readsFrom (Script.unmarked (by decide)) given rooted⟩

end FormulaTrace
