import FormulaTrace.Proofs.Address.Qualified
import FormulaTrace.Proofs.Lineage.Diagram
import FormulaTrace.Proofs.Trace.Shape
import FormulaTrace.Workbook.Open
import Mathlib.Data.List.Dedup
import Mathlib.Data.List.Perm.Basic

/-! The diagrams of traced trees.
A cell that is met again has a node of its own in a diagram, and its name cannot be that of a cell.
A name that has edges from it is therefore that of one node of the tree, and paths in the diagram go
down in the tree. -/
namespace FormulaTrace

open Relation

variable {σ : Type}

def IsCellAddress (text : String) : Prop :=
  ∃ sheet, ∃ col row : Int, text = qualify sheet (addressText col row)

theorem exists_lastDigit (number : Int) :
    ∃ front c, (toString number).toList = front ++ [c] ∧ c.isDigit = true := by
  have digits (number : Nat) : ∃ front c, Nat.toDigits 10 number = front ++ [c] ∧
      c.isDigit = true := by
    have last := List.getLast_mem (Nat.toDigits_ne_nil : Nat.toDigits 10 number ≠ [])
    refine ⟨_, _, (List.dropLast_append_getLast Nat.toDigits_ne_nil).symm, ?_⟩
    exact Nat.isDigit_of_mem_toDigits (by omega) (by omega) last
  cases number with
  | ofNat number =>
    obtain ⟨front, c, whole, digit⟩ := digits number
    exact ⟨front, c, Nat.toList_repr.trans whole, digit⟩
  | negSucc number =>
    obtain ⟨front, c, whole, digit⟩ := digits (number + 1)
    refine ⟨'-' :: front, c, ?_, digit⟩
    have spelled : (toString (Int.negSucc number)).toList =
        '-' :: (Nat.repr (number + 1)).toList := by
      exact String.toList_append
    rw [spelled, Nat.toList_repr, whole]
    rfl

namespace IsCellAddress

theorem exists_lastDigit {text : String} (spelled : IsCellAddress text) :
    ∃ front c, text.toList = front ++ [c] ∧ c.isDigit = true := by
  obtain ⟨sheet, col, row, rfl⟩ := spelled
  obtain ⟨front, c, whole, digit⟩ := FormulaTrace.exists_lastDigit (row + 1)
  rw [qualify_toList, addressText, String.toList_append, whole, ← List.append_assoc,
    ← List.cons_append, ← List.append_assoc]
  exact ⟨_, c, rfl, digit⟩

theorem ne_mark {text : String} (spelled : IsCellAddress text) (other : String) :
    text ≠ other ++ " (circular)" := by
  rintro rfl
  obtain ⟨front, c, whole, digit⟩ := spelled.exists_lastDigit
  have last := congrArg List.getLast? whole
  rw [String.toList_append, List.getLast?_append, List.getLast?_concat] at last
  obtain rfl : ')' = c := by simpa using last
  cases digit

end IsCellAddress

namespace Node

theorem nodeCount_le_all {node : Node} {nodes : List Node} (among : node ∈ nodes) :
    node.nodeCount ≤ nodeCountAll nodes := by
  induction nodes with
  | nil => cases among
  | cons first rest ih =>
    rw [nodeCountAll]
    rcases List.mem_cons.1 among with rfl | later
    · exact Nat.le_add_right _ _
    · exact Nat.le_trans (ih later) (Nat.le_add_left _ _)

theorem nodeCount_lt {node child : Node} (step : child ∈ node.children) :
    child.nodeCount < node.nodeCount := by
  cases node with
  | cell address value numberFormat formula children =>
    have fewer : child.nodeCount ≤ nodeCountAll children := nodeCount_le_all step
    rw [nodeCount]
    omega

theorem diagramName_of_circular {node : Node} (circular : node.isCircular = true) :
    node.diagramName = node.address ++ " (circular)" := if_pos circular

theorem diagramName_of_plain {node : Node} (plain : node.isCircular = false) :
    node.diagramName = node.address := by
  simp [diagramName, plain]

namespace MarksCycles

variable {root : Node} (cycles : root.MarksCycles)
include cycles

theorem plain_of_child {parent child : Node} (inside : parent ∈ root.preorder)
    (step : child ∈ parent.children) :
    parent.isCircular = false := by
  cases circular : parent.isCircular with
  | false => rfl
  | true =>
    rw [cycles.ends parent inside circular] at step
    cases step

theorem eq_of_address {node other : Node} (inside : node ∈ root.preorder)
    (plain : node.isCircular = false) (among : other ∈ root.preorder)
    (unmarked : other.isCircular = false) (same : node.address = other.address) :
    node = other := by
  have within (node : Node) (inside : node ∈ root.preorder) (plain : node.isCircular = false) :
      node ∈ root.preorder.filter fun node => !node.isCircular :=
        List.mem_filter.2 ⟨inside, by simp [plain]⟩
  exact List.inj_on_of_nodup_map cycles.once (within node inside plain)
    (within other among unmarked) same

variable (spelled : ∀ node ∈ root.preorder, IsCellAddress node.address)
include spelled

theorem eq_of_diagramName {node other : Node} (inside : node ∈ root.preorder)
    (plain : node.isCircular = false) (among : other ∈ root.preorder)
    (same : other.diagramName = node.diagramName) :
    other = node := by
  rw [diagramName_of_plain plain] at same
  cases circular : other.isCircular with
  | true =>
    rw [diagramName_of_circular circular] at same
    exact absurd same.symm ((spelled node inside).ne_mark _)
  | false =>
    rw [diagramName_of_plain circular] at same
    exact cycles.eq_of_address among circular inside plain same

theorem descends {first last : String} (path : TransGen root.Links first last) :
    ∃ node ∈ root.preorder, node.diagramName = first ∧ node.isCircular = false ∧
      ∃ lower ∈ root.preorder, lower.diagramName = last ∧ lower.nodeCount < node.nodeCount := by
  induction path with
  | single links =>
    obtain ⟨parent, inside, named, child, step, rfl⟩ := links
    exact ⟨parent, inside, named, cycles.plain_of_child inside step, child,
      mem_preorder_of_child inside step, rfl, nodeCount_lt step⟩
  | tail _ links ih =>
    obtain ⟨node, inside, named, plain, lower, among, reached, smaller⟩ := ih
    obtain ⟨parent, within, same, child, step, rfl⟩ := links
    -- The link goes on from the node that the path came to, as no other node has its name.
    obtain rfl := cycles.eq_of_diagramName spelled within (cycles.plain_of_child within step) among
      (reached.trans same.symm)
    exact ⟨node, inside, named, plain, child, mem_preorder_of_child within step, rfl,
      Nat.lt_trans (nodeCount_lt step) smaller⟩

theorem acyclic (name : String) : ¬ TransGen root.Links name name := by
  intro cycle
  obtain ⟨node, inside, named, plain, lower, among, reached, smaller⟩ :=
    cycles.descends spelled cycle
  obtain rfl := cycles.eq_of_diagramName spelled inside plain among (reached.trans named.symm)
  exact Nat.lt_irrefl _ smaller

theorem not_links_mark {node : Node} (inside : node ∈ root.preorder)
    (circular : node.isCircular = true) (last : String) : ¬ root.Links node.diagramName last := by
  rintro ⟨parent, within, same, child, step, _⟩
  have plain := cycles.plain_of_child within step
  obtain rfl := cycles.eq_of_diagramName spelled within plain inside same.symm
  rw [circular] at plain
  cases plain

end MarksCycles

/-- The nodes of the diagram are the distinct addresses of the nodes that are no marks, and the
names of the marks. -/
theorem nodes_diagram_perm {root : Node}
    (spelled : ∀ node ∈ root.preorder, IsCellAddress node.address) :
    root.diagram.nodes.toList.Perm
      (((root.preorder.filter fun node => !node.isCircular).map address).dedup ++
        ((root.preorder.filter isCircular).map address).dedup.map (· ++ " (circular)")) := by
  have marks : (((root.preorder.filter isCircular).map address).dedup.map
      (· ++ " (circular)")).Nodup := by
    refine List.Nodup.map (fun first second same => ?_) (List.nodup_dedup _)
    have texts := congrArg String.toList same
    rw [String.toList_append, String.toList_append] at texts
    exact String.toList_inj.1 (List.append_cancel_right texts)
  apply (List.perm_ext_iff_of_nodup root.tidy_diagram.differ ?_).2
  · intro name
    rw [mem_nodes_diagram]
    simp only [List.mem_append, List.mem_dedup, List.mem_map, List.mem_filter]
    constructor
    · rintro ⟨node, inside, rfl⟩
      cases circular : node.isCircular with
      | false =>
        exact .inl ⟨node, ⟨inside, by simp [circular]⟩, (diagramName_of_plain circular).symm⟩
      | true =>
        exact .inr ⟨node.address, ⟨node, ⟨inside, circular⟩, rfl⟩,
          (diagramName_of_circular circular).symm⟩
    · rintro (⟨node, ⟨inside, plain⟩, rfl⟩ | ⟨_, ⟨node, ⟨inside, circular⟩, rfl⟩, rfl⟩)
      · exact ⟨node, inside, diagramName_of_plain (by simpa using plain)⟩
      · exact ⟨node, inside, diagramName_of_circular circular⟩
  · -- The two parts are apart because no address of a cell ends as the name of a mark does.
    refine (List.nodup_dedup _).append marks fun name plain marked => ?_
    obtain ⟨other, _, rfl⟩ := List.mem_map.1 marked
    obtain ⟨node, among, same⟩ := List.mem_map.1 (List.mem_dedup.1 plain)
    exact (spelled node (List.mem_filter.1 among).1).ne_mark _ same

end Node

theorem Walk.Course.exists_address {source : Source σ} {limits : Limits} {mode : Mode} {depth : Nat}
    {addresses : List String} {progress later : Progress} {state after : σ} {stops : List Stop}
    {nodes : List Node} {cells : String → Snapshot} (reads : source.ReadsFrom cells)
    (course : Course source limits mode depth addresses progress state stops nodes later after) :
    ∀ node ∈ Node.preorderAll nodes, ∃ address, node.address = (cells address).address := by
  intro node inside
  have among := List.mem_map_of_mem (f := Node.address) inside
  rw [course.preorder_addresses reads] at among
  obtain ⟨stop, within, same⟩ := List.mem_map.1 among
  rw [← same]
  cases course.stands stop within with
  | again told => exact ⟨_, congrArg Snapshot.address (reads _ _ _ _ told)⟩
  | constant told => exact ⟨_, congrArg Snapshot.address (reads _ _ _ _ told)⟩
  | last told => exact ⟨_, congrArg Snapshot.address (reads _ _ _ _ told)⟩
  | expanded told => exact ⟨_, congrArg Snapshot.address (reads _ _ _ _ told)⟩

namespace Trace

variable {source : Source σ} {limits : Limits} {target : Target} {state after : σ} {trace : Trace}

/-- The diagram of a traced tree has no cycle, whatever cycles there are among the cells. -/
theorem request_diagram {cells : String → Snapshot} (reads : source.ReadsFrom cells)
    (spelled : ∀ address, IsCellAddress (cells address).address)
    (unmarked : ∀ address, (cells address).formula ≠ some circularMark) {mode : Option String}
    {depth : Value} {root : Node}
    (given : Reading.Gives (request source limits target mode depth) state trace after)
    (rooted : trace.root = some root) :
    (∀ name, ¬ TransGen root.diagram.Adjacent name name) ∧
      root.diagram.nodes.toList.Perm
        (((root.preorder.filter fun node => !node.isCircular).map Node.address).dedup ++
          ((root.preorder.filter Node.isCircular).map Node.address).dedup.map
            (· ++ " (circular)")) ∧
      (∀ node ∈ root.preorder, node.isCircular = true →
        ∀ name, ¬ root.diagram.Adjacent node.diagramName name) ∧
      ∀ name ∈ root.diagram.nodes.toList,
        ReflTransGen root.diagram.Adjacent root.diagramName name := by
  obtain ⟨_, _, _, _, ran⟩ := request_gives given
  obtain ⟨_, _, _, visited, _⟩ := run_gives ran
  rw [rooted] at visited
  have cycles : root.MarksCycles := Node.Met.marksCycles (Walk.visit_told reads unmarked _ visited)
  obtain ⟨_, _, _, _, _, _, _, walked⟩ := request_walked given rooted
  have addressed : ∀ node ∈ root.preorder, IsCellAddress node.address := by
    intro node inside
    obtain ⟨address, same⟩ := walked.exists_address reads node (root.preorderAll_singleton ▸ inside)
    exact same ▸ spelled address
  have links : root.diagram.Adjacent = root.Links :=
    funext fun first => funext fun last => propext root.adjacent_diagram
  rw [links]
  refine ⟨cycles.acyclic addressed, Node.nodes_diagram_perm addressed,
    fun node inside circular => cycles.not_links_mark addressed inside circular,
      fun name among => ?_⟩
  obtain ⟨node, inside, rfl⟩ := root.mem_nodes_diagram.1 among
  exact Node.reaches inside

end Trace

theorem OpenWorkbook.isCellAddress_of_readCell {address : String} {workbook after : OpenWorkbook}
    {snapshot : Snapshot}
    (given : (OpenWorkbook.source.readCell address).Gives workbook snapshot after) :
    IsCellAddress snapshot.address := by
  change (OpenWorkbook.readCell address).Gives workbook snapshot after at given
  unfold OpenWorkbook.readCell at given
  split at given
  next => cases given
  next name _ =>
    obtain ⟨title, _, _, given⟩ := Reading.gives_bind.1 given
    obtain ⟨cell, _, _, given⟩ := Reading.gives_bind.1 given
    obtain ⟨content, _, _, given⟩ := Reading.gives_bind.1 given
    obtain ⟨value, _, _, given⟩ := Reading.gives_bind.1 given
    cases given
    exact ⟨title, cell.col, cell.row, rfl⟩

namespace Script

def ringCell (address : String) : Snapshot := (ring.cells.lookup address).getD (unlisted "S!D1")

def ringSource : Source State :=
  { ring.source with readCell := fun address => ring.answer (.readCell address) (ringCell address) }

theorem ringSource_readsFrom : ringSource.ReadsFrom ringCell := by
  intro address state snapshot after given
  change (ring.answer (.readCell address) (ringCell address)).Gives state snapshot after at given
  exact answer_gives given

theorem ringCell_mem (address : String) :
    ringCell address ∈ unlisted "S!D1" :: ring.cells.map Prod.snd := by
  unfold ringCell
  cases found : ring.cells.lookup address with
  | none => exact List.mem_cons_self
  | some snapshot =>
    obtain ⟨before, after, parts, _⟩ := List.lookup_eq_some_iff.1 found
    simp [parts]

theorem ringCell_isCellAddress (address : String) : IsCellAddress (ringCell address).address := by
  have spelled : ∀ snapshot ∈ unlisted "S!D1" :: ring.cells.map Prod.snd,
      snapshot.address ∈ [0, 1, 2, 3].map fun col : Int => qualify "S" (addressText col 0) := by
    decide +kernel
  obtain ⟨col, _, named⟩ := List.mem_map.1 (spelled _ (ringCell_mem address))
  exact ⟨"S", col, 0, named.symm⟩

theorem ringCell_unmarked (address : String) : (ringCell address).formula ≠ some circularMark := by
  have plain : ∀ snapshot ∈ unlisted "S!D1" :: ring.cells.map Prod.snd,
      snapshot.formula ≠ some circularMark := by
    decide
  exact plain _ (ringCell_mem address)

end Script

/-- The start of the ring and the cell that both formulas refer to have marks beside their own
nodes. -/
theorem Trace.request_diagram_ring :
    ∃ trace root after,
      Reading.Gives (request Script.ringSource {} (.text "S!A1") (some "precedents") .blank)
        Script.ring.start trace after ∧
      trace.root = some root ∧
      root.diagram.nodes.toList.Perm ["S!A1", "S!B1", "S!C1", "S!A1 (circular)",
        "S!C1 (circular)"] ∧
      (∀ name, ¬ TransGen root.diagram.Adjacent name name) ∧
      (∀ node ∈ root.preorder, node.isCircular = true →
        ∀ name, ¬ root.diagram.Adjacent node.diagramName name) ∧
      ∀ name ∈ root.diagram.nodes.toList,
        ReflTransGen root.diagram.Adjacent root.diagramName name := by
  obtain ⟨trace, root, after, given, rooted, found⟩ := exists_rooted
    (show (((request Script.ringSource {} (.text "S!A1") (some "precedents") .blank).run.run
      Script.ring.start).1.toOption.any fun trace => trace.root.isSome && trace.root.any fun root =>
        (root.preorder.filter fun node => !node.isCircular).map Node.address =
          ["S!A1", "S!B1", "S!C1"] ∧
          (root.preorder.filter Node.isCircular).map Node.address = ["S!A1", "S!C1"]) = true by
      decide +kernel)
  rw [rooted] at found
  obtain ⟨cells, marks⟩ := of_decide_eq_true found
  obtain ⟨acyclic, nodes, sinks, reached⟩ :=
    request_diagram Script.ringSource_readsFrom Script.ringCell_isCellAddress
    Script.ringCell_unmarked given rooted
  rw [cells, marks] at nodes
  exact ⟨trace, root, after, given, rooted, nodes, acyclic, sinks, reached⟩

end FormulaTrace
