import FormulaTrace.Lineage.Diagram
import Mathlib.Data.List.Nodup
import Mathlib.Logic.Relation

/-! The nodes and edges of the diagram of a tree.
What is added to a graph on the way is said by the links that it gains: their ends become nodes and
they become edges, and nothing else does.  The links of a diagram are those from a node of the tree
to its children. -/
namespace FormulaTrace

open Relation

namespace Digraph

variable {α : Type} {graph before between after : Digraph α} {first last : String}
  {links more : String → String → Prop}

def Adjacent (graph : Digraph α) (first last : String) : Prop := (first, last) ∈ graph.edges

/-- The list of the nodes has every node once. -/
structure Tidy (graph : Digraph α) : Prop where
  differ : graph.nodes.toList.Nodup
  listed : ∀ node, node ∈ graph.nodes.toList ↔ graph.hasNode node = true

theorem tidy_empty : (empty : Digraph α).Tidy where
  differ := List.nodup_nil
  listed node := by simp [empty, hasNode]

theorem hasNode_empty (node : String) : (empty : Digraph α).hasNode node = false := by
  rw [hasNode_eq, label?_empty]
  rfl

theorem hasNode_setNode (graph : Digraph α) (node other : String) (label : α) :
    (graph.setNode node label).hasNode other = true ↔ graph.hasNode other = true ∨
      other = node := by
  rw [hasNode_eq, label?_setNode, hasNode_eq]
  by_cases same : node = other
  · simp [same]
  · simp [same, Ne.symm same]

theorem hasNode_ensureNode (graph : Digraph α) (node other : String) (label : α) :
    (graph.ensureNode node label).hasNode other = true ↔ graph.hasNode other = true ∨
      other = node := by
  unfold ensureNode
  split
  next known =>
    refine ⟨.inl, ?_⟩
    rintro (old | rfl)
    · exact old
    · exact known
  next => exact hasNode_setNode graph node other label

theorem Tidy.setNode (tidy : graph.Tidy) (node : String) (label : α) :
    (graph.setNode node label).Tidy := by
  by_cases known : graph.hasNode node = true
  · have nodes : (graph.setNode node label).nodes.toList = graph.nodes.toList :=
      congrArg Array.toList (if_pos known)
    refine ⟨nodes ▸ tidy.differ, fun other => ?_⟩
    rw [nodes, tidy.listed, hasNode_setNode]
    refine ⟨.inl, ?_⟩
    rintro (old | rfl)
    · exact old
    · exact known
  · have nodes : (graph.setNode node label).nodes.toList = graph.nodes.toList ++ [node] :=
      (congrArg Array.toList (if_neg known)).trans Array.toList_push
    have new : node ∉ graph.nodes.toList := fun inside => known ((tidy.listed node).1 inside)
    constructor
    · rw [nodes]
      exact tidy.differ.append (List.nodup_singleton node) (List.disjoint_singleton.2 new)
    · intro other
      rw [nodes, List.mem_append, List.mem_singleton, tidy.listed, hasNode_setNode]

theorem Tidy.ensureNode (tidy : graph.Tidy) (node : String) (label : α) :
    (graph.ensureNode node label).Tidy := by
  unfold Digraph.ensureNode
  split
  · exact tidy
  · exact tidy.setNode node label

theorem addEdge_places (graph : Digraph α) (blank : α) (first last : String) :
    (graph.addEdge blank first last).nodes =
      ((graph.ensureNode first blank).ensureNode last blank).nodes ∧
      (graph.addEdge blank first last).labels =
        ((graph.ensureNode first blank).ensureNode last blank).labels := by
  unfold addEdge
  dsimp only
  split
  · exact ⟨rfl, rfl⟩
  · exact ⟨rfl, rfl⟩

theorem hasNode_addEdge (graph : Digraph α) (blank : α) (first last other : String) :
    (graph.addEdge blank first last).hasNode other = true ↔
      graph.hasNode other = true ∨ other = first ∨ other = last := by
  rw [hasNode, (graph.addEdge_places blank first last).2, ← hasNode, hasNode_ensureNode,
    hasNode_ensureNode, or_assoc]

theorem Tidy.addEdge (tidy : graph.Tidy) (blank : α) (first last : String) :
    (graph.addEdge blank first last).Tidy := by
  have both := (tidy.ensureNode first blank).ensureNode last blank
  obtain ⟨nodes, labels⟩ := graph.addEdge_places blank first last
  constructor
  · rw [nodes]
    exact both.differ
  · intro node
    rw [nodes, hasNode, labels]
    exact both.listed node

theorem mem_successors_addEdge (graph : Digraph α) (blank : α) (first last one other : String) :
    other ∈ (graph.addEdge blank first last).successors one ↔
      other ∈ graph.successors one ∨ one = first ∧ other = last := by
  rw [successors_addEdge]
  by_cases same : first = one
  · subst same
    by_cases known : last ∈ graph.successors first
    · simp [known]
      exact fun same => same ▸ known
    · simp [known]
  · simp [same, Ne.symm same]

theorem adjacent_iff (tidy : graph.Tidy) :
    graph.Adjacent first last ↔ graph.hasNode first = true ∧ last ∈ graph.successors first := by
  rw [← tidy.listed]
  simp [Adjacent, edges]

/-- After a graph has gained some links, these are edges and their ends are nodes; all others were
so before. -/
structure Gains (before after : Digraph α) (links : String → String → Prop) : Prop where
  tidy : before.Tidy → after.Tidy
  nodes : ∀ node, after.hasNode node = true ↔ before.hasNode node = true ∨ ∃ far, links node far ∨
    links far node
  edges : ∀ first last, last ∈ after.successors first ↔ last ∈ before.successors first ∨
    links first last

namespace Gains

theorem refl (graph : Digraph α) : graph.Gains graph fun _ _ => False where
  tidy tidy := tidy
  nodes node := by simp
  edges first last := by simp

theorem trans (one : before.Gains between links) (other : between.Gains after more) :
    before.Gains after fun first last => links first last ∨ more first last where
  tidy tidy := other.tidy (one.tidy tidy)
  nodes node := by
    rw [other.nodes, one.nodes, or_assoc, ← exists_or]
    exact or_congr_right (exists_congr fun far => or_or_or_comm)
  edges first last := by rw [other.edges, one.edges, or_assoc]

theorem congr (gains : before.Gains after links)
    (same : ∀ first last, links first last ↔ more first last) :
    before.Gains after more := by
  have equal : links = more := funext fun first => funext fun last => propext (same first last)
  exact equal ▸ gains

theorem addChild (graph : Digraph α) (first last : String) (label blank : α) :
    graph.Gains ((graph.setNode last label).addEdge blank first last) fun one other => one = first ∧
      other = last where
  tidy tidy := (tidy.setNode last label).addEdge blank first last
  nodes node := by
    rw [hasNode_addEdge, hasNode_setNode]
    constructor
    · rintro ((old | rfl) | rfl | rfl)
      · exact .inl old
      · exact .inr ⟨first, .inr ⟨rfl, rfl⟩⟩
      · exact .inr ⟨last, .inl ⟨rfl, rfl⟩⟩
      · exact .inr ⟨first, .inr ⟨rfl, rfl⟩⟩
    · rintro (old | ⟨far, ⟨rfl, _⟩ | ⟨_, rfl⟩⟩)
      · exact .inl (.inl old)
      · exact .inr (.inl rfl)
      · exact .inr (.inr rfl)
  edges one other := by rw [mem_successors_addEdge, successors_setNode]

end Gains

end Digraph

namespace Node

/-- A step from a node of a tree to one of its children, by the names of the two. -/
def Links (root : Node) (first last : String) : Prop :=
  ∃ parent ∈ root.preorder, parent.diagramName = first ∧ ∃ child ∈ parent.children,
    child.diagramName = last

theorem mem_preorderAll {node : Node} {nodes : List Node} :
    node ∈ preorderAll nodes ↔ ∃ root ∈ nodes, node ∈ root.preorder := by
  induction nodes with
  | nil => simp [preorderAll]
  | cons root rest ih => rw [preorderAll, List.mem_append, ih, List.exists_mem_cons_iff]

theorem mem_preorder {root node : Node} :
    node ∈ root.preorder ↔ node = root ∨ ∃ child ∈ root.children, node ∈ child.preorder := by
  cases root with
  | cell address value numberFormat formula children =>
    rw [preorder, List.mem_cons, mem_preorderAll]
    rfl

/-- What holds of a node if it holds of its children holds of all nodes. -/
@[elab_as_elim]
theorem childInduction {motive : Node → Prop}
    (step : ∀ node, (∀ child ∈ node.children, motive child) → motive node) (node : Node) :
    motive node :=
  Node.rec (fun _ _ _ _ _ all => step _ all) (fun _ member => absurd member List.not_mem_nil)
    (fun _ _ here all => List.forall_mem_cons.2 ⟨here, all⟩) node

theorem mem_preorder_self (root : Node) : root ∈ root.preorder := mem_preorder.2 (.inl rfl)

theorem mem_preorder_of_child {root parent child : Node} (inside : parent ∈ root.preorder)
    (step : child ∈ parent.children) : child ∈ root.preorder := by
  induction root using childInduction with
  | step root ih =>
    rcases mem_preorder.1 inside with rfl | ⟨branch, among, below⟩
    · exact mem_preorder.2 (.inr ⟨child, step, child.mem_preorder_self⟩)
    · exact mem_preorder.2 (.inr ⟨branch, among, ih branch among below⟩)

theorem exists_parent {root node : Node} (inside : node ∈ root.preorder) :
    node = root ∨ ∃ parent ∈ root.preorder, node ∈ parent.children := by
  induction root using childInduction with
  | step root ih =>
    rcases mem_preorder.1 inside with rfl | ⟨child, among, below⟩
    · exact .inl rfl
    · rcases ih child among below with rfl | ⟨parent, within, step⟩
      · exact .inr ⟨root, root.mem_preorder_self, among⟩
      · exact .inr ⟨parent, mem_preorder.2 (.inr ⟨child, among, within⟩), step⟩

theorem links_iff {root : Node} {first last : String} : root.Links first last ↔
    (root.diagramName = first ∧ ∃ child ∈ root.children, child.diagramName = last) ∨
      ∃ child ∈ root.children, child.Links first last := by
  constructor
  · rintro ⟨parent, inside, steps⟩
    rcases mem_preorder.1 inside with rfl | ⟨child, among, inside⟩
    · exact .inl steps
    · exact .inr ⟨child, among, parent, inside, steps⟩
  · rintro (steps | ⟨child, among, parent, inside, steps⟩)
    · exact ⟨root, mem_preorder.2 (.inl rfl), steps⟩
    · exact ⟨parent, mem_preorder.2 (.inr ⟨child, among, inside⟩), steps⟩

theorem linkChildren_cons (name : String) (child : Node) (rest : List Node)
    (graph : Digraph NodeLabel) :
    linkChildren name (child :: rest) graph = linkChildren name rest
      ((graph.setNode child.diagramName child.diagramLabel).addEdge child.diagramLabel name
        child.diagramName) :=
  List.foldl_cons

theorem gains_linkChildren (name : String) (children : List Node) (graph : Digraph NodeLabel) :
    graph.Gains (linkChildren name children graph) fun first last =>
      name = first ∧ ∃ child ∈ children, child.diagramName = last := by
  induction children generalizing graph with
  | nil => exact (Digraph.Gains.refl graph).congr fun first last => by simp
  | cons child rest ih =>
    have added := Digraph.Gains.addChild graph name child.diagramName child.diagramLabel
      child.diagramLabel
    rw [linkChildren_cons]
    refine (added.trans (ih _)).congr fun first last => ?_
    rw [List.exists_mem_cons_iff, and_or_left, @eq_comm _ first, @eq_comm _ last]

mutual

theorem gains_extendDiagram : (node : Node) → (graph : Digraph NodeLabel) →
    graph.Gains (extendDiagram graph node) node.Links
  | .cell address value numberFormat formula children, graph => by
    unfold extendDiagram
    refine ((gains_linkChildren _ children graph).trans (gains_extendAll children _)).congr
      fun first last => ?_
    exact links_iff.symm

theorem gains_extendAll : (nodes : List Node) → (graph : Digraph NodeLabel) →
    graph.Gains (extendAll graph nodes) fun first last => ∃ node ∈ nodes, node.Links first last
  | [], graph => (Digraph.Gains.refl graph).congr fun first last => by simp
  | node :: rest, graph => by
    unfold extendAll
    -- What lies below the rest is added before what lies below the first.
    refine ((gains_extendAll rest graph).trans (gains_extendDiagram node _)).congr
      fun first last => ?_
    rw [List.exists_mem_cons_iff, or_comm]

end

section Diagram

variable (root : Node)

theorem gains_diagram : (Digraph.empty.setNode root.diagramName root.diagramLabel).Gains
    root.diagram root.Links :=
  gains_extendDiagram root _

theorem tidy_diagram : root.diagram.Tidy :=
  root.gains_diagram.tidy (Digraph.tidy_empty.setNode _ _)

theorem mem_successors_diagram {first last : String} :
    last ∈ root.diagram.successors first ↔ root.Links first last := by
  rw [root.gains_diagram.edges, Digraph.successors_setNode, Digraph.successors_empty]
  simp

theorem mem_nodes_diagram {name : String} :
    name ∈ root.diagram.nodes.toList ↔ ∃ node ∈ root.preorder, node.diagramName = name := by
  rw [root.tidy_diagram.listed, root.gains_diagram.nodes, Digraph.hasNode_setNode,
    Digraph.hasNode_empty]
  constructor
  · rintro ((old | rfl) | ⟨far,
      ⟨parent, inside, named, _⟩ | ⟨parent, inside, _, child, step, named⟩⟩)
    · exact absurd old Bool.false_ne_true
    · exact ⟨root, root.mem_preorder_self, rfl⟩
    · exact ⟨parent, inside, named⟩
    · exact ⟨child, mem_preorder_of_child inside step, named⟩
  · rintro ⟨node, inside, rfl⟩
    rcases exists_parent inside with rfl | ⟨parent, within, step⟩
    · exact .inl (.inr rfl)
    · exact .inr ⟨parent.diagramName, .inr ⟨parent, within, rfl, node, step, rfl⟩⟩

theorem adjacent_diagram {first last : String} :
    root.diagram.Adjacent first last ↔ root.Links first last := by
  rw [Digraph.adjacent_iff root.tidy_diagram, mem_successors_diagram, ← root.tidy_diagram.listed,
    mem_nodes_diagram]
  refine and_iff_right_of_imp ?_
  rintro ⟨parent, inside, named, _⟩
  exact ⟨parent, inside, named⟩

end Diagram

theorem Links.of_child {root child : Node} {first last : String} (among : child ∈ root.children)
    (links : child.Links first last) : root.Links first last :=
  links_iff.2 (.inr ⟨child, among, links⟩)

theorem reaches {root node : Node} (inside : node ∈ root.preorder) :
    ReflTransGen root.Links root.diagramName node.diagramName := by
  induction root using childInduction with
  | step root ih =>
    rcases mem_preorder.1 inside with rfl | ⟨child, among, below⟩
    · exact .refl
    · have step : root.Links root.diagramName child.diagramName :=
        links_iff.2 (.inl ⟨rfl, child, among, rfl⟩)
      exact .head step ((ih child among below).lift id fun _ _ => Links.of_child among)

end Node

end FormulaTrace
