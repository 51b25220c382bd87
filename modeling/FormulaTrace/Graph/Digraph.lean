import Std.Data.HashMap

/-!
Directed graphs whose nodes are named by text and kept in the order in which they were added.
-/
namespace FormulaTrace

structure Digraph (α : Type) where
  nodes : Array String
  labels : Std.HashMap String α
  /-- The nodes that a node points to, in the order in which the edges were added. -/
  targets : Std.HashMap String (List String)

namespace Digraph

variable {α : Type}

def empty : Digraph α := ⟨#[], {}, {}⟩

def label? (graph : Digraph α) (node : String) : Option α := graph.labels[node]?

def hasNode (graph : Digraph α) (node : String) : Bool := graph.labels.contains node

def successors (graph : Digraph α) (node : String) : List String := graph.targets.getD node []

/-- Adds a node, or gives a new label to one that is there and keeps its place. -/
def setNode (graph : Digraph α) (node : String) (label : α) : Digraph α :=
  { graph with
    nodes := if graph.hasNode node then graph.nodes else graph.nodes.push node
    labels := graph.labels.insert node label }

def ensureNode (graph : Digraph α) (node : String) (label : α) : Digraph α :=
  if graph.hasNode node then graph else graph.setNode node label

/-- Adds an edge unless it is there; ends that are new are added with the given label. -/
def addEdge (graph : Digraph α) (blank : α) (first last : String) : Digraph α :=
  let graph := (graph.ensureNode first blank).ensureNode last blank
  if last ∈ graph.successors first then graph
  else { graph with targets := graph.targets.insert first (graph.successors first ++ [last]) }

def edges (graph : Digraph α) : List (String × String) :=
  graph.nodes.toList.flatMap fun node => (graph.successors node).map fun last => (node, last)

@[simp] theorem label?_empty (node : String) : (empty : Digraph α).label? node = none := by
  simp [empty, label?]

@[simp] theorem successors_empty (node : String) : (empty : Digraph α).successors node = [] := by
  simp [empty, successors]

theorem hasNode_eq (graph : Digraph α) (node : String) :
    graph.hasNode node = (graph.label? node).isSome := by
  simp [hasNode, label?]

theorem label?_setNode (graph : Digraph α) (node other : String) (label : α) :
    (graph.setNode node label).label? other = if node = other then some label
      else graph.label? other := by
  simp [setNode, label?, Std.HashMap.getElem?_insert]

theorem label?_ensureNode (graph : Digraph α) (node other : String) (label : α) :
    (graph.ensureNode node label).label? other =
      if node = other then some ((graph.label? node).getD label) else graph.label? other := by
  unfold ensureNode
  rw [hasNode_eq]
  cases found : graph.label? node with
  | none => simp [label?_setNode]
  | some old =>
    by_cases same : node = other
    · subst same
      simp [found]
    · simp [same]

@[simp] theorem successors_setNode (graph : Digraph α) (node other : String) (label : α) :
    (graph.setNode node label).successors other = graph.successors other := rfl

@[simp] theorem successors_ensureNode (graph : Digraph α) (node other : String) (label : α) :
    (graph.ensureNode node label).successors other = graph.successors other := by
  unfold ensureNode
  split <;> simp

theorem successors_addEdge (graph : Digraph α) (blank : α) (first last other : String) :
    (graph.addEdge blank first last).successors other =
      if first = other ∧ last ∉ graph.successors first then graph.successors first ++ [last]
      else graph.successors other := by
  unfold addEdge
  simp only [successors_ensureNode]
  by_cases present : last ∈ graph.successors first
  · simp [present]
  · simp only [present, ↓reduceIte, not_false_eq_true, and_true]
    simp only [successors, Std.HashMap.getD_insert]
    by_cases same : first = other
    · simp [same]
    · have kept : ((graph.ensureNode first blank).ensureNode last blank).successors other =
          graph.successors other := by simp
      simpa [same, successors] using kept

end Digraph

end FormulaTrace
