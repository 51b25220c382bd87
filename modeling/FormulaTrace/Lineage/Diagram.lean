import FormulaTrace.Graph.Digraph
import FormulaTrace.Lineage.Node

/-!
Trees as directed graphs.  Circular nodes have a name of their own, so that the graph has no cycle.
-/
namespace FormulaTrace

/-- What a diagram keeps of a node. -/
structure NodeLabel where
  value : Value
  formula : Option String
  numberFormat : Option String
  circular : Bool

namespace Node

def diagramName (node : Node) : String :=
  if node.isCircular then node.address ++ " (circular)" else node.address

def diagramLabel (node : Node) : NodeLabel :=
  ⟨node.value, node.formula, node.numberFormat, node.isCircular⟩

def linkChildren (name : String) (children : List Node) (graph : Digraph NodeLabel) :
    Digraph NodeLabel :=
  children.foldl
    (fun graph child =>
      (graph.setNode child.diagramName child.diagramLabel).addEdge child.diagramLabel name
        child.diagramName)
    graph

mutual

/-- Adds what lies below a node: first all its children, then what lies below each of them, the last
child first. -/
def extendDiagram (graph : Digraph NodeLabel) : Node → Digraph NodeLabel
  | cell address value numberFormat formula children =>
    extendAll (linkChildren (cell address value numberFormat formula children).diagramName children
      graph) children

def extendAll (graph : Digraph NodeLabel) : List Node → Digraph NodeLabel
  | [] => graph
  | node :: rest => extendDiagram (extendAll graph rest) node

end

def diagram (root : Node) : Digraph NodeLabel :=
  extendDiagram (Digraph.empty.setNode root.diagramName root.diagramLabel) root

end Node

end FormulaTrace
