import FormulaTrace.Value.Basic

/-!
Trees of cells that a trace finds: below every cell stand the cells it leads to.
-/
namespace FormulaTrace

/-- What stands in place of the formula of a cell that is already in the tree. -/
def circularMark : String := "(circular reference — already visited)"

inductive Node where
  | cell (address : String) (value : Value) (numberFormat formula : Option String)
      (children : List Node)

namespace Node

def address : Node → String
  | cell address _ _ _ _ => address

def value : Node → Value
  | cell _ value _ _ _ => value

def numberFormat : Node → Option String
  | cell _ _ numberFormat _ _ => numberFormat

def formula : Node → Option String
  | cell _ _ _ formula _ => formula

def children : Node → List Node
  | cell _ _ _ _ children => children

def isCircular (node : Node) : Bool := node.formula = some circularMark

mutual

/-- The nodes of a tree, each before those below it. -/
def preorder : Node → List Node
  | cell address value numberFormat formula children =>
    cell address value numberFormat formula children :: preorderAll children

def preorderAll : List Node → List Node
  | [] => []
  | node :: rest => preorder node ++ preorderAll rest

end

mutual

def nodeCount : Node → Nat
  | cell _ _ _ _ children => 1 + nodeCountAll children

def nodeCountAll : List Node → Nat
  | [] => 0
  | node :: rest => nodeCount node + nodeCountAll rest

end

mutual

theorem nodeCount_eq : (root : Node) → root.nodeCount = root.preorder.length
  | cell address value numberFormat formula children => by
    rw [nodeCount, preorder, List.length_cons, nodeCountAll_eq children, Nat.add_comm]

theorem nodeCountAll_eq : (nodes : List Node) → nodeCountAll nodes = (preorderAll nodes).length
  | [] => rfl
  | node :: rest => by
      rw [nodeCountAll, preorderAll, List.length_append, nodeCount_eq node, nodeCountAll_eq rest]

end

mutual

/-- How many steps there are from a node to one below it. -/
def edgeCount : Node → Nat
  | cell _ _ _ _ children => children.length + edgeCountAll children

def edgeCountAll : List Node → Nat
  | [] => 0
  | node :: rest => edgeCount node + edgeCountAll rest

end

end Node

end FormulaTrace
