import FormulaTrace.Display.Cell
import FormulaTrace.Lineage.Node

/-!
Trees as text: one line a node, with a connector, and bars that tie children to their parent.
-/
namespace FormulaTrace.Node

/-- What stands before a node: whether it is the last of its parent's children decides. -/
def connector (last : Bool) : String := if last then "└── " else "├── "

def continuation (last : Bool) : String := if last then "    " else "│   "

/-- The line of a node without its connector: the address, the value and the formula. -/
def label (node : Node) : Except Failure String :=
  (node.value.display node.numberFormat).map fun shown =>
    "**" ++ node.address ++ "**" ++ (if shown = "" then "" else " = " ++ shown) ++
      (match node.formula with
       | none => ""
       | some formula => if formula = "" then "" else " (" ++ formula ++ ")")

mutual

def lines (lead : String) (last : Bool) : Node → Except Failure (List String)
  | cell address value numberFormat formula children => do
    let label ← label (cell address value numberFormat formula children)
    let below ← childLines (lead ++ continuation last) children
    return (lead ++ connector last ++ label) :: below

def childLines (lead : String) : List Node → Except Failure (List String)
  | [] => return []
  | node :: rest => do
    let first ← lines lead rest.isEmpty node
    let others ← childLines lead rest
    return first ++ others

end

def render (heading : Option String) (root : Node) : Except Failure String :=
  (lines "" true root).map fun lines =>
    "\n".intercalate
      (match heading with
       | none => lines
       | some heading => if heading = "" then lines else heading :: "" :: lines)

end FormulaTrace.Node
