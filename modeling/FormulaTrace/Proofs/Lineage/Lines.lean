import FormulaTrace.Lineage.Rendering
import FormulaTrace.Outcome
import FormulaTrace.Text.Break
import Mathlib.Data.List.Forall2

/-! What the lines of a tree tell of it.
In front of a node stands one block for each node above it, and its connector; each block is fixed
by whether the node it belongs to is the last child.  Where one is not, its next sibling comes after
all that is below it, and every line in between has a bar in its column. -/
namespace FormulaTrace
open Text

/-- A tree without what its nodes hold. -/
inductive Shape where
  | fork (below : List Shape)

namespace Shape

mutual

/-- How many steps lead to each node, in preorder, where so many lead to the first one. -/
def depths (depth : Nat) : Shape → List Nat
  | fork below => depth :: depthsAll (depth + 1) below

def depthsAll (depth : Nat) : List Shape → List Nat
  | [] => []
  | first :: rest => depths depth first ++ depthsAll depth rest

end

theorem head?_depths (depth : Nat) (shape : Shape) (rest : List Nat) :
    (depths depth shape ++ rest).head? = some depth := by
  cases shape
  rfl

theorem head?_depthsAll {depth : Nat} {rest : List Nat} (less : ∀ other ∈ rest.head?, other < depth)
    (shapes : List Shape) : ∀ other ∈ (depthsAll depth shapes ++ rest).head?, other ≤ depth := by
  cases shapes with
  | nil => exact fun other first => Nat.le_of_lt (less other first)
  | cons shape shapes =>
    rw [depthsAll, List.append_assoc, head?_depths]
    rintro other ⟨⟩
    exact Nat.le_refl depth

mutual

/-- A tree ends where a node comes that is not deeper than its root, so that depths in preorder
leave no choice. -/
theorem eq_of_depths {depth : Nat} {rest others : List Nat}
    (less : ∀ other ∈ rest.head?, other ≤ depth) (less' : ∀ other ∈ others.head?, other ≤ depth) :
    (one other : Shape) → depths depth one ++ rest = depths depth other ++ others → one = other ∧
      rest = others
  | fork below, fork below', same => by
    have under {list : List Nat} (bound : ∀ other ∈ list.head?, other ≤ depth) :
        ∀ other ∈ list.head?, other < depth + 1 :=
          fun other first => Nat.lt_succ_of_le (bound other first)
    obtain ⟨rfl, left⟩ := eq_of_depthsAll (under less)
      (under less') below below' (List.cons.inj same).2
    exact ⟨rfl, left⟩

theorem eq_of_depthsAll {depth : Nat} {rest others : List Nat}
    (less : ∀ other ∈ rest.head?, other < depth) (less' : ∀ other ∈ others.head?, other < depth) :
    (ones shapes : List Shape) → depthsAll depth ones ++ rest = depthsAll depth shapes ++ others →
      ones = shapes ∧ rest = others
  | [], [], same => ⟨rfl, same⟩
  | [], shape :: shapes, same => by
    rw [depthsAll, depthsAll, List.append_assoc, List.nil_append] at same
    exact absurd (less depth (by rw [same, head?_depths]; rfl)) (Nat.lt_irrefl depth)
  | one :: ones, [], same => by
    rw [depthsAll, depthsAll, List.append_assoc, List.nil_append] at same
    exact absurd (less' depth (by rw [← same, head?_depths]; rfl)) (Nat.lt_irrefl depth)
  | one :: ones, shape :: shapes, same => by
    rw [depthsAll, depthsAll, List.append_assoc, List.append_assoc] at same
    obtain ⟨rfl, further⟩ :=
      eq_of_depths (head?_depthsAll less ones) (head?_depthsAll less' shapes) one shape same
    obtain ⟨rfl, left⟩ := eq_of_depthsAll less less' ones shapes further
    exact ⟨rfl, left⟩

end

theorem depths_injective {one other : Shape} {depth : Nat}
    (same : depths depth one = depths depth other) :
    one = other := by
  have none : ∀ other ∈ ([] : List Nat).head?, other ≤ depth := nofun
  exact (eq_of_depths none none one other (by rw [same])).1

end Shape

namespace Node

mutual

def shape : Node → Shape
  | cell _ _ _ _ children => .fork (shapes children)

def shapes : List Node → List Shape
  | [] => []
  | node :: rest => shape node :: shapes rest

end

/-- A node in its place: whether each node above it is the last child, from the root on, and whether
it is one itself. -/
structure Placement where
  node : Node
  above : List Bool
  last : Bool

mutual

def placements (above : List Bool) (last : Bool) : Node → List Placement
  | cell address value numberFormat formula children =>
    ⟨cell address value numberFormat formula children, above, last⟩ :: placementsAll
      (above ++ [last]) children

def placementsAll (above : List Bool) : List Node → List Placement
  | [] => []
  | node :: rest => placements above rest.isEmpty node ++ placementsAll above rest

end

mutual

theorem placements_nodes (above : List Bool) (last : Bool) :
    (root : Node) → (placements above last root).map Placement.node = root.preorder
  | cell address value numberFormat formula children => by
    rw [placements, preorder, List.map_cons, placementsAll_nodes]

theorem placementsAll_nodes (above : List Bool) :
    (nodes : List Node) → (placementsAll above nodes).map Placement.node = preorderAll nodes
  | [] => rfl
  | node :: rest => by
      rw [placementsAll, preorderAll, List.map_append, placements_nodes, placementsAll_nodes]

end

mutual

theorem placements_depths (above : List Bool) (last : Bool) :
    (root : Node) → (placements above last root).map (fun place => place.above.length) =
      root.shape.depths above.length
  | cell address value numberFormat formula children => by
    rw [placements, shape, Shape.depths, List.map_cons, placementsAll_depths, List.length_append]
    rfl

theorem placementsAll_depths (above : List Bool) : (nodes : List Node) →
    (placementsAll above nodes).map (fun place => place.above.length) = Shape.depthsAll above.length
      (shapes nodes)
  | [] => rfl
  | node :: rest => by
    rw [placementsAll, shapes, Shape.depthsAll, List.map_append, placements_depths,
      placementsAll_depths]

end

/-! ### Bars -/

def leadText (above : List Bool) (last : Bool) : List Char :=
  above.flatMap (fun last => (continuation last).toList) ++ (connector last).toList

theorem continuation_toList (last : Bool) :
    (continuation last).toList = [if last then ' ' else '│', ' ', ' ', ' '] := by
  cases last <;> decide

theorem connector_toList (last : Bool) :
    (connector last).toList = [if last then '└' else '├', '─', '─', ' '] := by
  cases last <;> decide

theorem leadText_cons (first : Bool) (above : List Bool) (last : Bool) :
    leadText (first :: above) last = (continuation first).toList ++ leadText above last := by
  simp [leadText]

theorem length_flatMap_continuation (above : List Bool) :
    (above.flatMap fun last => (continuation last).toList).length = 4 * above.length := by
  induction above with
  | nil => rfl
  | cons first above ih =>
    rw [List.flatMap_cons, List.length_append, ih, continuation_toList, List.length_cons]
    simp only [List.length_cons, List.length_nil]
    omega

theorem leadText_column (above : List Bool) (last : Bool) (level : Nat) :
    (leadText above last)[4 * level]? =
      match above[level]? with
      | some first => some (if first then ' ' else '│')
      | none => if level = above.length then some (if last then '└' else '├') else none := by
  induction above generalizing level with
  | nil =>
    cases level with
    | zero => simp [leadText, connector_toList]
    | succ level =>
      have short : (connector last).toList.length ≤ 4 * (level + 1) := by
        rw [connector_toList, List.length_cons, List.length_cons, List.length_cons,
          List.length_singleton]
        omega
      rw [leadText, List.flatMap_nil, List.nil_append, List.getElem?_eq_none short]
      simp
  | cons first above ih =>
    rw [leadText_cons, continuation_toList]
    cases level with
    | zero => simp
    | succ level =>
      rw [Nat.mul_succ, List.getElem?_append_right (by simp)]
      simp [ih]

/-- At each level of a route that is not the last one there, what follows goes on with it or
branches off. -/
def Held (route : List Bool) (rest : List Placement) : Prop :=
  ∀ level, route[level]? = some false →
    ∃ next ∈ rest.head?, next.above[level]? = some false ∨ level = next.above.length

def Tied : List Placement → Prop
  | [] => True
  | place :: rest => Held (place.above ++ [place.last]) rest ∧ Tied rest

theorem head?_placements (above : List Bool) (last : Bool) (node : Node) (rest : List Placement) :
    (placements above last node ++ rest).head? = some ⟨node, above, last⟩ := by
  cases node
  rfl

theorem held_placementsAll {above : List Bool} {rest : List Placement} (held : Held above rest)
    (nodes : List Node) :
    Held above (placementsAll above nodes ++ rest) := by
  cases nodes with
  | nil => exact held
  | cons node more =>
    intro level opened
    rw [placementsAll, List.append_assoc, head?_placements]
    exact ⟨_, rfl, .inl opened⟩

mutual

theorem tied_placements (above : List Bool) (last : Bool) {rest : List Placement}
    (held : Held (above ++ [last]) rest) (tied : Tied rest) :
    (node : Node) → Tied (placements above last node ++ rest)
  | cell _ _ _ _ children =>
    ⟨held_placementsAll held children, tied_placementsAll (above ++ [last]) held tied children⟩

theorem tied_placementsAll (above : List Bool) {rest : List Placement} (held : Held above rest)
    (tied : Tied rest) :
    (nodes : List Node) → Tied (placementsAll above nodes ++ rest)
  | [] => tied
  | node :: more => by
    rw [placementsAll, List.append_assoc]
    refine tied_placements above more.isEmpty ?_ (tied_placementsAll above held tied more) node
    intro level opened
    rcases Nat.lt_or_ge level above.length with before | here
    · rw [List.getElem?_append_left before] at opened
      exact held_placementsAll held more level opened
    · -- The bar below the node itself goes to its next sibling.
      rw [List.getElem?_append_right here] at opened
      cases more with
      | nil => simp [List.getElem?_singleton] at opened
      | cons next others =>
        rw [placementsAll, List.append_assoc, head?_placements]
        have level_eq : level = above.length := by
          by_contra other
          rw [List.getElem?_eq_none (by simp; omega)] at opened
          cases opened
        exact ⟨_, rfl, .inr level_eq⟩

end

theorem Tied.held {places : List Placement} (tied : Tied places) {index : Nat} {place : Placement}
    (found : places[index]? = some place) : Held (place.above ++ [place.last])
      (places.drop (index + 1)) := by
  induction places generalizing index with
  | nil => simp at found
  | cons first rest ih =>
    cases index with
    | zero =>
      cases found
      exact tied.1
    | succ index => exact ih tied.2 found

/-- Where a lead has an open bar at the start of a block, the next lead exists and has a bar or a
connector there. -/
def BarsGoOn (leads : List (List Char)) : Prop :=
  ∀ index, ∀ lead ∈ leads[index]?, ∀ level, ∀ c ∈ lead[4 * level]?, c ∈ ['├', '│'] →
    ∃ next ∈ leads[index + 1]?, ∃ d ∈ next[4 * level]?, d ∈ ['│', '├', '└']

theorem opened_of_column {above : List Bool} {last : Bool} {level : Nat} {c : Char}
    (column : c ∈ (leadText above last)[4 * level]?) (bar : c ∈ ['├', '│']) :
    (above ++ [last])[level]? = some false := by
  rw [leadText_column] at column
  rcases Nat.lt_or_ge level above.length with before | behind
  · rw [List.getElem?_append_left before]
    rw [List.getElem?_eq_getElem before] at column ⊢
    cases first : above[level] with
    | false => rfl
    | true =>
      simp only [first, Option.mem_def, if_true, Option.some.injEq] at column
      subst column
      exact absurd bar (by decide)
  · rw [List.getElem?_eq_none behind] at column
    dsimp only at column
    split at column
    next here =>
      subst here
      cases last with
      | false => simp
      | true =>
        simp only [Option.mem_def, if_true, Option.some.injEq] at column
        subst column
        exact absurd bar (by decide)
    next => cases column

theorem column_of_joined {above : List Bool} (last : Bool) {level : Nat}
    (joined : above[level]? = some false ∨ level = above.length) :
    ∃ d ∈ (leadText above last)[4 * level]?, d ∈ ['│', '├', '└'] := by
  rw [leadText_column]
  rcases joined with opened | rfl
  · rw [opened]
    exact ⟨'│', rfl, by decide⟩
  · rw [List.getElem?_eq_none (Nat.le_refl _), if_pos rfl]
    exact ⟨_, rfl, by cases last <;> decide⟩

theorem Tied.barsGoOn {places : List Placement} (tied : Tied places) :
    BarsGoOn (places.map fun place => leadText place.above place.last) := by
  intro index lead found level c column bar
  rw [List.getElem?_map, Option.mem_def, Option.map_eq_some_iff] at found
  obtain ⟨place, found, rfl⟩ := found
  obtain ⟨next, follows, joined⟩ := tied.held found level (opened_of_column column bar)
  rw [List.head?_drop] at follows
  refine ⟨leadText next.above next.last, ?_, column_of_joined next.last joined⟩
  rw [List.getElem?_map, Option.mem_def.1 follows]
  rfl

/-! ### Text -/

/-- A node with an address, a formula and a displayed value of one line each. -/
structure OneLine (node : Node) : Prop where
  address : '\n' ∉ node.address.toList
  formula : ∀ formula ∈ node.formula, '\n' ∉ formula.toList
  shown : ∀ text, node.value.display node.numberFormat = .ok text → '\n' ∉ text.toList

instance (node : Node) : Decidable node.OneLine :=
  decidable_of_iff ('\n' ∉ node.address.toList ∧
    node.formula.all (fun formula => '\n' ∉ formula.toList) = true ∧
      (node.value.display node.numberFormat).toOption.all (fun text => '\n' ∉ text.toList) = true)
        <| by
    constructor
    · rintro ⟨address, formula, shown⟩
      refine ⟨address, fun formula' written => ?_, fun text shown' => ?_⟩
      · simpa [Option.mem_def.1 written] using formula
      · simpa [shown', Except.toOption] using shown
    · intro line
      refine ⟨line.address, ?_, ?_⟩
      · cases written : node.formula with
        | none => rfl
        | some formula => simpa using line.formula formula written
      · cases shown : node.value.display node.numberFormat with
        | error failure => rfl
        | ok text => simpa [Except.toOption] using line.shown text shown

def Drawn (line : String) (place : Placement) : Prop :=
  ∃ label, place.node.label = .ok label ∧ line.toList = leadText place.above place.last ++
    label.toList

mutual

theorem lines_drawn {lead : String} {above : List Bool}
    (same : lead.toList = above.flatMap fun last => (continuation last).toList) (last : Bool) :
    (node : Node) → (texts : List String) → lines lead last node = .ok texts →
      List.Forall₂ Drawn texts (placements above last node)
  | cell address value numberFormat formula children, texts, shown => by
    unfold lines at shown
    obtain ⟨label, named, shown⟩ := Except.bind_eq_ok shown
    obtain ⟨below, drawn, shown⟩ := Except.bind_eq_ok shown
    cases shown
    have longer : (lead ++ continuation last).toList =
        (above ++ [last]).flatMap fun last => (continuation last).toList := by
      simp [same]
    refine .cons ⟨label, named, ?_⟩ (childLines_drawn longer children below drawn)
    simp [leadText, same]

theorem childLines_drawn {lead : String} {above : List Bool}
    (same : lead.toList = above.flatMap fun last => (continuation last).toList) :
    (nodes : List Node) → (texts : List String) → childLines lead nodes = .ok texts →
      List.Forall₂ Drawn texts (placementsAll above nodes)
  | [], texts, shown => by
    cases shown
    exact .nil
  | node :: rest, texts, shown => by
    unfold childLines at shown
    obtain ⟨first, drawn, shown⟩ := Except.bind_eq_ok shown
    obtain ⟨others, further, shown⟩ := Except.bind_eq_ok shown
    cases shown
    exact List.rel_append (lines_drawn same rest.isEmpty node first drawn)
      (childLines_drawn same rest others further)

end

theorem label_toList {node : Node} {label : String} (named : node.label = .ok label) :
    ∃ more, label.toList = "**".toList ++ node.address.toList ++ "**".toList ++ more := by
  obtain ⟨text, -, rfl⟩ := Except.map_eq_ok named
  simp only [String.toList_append, List.append_assoc, List.append_cancel_left_eq, exists_eq']

theorem OneLine.label {node : Node} (oneLine : node.OneLine) {label : String}
    (named : node.label = .ok label) :
    '\n' ∉ label.toList := by
  obtain ⟨text, shown, rfl⟩ := Except.map_eq_ok named
  have value : '\n' ∉ (if text = "" then "" else " = " ++ text).toList := by
    split
    · simp
    · simp [oneLine.shown text shown]
  cases written : node.formula with
  | none => simp [oneLine.address, value]
  | some formula =>
    have line := oneLine.formula formula written
    by_cases empty : formula = "" <;> simp [oneLine.address, value, empty, line]

theorem line_notMem_leadText (above : List Bool) (last : Bool) : '\n' ∉ leadText above last := by
  have block (last : Bool) : '\n' ∉ (continuation last).toList ∧
      '\n' ∉ (connector last).toList := by
    cases last <;> decide
  simp [leadText, block]

def textLines (text : String) : List (List Char) := splitAt '\n' text.toList

def leadOf (line : List Char) : List Char := line.takeWhile (· ≠ '*')

/-- A line shows a node at a depth: four characters for each step, a connector, and the address
between asterisks. -/
def ShowsAt (line : List Char) (node : Node) (depth : Nat) : Prop :=
  ∃ front last more, front.length = 4 * depth ∧ leadOf line = front ++ (connector last).toList ∧
    line = leadOf line ++ ("**".toList ++ node.address.toList ++ "**".toList ++ more)

theorem leadOf_leadText (above : List Bool) (last : Bool) (more : List Char) :
    leadOf (leadText above last ++ '*' :: more) = leadText above last := by
  have block (last : Bool) : '*' ∉ (continuation last).toList ∧ '*' ∉ (connector last).toList := by
    cases last <;> decide
  have plain : ∀ c ∈ leadText above last, decide (c ≠ '*') = true := by
    intro c member
    rw [decide_eq_true_eq]
    rintro rfl
    simp [leadText, block] at member
  unfold leadOf
  rw [List.takeWhile_append_of_pos plain]
  simp

theorem Drawn.lead {line : String} {place : Placement} (drawn : Drawn line place) :
    leadOf line.toList = leadText place.above place.last := by
  obtain ⟨label, named, whole⟩ := drawn
  obtain ⟨more, label_eq⟩ := label_toList named
  rw [whole, label_eq]
  exact leadOf_leadText place.above place.last _

theorem Drawn.showsAt {line : String} {place : Placement} (drawn : Drawn line place) :
    ShowsAt line.toList place.node place.above.length := by
  have lead := drawn.lead
  obtain ⟨label, named, whole⟩ := drawn
  obtain ⟨more, label_eq⟩ := label_toList named
  refine ⟨_, place.last, more, length_flatMap_continuation place.above, lead, ?_⟩
  rw [lead, whole, label_eq]

theorem Drawn.line {line : String} {place : Placement} (drawn : Drawn line place)
    (oneLine : place.node.OneLine) :
    '\n' ∉ line.toList := by
  obtain ⟨label, named, whole⟩ := drawn
  rw [whole]
  exact List.not_mem_append (line_notMem_leadText place.above place.last) (oneLine.label named)

variable {root : Node} {text : String}

theorem textLines_drawn (shown : root.render none = .ok text)
    (oneLine : ∀ node ∈ root.preorder, node.OneLine) :
    ∃ drawn, textLines text = drawn.map String.toList ∧
      List.Forall₂ Drawn drawn (placements [] true root) := by
  obtain ⟨texts, drawn, rfl⟩ := Except.map_eq_ok shown
  have same : "".toList = ([] : List Bool).flatMap fun last => (continuation last).toList := rfl
  have places := lines_drawn same true root texts drawn
  refine ⟨texts, ?_, places⟩
  have filled : texts.map String.toList ≠ [] := by
    intro empty
    rw [List.map_eq_nil_iff.1 empty] at places
    cases root
    cases places
  have lines : ∀ line ∈ texts.map String.toList, '\n' ∉ line := by
    intro line among
    obtain ⟨line, written, rfl⟩ := List.mem_map.1 among
    obtain ⟨⟨index, inside⟩, rfl⟩ := List.mem_iff_get.1 written
    have there : index < (placements [] true root).length := places.length_eq ▸ inside
    apply (places.get inside there).line
    apply oneLine
    rw [← placements_nodes [] true]
    exact List.mem_map_of_mem (List.get_mem _ _)
  unfold textLines
  rw [String.toList_intercalate]
  exact splitAt_intercalate filled lines

theorem leads_eq (shown : root.render none = .ok text)
    (oneLine : ∀ node ∈ root.preorder, node.OneLine) :
    (textLines text).map leadOf = (placements [] true root).map fun place =>
      leadText place.above place.last := by
  obtain ⟨drawn, lines, places⟩ := textLines_drawn shown oneLine
  rw [lines, List.map_map, ← List.forall₂_eq_eq_eq, List.forall₂_map_left_iff,
    List.forall₂_map_right_iff]
  exact places.imp fun line place drawn => drawn.lead

theorem depths_of_leads {leads : List (List Char)}
    (same : leads = (placements [] true root).map fun place => leadText place.above place.last) :
    root.shape.depths 0 = leads.map fun lead => lead.length / 4 - 1 := by
  have depths := placements_depths [] true root
  rw [List.length_nil] at depths
  rw [same, List.map_map, ← depths]
  apply List.map_congr_left
  intro place _
  have size : (leadText place.above place.last).length = 4 * place.above.length + 4 := by
    rw [leadText, List.length_append, length_flatMap_continuation, connector_toList]
    rfl
  simp only [Function.comp_apply, size]
  omega

/-- The text of a tree has one line for each node, in preorder, with a block for each step that
leads to the node, a connector and the address; bars and connectors are joined from line to line;
and what stands in front of the addresses leaves no choice of the shape of the tree. -/
theorem render_tells_shape (shown : root.render none = .ok text)
    (oneLine : ∀ node ∈ root.preorder, node.OneLine) :
    (textLines text).length = root.nodeCount ∧
      List.Forall₂ (fun line place => ShowsAt line place.1 place.2) (textLines text)
        (root.preorder.zip (root.shape.depths 0)) ∧
      BarsGoOn ((textLines text).map leadOf) ∧
      ∀ (other : Node) (otherText : String), other.render none = .ok otherText →
        (∀ node ∈ other.preorder, node.OneLine) →
        (textLines otherText).map leadOf = (textLines text).map leadOf →
          other.shape = root.shape := by
  obtain ⟨drawn, lines, places⟩ := textLines_drawn shown oneLine
  have leads := leads_eq shown oneLine
  have nodes := placements_nodes [] true root
  have depths := placements_depths [] true root
  refine ⟨?_, ?_, ?_, ?_⟩
  · rw [lines, List.length_map, places.length_eq, nodeCount_eq, ← nodes, List.length_map]
  · rw [List.length_nil] at depths
    rw [lines, ← nodes, ← depths, List.zip_map', List.forall₂_map_left_iff,
      List.forall₂_map_right_iff]
    exact places.imp fun line place drawn => drawn.showsAt
  · have held : Held ([] ++ [true]) [] := by
      intro level opened
      cases level <;> simp at opened
    have tied := tied_placements [] true held trivial root
    rw [List.append_nil] at tied
    rw [leads]
    exact tied.barsGoOn
  · intro other otherText otherShown otherLine same
    have others := leads_eq otherShown otherLine
    apply Shape.depths_injective
    rw [depths_of_leads others, depths_of_leads leads, same]

/-- Below the first of two children stands another node, so that its line has a bar. -/
theorem render_tells_shape_barred :
    (textLines
      "└── **S!A1**\n    ├── **S!B1** = 7\n    │   └── **S!D1**\n    └── **S!C1**").length = 4 ∧
      BarsGoOn
        ((textLines
        "└── **S!A1**\n    ├── **S!B1** = 7\n    │   └── **S!D1**\n    └── **S!C1**").map
        leadOf) := by
  have shown : (cell "S!A1" .blank none none
      [cell "S!B1" (.text "7") none none [cell "S!D1" .blank none none []],
        cell "S!C1" .blank none none []]).render none =
        .ok "└── **S!A1**\n    ├── **S!B1** = 7\n    │   └── **S!D1**\n    └── **S!C1**" := by
    cbv
  have lines := render_tells_shape shown (by decide +kernel)
  exact ⟨lines.1, lines.2.2.1⟩

end Node

end FormulaTrace
