import FormulaTrace.Proofs.Address.Qualified
import FormulaTrace.Proofs.Workbook.Sheets
import FormulaTrace.Workbook.Index
import Mathlib.Data.List.Nodup

/-! The index of a workbook, formula by formula.
An index is built from the formula cells of all sheets, one after another.  Their addresses differ,
and so every one of them is found in the index with all that was kept of it. -/
namespace FormulaTrace
open Text

namespace Sheet

theorem mem_positions {sheet : Sheet} {place : Position} :
    place ∈ sheet.positions ↔
      ∃ extent, sheet.extent = some extent ∧ place.row ≤ extent.bottom ∧
        place.col ≤ extent.right := by
  unfold positions
  cases sheet.extent with
  | none => simp
  | some extent =>
    simp only [List.mem_flatMap, List.mem_map, List.mem_range, Option.some.injEq, exists_eq_left']
    constructor
    · rintro ⟨row, down, col, across, rfl⟩
      exact ⟨Nat.le_of_lt_succ down, Nat.le_of_lt_succ across⟩
    · rintro ⟨down, across⟩
      exact ⟨place.row, Nat.lt_succ_of_le down, place.col, Nat.lt_succ_of_le across, rfl⟩

theorem holds_of_formula {sheet : Sheet} (spanned : sheet.Spanned) {place : Position}
    {formula : String} (written : (sheet.content place).value.formula? = some formula) :
    ∃ extent, sheet.extent = some extent ∧ extent.Holds place := by
  unfold content at written
  cases found : sheet.contents.lookup place with
  | none =>
    rw [found] at written
    cases written
  | some content =>
    obtain ⟨before, after, parts, _⟩ := List.lookup_eq_some_iff.1 found
    exact spanned.holds (place, content) (by simp [parts])

theorem mem_positions_of_formula {sheet : Sheet} (spanned : sheet.Spanned) {place : Position}
    {formula : String} (written : (sheet.content place).value.formula? = some formula) :
    place ∈ sheet.positions := by
  obtain ⟨extent, same, _, across, _, down⟩ := holds_of_formula spanned written
  exact mem_positions.2 ⟨extent, same, down, across⟩

theorem formulaCells_sublist (sheet : Sheet) :
    sheet.formulaCells.Sublist (sheet.positions.filterMap fun place =>
      ((sheet.content place).value.formula?).map fun formula => (place, formula)) := by
  unfold formulaCells
  split
  · exact List.nil_sublist _
  · exact .refl _

end Sheet

/-- A formula cell of a workbook. -/
structure Reader where
  sheet : String
  place : Position
  formula : String

namespace Reader

def address (reader : Reader) : String :=
  qualify reader.sheet (addressText reader.place.col reader.place.row)

def areas (reader : Reader) : List Area := Formula.references reader.formula reader.sheet

def entry (reader : Reader) : FormulaEntry := ⟨reader.formula, reader.areas.map Area.text⟩

def ofSheet (sheet : Sheet) : List Reader :=
  sheet.formulaCells.map fun cell => ⟨sheet.title, cell.1, cell.2⟩

/-- The formula cells of some sheets in the order in which an index takes them. -/
def all (sheets : List Sheet) : List Reader := sheets.flatMap ofSheet

theorem all_cons (sheet : Sheet) (rest : List Sheet) :
    all (sheet :: rest) = ofSheet sheet ++ all rest :=
  List.flatMap_cons

theorem mem_ofSheet {sheet : Sheet} {reader : Reader} :
    reader ∈ ofSheet sheet ↔
      reader.sheet = sheet.title ∧ reader.place ∈ sheet.positions ∧
        (sheet.content reader.place).value.formula? = some reader.formula ∧
          sheet.chart = false := by
  unfold ofSheet Sheet.formulaCells
  cases sheet.chart with
  | true => simp
  | false =>
    simp only [Bool.false_eq_true, if_false, and_true, List.mem_map, List.mem_filterMap,
      Option.map_eq_some_iff]
    constructor
    · rintro ⟨_, ⟨place, inside, formula, written, rfl⟩, rfl⟩
      exact ⟨rfl, inside, written⟩
    · obtain ⟨title, place, formula⟩ := reader
      rintro ⟨rfl, inside, written⟩
      exact ⟨(place, formula), ⟨place, inside, formula, written, rfl⟩, rfl⟩

theorem address_injective {first second : Reader} (same : first.address = second.address) :
    first.sheet = second.sheet ∧ first.place = second.place := by
  obtain ⟨sheets, places⟩ := qualify_injective (isPlace_addressText _ _)
    (isPlace_addressText _ _) same
  exact ⟨sheets, addressText_injective places⟩

theorem eq_of_address_eq {sheets : List Sheet} (differ : (sheets.map Sheet.title).Nodup)
    {first second : Reader} (one : first ∈ all sheets) (other : second ∈ all sheets)
    (same : first.address = second.address) :
    first = second := by
  obtain ⟨sheetOne, listedOne, one⟩ := List.mem_flatMap.1 one
  obtain ⟨sheetOther, listedOther, other⟩ := List.mem_flatMap.1 other
  obtain ⟨titleOne, _, writtenOne, _⟩ := mem_ofSheet.1 one
  obtain ⟨titleOther, _, writtenOther, _⟩ := mem_ofSheet.1 other
  obtain ⟨titles, places⟩ := address_injective same
  have sheet : sheetOne = sheetOther :=
    List.inj_on_of_nodup_map differ listedOne listedOther (by rw [← titleOne, ← titleOther, titles])
  subst sheet
  rw [places, writtenOther] at writtenOne
  obtain ⟨title, place, formula⟩ := first
  obtain ⟨title', place', formula'⟩ := second
  simp only [Option.some.injEq] at titles places writtenOne
  rw [titles, places, writtenOne]

end Reader

theorem Digraph.join_label?_addEdge {α : Type} (graph : Digraph (Option α))
    (first last node : String) :
    ((graph.addEdge none first last).label? node).join = (graph.label? node).join := by
  have kept (graph : Digraph (Option α)) (other : String) :
      ((graph.ensureNode other none).label? node).join = (graph.label? node).join := by
    rw [label?_ensureNode]
    split
    next same =>
      rw [same]
      cases graph.label? node <;> rfl
    next => rfl
  have both := (kept (graph.ensureNode first none) last).trans (kept graph first)
  unfold addEdge
  dsimp only
  split
  · exact both
  · exact both

namespace Index

variable {titles : List String} {limit : Int}

def addReader (titles : List String) (limit : Int) (index : Index) (reader : Reader) : Index :=
  addFormula titles limit reader.sheet index (reader.place, reader.formula)

theorem ofSheets_eq (sheets : List Sheet) :
    ofSheets limit sheets = (Reader.all sheets).foldl (addReader (sheets.map Sheet.title) limit)
      empty := by
  unfold ofSheets Reader.all Reader.ofSheet
  rw [List.foldl_flatMap]
  congr 1
  funext index sheet
  rw [List.foldl_map]
  rfl

/-- What is kept of the formula of a cell. -/
def formulaAt? (index : Index) (node : String) : Option FormulaEntry :=
  (index.graph.label? node).join

theorem precedents_eq (index : Index) (node : String) :
    index.precedents node =
      ((index.formulaAt? node).map fun entry => entry.references.map fun area => [area]).getD
        [] := by
  unfold precedents formulaAt?
  cases index.graph.label? node with
  | none => rfl
  | some label => cases label <;> rfl

theorem formulaAt?_addReference (index : Index) (cell node : String) (reference : Area) :
    (addReference titles limit cell index reference).formulaAt? node = index.formulaAt? node := by
  unfold addReference
  dsimp only
  split
  · rfl
  · generalize (settle titles reference).addresses = reads
    have kept (graph : Digraph (Option FormulaEntry)) :
        ((reads.foldl (fun graph read => graph.addEdge none read cell) graph).label? node).join =
          (graph.label? node).join := by
      induction reads generalizing graph with
      | nil => rfl
      | cons read rest ih => exact (ih _).trans (graph.join_label?_addEdge read cell node)
    exact kept index.graph

theorem formulaAt?_addReferences (areas : List Area) (index : Index) (cell node : String) :
    (areas.foldl (addReference titles limit cell) index).formulaAt? node =
      index.formulaAt? node := by
  induction areas generalizing index with
  | nil => rfl
  | cons area rest ih => exact (ih _).trans (formulaAt?_addReference index cell node area)

theorem formulaAt?_addReader (index : Index) (reader : Reader) (node : String) :
    (addReader titles limit index reader).formulaAt? node =
      if reader.address = node then some reader.entry else index.formulaAt? node := by
  refine (formulaAt?_addReferences reader.areas _ reader.address node).trans ?_
  unfold formulaAt?
  dsimp only
  rw [Digraph.label?_setNode]
  split
  next same => exact (if_pos same).symm
  next other => exact (if_neg other).symm

/-- Of the formulas that were added for a cell the last is kept. -/
theorem formulaAt?_addReaders (readers : List Reader) (index : Index) (node : String) :
    (readers.foldl (addReader titles limit) index).formulaAt? node =
      ((readers.reverse.find? fun reader => reader.address = node).map Reader.entry).or
        (index.formulaAt? node) := by
  induction readers generalizing index with
  | nil => rfl
  | cons reader rest ih =>
    rw [List.foldl_cons, ih, formulaAt?_addReader, List.reverse_cons, List.find?_append,
      Option.map_or, Option.or_assoc]
    congr 1
    by_cases same : reader.address = node <;> simp [same]

theorem formulaAt?_ofSheets (sheets : List Sheet) (node : String) :
    (ofSheets limit sheets).formulaAt? node =
      ((Reader.all sheets).reverse.find? fun reader => reader.address = node).map Reader.entry := by
  have none : empty.formulaAt? node = none := congrArg Option.join (Digraph.label?_empty node)
  rw [ofSheets_eq, formulaAt?_addReaders, none, Option.or_none]

theorem precedents_ofSheets {sheets : List Sheet} (differ : (sheets.map Sheet.title).Nodup)
    {reader : Reader} (member : reader ∈ Reader.all sheets) :
    (ofSheets limit sheets).precedents reader.address = reader.areas.map fun area =>
      [area.text] := by
  have known : ((Reader.all sheets).reverse.find? fun other =>
      other.address = reader.address).isSome = true :=
    List.find?_isSome.2 ⟨reader, List.mem_reverse.2 member, decide_eq_true rfl⟩
  obtain ⟨other, found⟩ := Option.isSome_iff_exists.1 known
  have same : other.address = reader.address := by
    have told := List.find?_some found
    exact of_decide_eq_true told
  have listed := List.mem_reverse.1 (List.mem_of_find?_eq_some found)
  rw [precedents_eq, formulaAt?_ofSheets, found, Reader.eq_of_address_eq differ listed member same]
  exact List.map_map

theorem precedents_ofSheets_of_unmet {sheets : List Sheet} {node : String}
    (unmet : ∀ reader ∈ Reader.all sheets, reader.address ≠ node) :
    (ofSheets limit sheets).precedents node = [] := by
  have none : (Reader.all sheets).reverse.find? (fun reader => reader.address = node) = none := by
    rw [List.find?_eq_none]
    intro reader listed same
    exact unmet reader (List.mem_reverse.1 listed) (of_decide_eq_true same)
  rw [precedents_eq, formulaAt?_ofSheets, none]
  rfl

end Index

end FormulaTrace
