import FormulaTrace.Proofs.Address.Enumeration
import FormulaTrace.Proofs.Workbook.Cells
import FormulaTrace.Proofs.Workbook.Readers

/-! The edges of an index, and the areas that it keeps, formula by formula. A cell of an index leads
to the formula cells with an area that was expanded to it, in the order in which the index takes
them; the areas that are too wide to be expanded are kept in this order. -/
namespace FormulaTrace
open Text

theorem Digraph.successors_foldl_addEdge {α : Type} (blank : α) (cell node : String)
    (reads : List String) (graph : Digraph α) :
    (reads.foldl (fun graph read => graph.addEdge blank read cell) graph).successors node =
      if node ∈ reads ∧ cell ∉ graph.successors node then graph.successors node ++ [cell]
      else graph.successors node := by
  induction reads generalizing graph with
  | nil => simp
  | cons read rest ih =>
    rw [List.foldl_cons, ih, successors_addEdge]
    by_cases same : read = node
    · subst same
      by_cases old : cell ∈ graph.successors read <;> simp [old]
    · simp [same, Ne.symm same]

namespace Index

variable {titles : List String} {limit : Int} {cell node : String}

def expanded (limit : Int) (areas : List Area) : List Area :=
  areas.filter fun area => area.cellCount ≤ limit

def kept (limit : Int) (areas : List Area) : List Area :=
  areas.filter fun area => limit < area.cellCount

def reaches (titles : List String) (node : String) (areas : List Area) : Bool :=
  areas.any fun area => node ∈ (settle titles area).addresses

theorem reaches_expanded_cons (area : Area) (rest : List Area) :
    reaches titles node (expanded limit (area :: rest)) = true ↔
      (area.cellCount ≤ limit ∧ node ∈ (settle titles area).addresses) ∨
        reaches titles node (expanded limit rest) = true := by
  unfold reaches expanded
  by_cases narrow : area.cellCount ≤ limit <;> simp [narrow]

theorem successors_addReference (index : Index) (area : Area) :
    (addReference titles limit cell index area).graph.successors node =
      if (area.cellCount ≤ limit ∧ node ∈ (settle titles area).addresses) ∧
        cell ∉ index.graph.successors node then
        index.graph.successors node ++ [cell]
      else index.graph.successors node := by
  have count : (settle titles area).cellCount = area.cellCount := rfl
  unfold addReference
  dsimp only
  rw [count]
  by_cases wide : limit < area.cellCount
  · rw [if_pos wide, if_neg fun both => Int.not_le.2 wide both.1.1]
  · rw [if_neg wide]
    refine (Digraph.successors_foldl_addEdge none cell node _ index.graph).trans ?_
    simp only [Int.not_lt.1 wide, true_and]

theorem successors_addReferences (areas : List Area) (index : Index) :
    (areas.foldl (addReference titles limit cell) index).graph.successors node =
      if reaches titles node (expanded limit areas) = true ∧ cell ∉ index.graph.successors node then
        index.graph.successors node ++ [cell]
      else index.graph.successors node := by
  induction areas generalizing index with
  | nil => simp [reaches, expanded]
  | cons area rest ih =>
    rw [List.foldl_cons, ih, successors_addReference]
    simp only [reaches_expanded_cons]
    by_cases first : area.cellCount ≤ limit ∧ node ∈ (settle titles area).addresses <;>
      by_cases old : cell ∈ index.graph.successors node <;> simp [first, old]

theorem wide_addReference (index : Index) (area : Area) :
    (addReference titles limit cell index area).wide =
      index.wide ++ (kept limit [area]).map fun area => (settle titles area, cell) := by
  have count : (settle titles area).cellCount = area.cellCount := rfl
  unfold addReference
  dsimp only
  rw [count]
  by_cases wide : limit < area.cellCount
  · simp [kept, wide]
  · simp [kept, wide]

theorem wide_addReferences (areas : List Area) (index : Index) :
    (areas.foldl (addReference titles limit cell) index).wide =
      index.wide ++ (kept limit areas).map fun area => (settle titles area, cell) := by
  induction areas generalizing index with
  | nil => simp [kept]
  | cons area rest ih =>
    have parts : kept limit (area :: rest) = kept limit [area] ++ kept limit rest :=
      List.filter_append [area] rest
    rw [List.foldl_cons, ih, wide_addReference, parts, List.map_append, List.append_assoc]

theorem wide_addReaders (readers : List Reader) (index : Index) :
    (readers.foldl (addReader titles limit) index).wide =
      index.wide ++ readers.flatMap fun reader =>
        (kept limit reader.areas).map fun area => (settle titles area, reader.address) := by
  induction readers generalizing index with
  | nil => simp
  | cons reader rest ih =>
    have added : (addReader titles limit index reader).wide =
        index.wide ++ (kept limit reader.areas).map fun area =>
          (settle titles area, reader.address) :=
      wide_addReferences reader.areas _
    rw [List.foldl_cons, ih, added, List.flatMap_cons, List.append_assoc]

theorem successors_addReaders {readers : List Reader} (differ : (readers.map Reader.address).Nodup)
    (index : Index) (fresh : ∀ reader ∈ readers, reader.address ∉ index.graph.successors node) :
    (readers.foldl (addReader titles limit) index).graph.successors node =
      index.graph.successors node ++
        (readers.filter fun reader => reaches titles node (expanded limit reader.areas)).map
          Reader.address := by
  induction readers generalizing index with
  | nil => simp
  | cons reader rest ih =>
    obtain ⟨new, news⟩ := List.forall_mem_cons.1 fresh
    obtain ⟨unlike, differ⟩ := List.nodup_cons.1 differ
    have added : (addReader titles limit index reader).graph.successors node =
        if reaches titles node (expanded limit reader.areas) = true ∧
          reader.address ∉ index.graph.successors node then
          index.graph.successors node ++ [reader.address]
        else index.graph.successors node := successors_addReferences reader.areas _
    rw [List.foldl_cons]
    by_cases reached : reaches titles node (expanded limit reader.areas) = true
    · -- What is added here is the address of no later formula cell, so that those stay fresh.
      rw [if_pos ⟨reached, new⟩] at added
      rw [ih differ, added, List.filter_cons, if_pos reached, List.map_cons, List.append_assoc]
      · rfl
      · intro other member
        rw [added]
        apply List.not_mem_append (news other member)
        intro same
        exact unlike (List.mem_map.2 ⟨other, member, List.mem_singleton.1 same⟩)
    · rw [if_neg fun both => reached both.1] at added
      rw [ih differ, added, List.filter_cons, if_neg reached]
      intro other member
      rw [added]
      exact news other member

end Index

def Position.Before (first second : Position) : Prop :=
  first.row < second.row ∨ first.row = second.row ∧ first.col < second.col

namespace Sheet

theorem positions_ordered (sheet : Sheet) : sheet.positions.Pairwise Position.Before := by
  unfold positions
  cases sheet.extent with
  | none => exact .nil
  | some extent =>
    rw [List.pairwise_flatMap]
    constructor
    · intro row _
      rw [List.pairwise_map]
      exact List.pairwise_lt_range.imp fun less => .inr ⟨rfl, less⟩
    · refine List.pairwise_lt_range.imp fun {first second} less one inFirst other inSecond => ?_
      obtain ⟨_, _, rfl⟩ := List.mem_map.1 inFirst
      obtain ⟨_, _, rfl⟩ := List.mem_map.1 inSecond
      exact .inl less

theorem positions_nodup (sheet : Sheet) : sheet.positions.Nodup := by
  refine sheet.positions_ordered.imp fun {first second} before same => ?_
  subst same
  rcases before with above | ⟨_, left⟩
  · exact Nat.lt_irrefl _ above
  · exact Nat.lt_irrefl _ left

end Sheet

namespace Reader

theorem ofSheet_nodup (sheet : Sheet) : (ofSheet sheet).Nodup := by
  unfold ofSheet
  refine List.Nodup.map (fun first second same => ?_)
    (sheet.formulaCells_sublist.nodup (sheet.positions_nodup.filterMap ?_))
  · obtain ⟨_, place, formula⟩ := Reader.mk.inj same
    exact Prod.ext place formula
  · intro first second cell one other
    obtain ⟨_, _, rfl⟩ := Option.map_eq_some_iff.1 one
    obtain ⟨_, _, same⟩ := Option.map_eq_some_iff.1 other
    exact (congrArg Prod.fst same).symm

theorem addresses_nodup {sheets : List Sheet} (differ : (sheets.map Sheet.title).Nodup) :
    ((all sheets).map address).Nodup := by
  apply List.Nodup.map_on (fun first one second other same =>
    eq_of_address_eq differ one other same)
  unfold all
  rw [List.nodup_flatMap]
  refine ⟨fun sheet _ => ofSheet_nodup sheet, ?_⟩
  refine (List.pairwise_map.1 differ).imp fun {first second} titles reader inFirst inSecond => ?_
  obtain ⟨one, _⟩ := mem_ofSheet.1 inFirst
  obtain ⟨other, _⟩ := mem_ofSheet.1 inSecond
  exact titles (one.symm.trans other)

end Reader

namespace Index

variable {sheets : List Sheet}

theorem successors_ofSheets (differ : (sheets.map Sheet.title).Nodup) (node : String) :
    (ofSheets limit sheets).graph.successors node =
      ((Reader.all sheets).filter fun reader =>
        reaches (sheets.map Sheet.title) node (expanded limit reader.areas)).map
          Reader.address := by
  have none : empty.graph.successors node = [] := Digraph.successors_empty node
  have fresh : ∀ reader ∈ Reader.all sheets, reader.address ∉ empty.graph.successors node := by
    intro reader _
    rw [none]
    exact List.not_mem_nil
  rw [ofSheets_eq, successors_addReaders (Reader.addresses_nodup differ) empty fresh, none,
    List.nil_append]

theorem wide_ofSheets (sheets : List Sheet) :
    (ofSheets limit sheets).wide = (Reader.all sheets).flatMap fun reader =>
      (kept limit reader.areas).map fun area =>
        (settle (sheets.map Sheet.title) area, reader.address) := by
  have none : empty.wide = [] := rfl
  rw [ofSheets_eq, wide_addReaders, none, List.nil_append]

/-- The cells that an index tells as dependents are the formula cells that reach a cell, if no area
is too wide. -/
theorem dependents_ofSheets (differ : (sheets.map Sheet.title).Nodup)
    (narrow : ∀ reader ∈ Reader.all sheets, ∀ area ∈ reader.areas, area.cellCount ≤ limit)
    (node : String) (cell : Option Cell) :
    ((ofSheets limit sheets).dependents node cell).flatten =
      ((Reader.all sheets).filter fun reader =>
        reaches (sheets.map Sheet.title) node reader.areas).map Reader.address := by
  have whole : ∀ reader ∈ Reader.all sheets, expanded limit reader.areas = reader.areas := by
    intro reader listed
    exact List.filter_eq_self.2 fun area member => decide_eq_true (narrow reader listed area member)
  have unwidened : (ofSheets limit sheets).wide = [] := by
    rw [wide_ofSheets, List.flatMap_eq_nil_iff]
    intro reader listed
    rw [List.map_eq_nil_iff, kept, List.filter_eq_nil_iff]
    intro area member wide
    exact Int.not_le.2 (of_decide_eq_true wide) (narrow reader listed area member)
  have told : (ofSheets limit sheets).graph.successors node =
      ((Reader.all sheets).filter fun reader =>
        reaches (sheets.map Sheet.title) node reader.areas).map Reader.address := by
    rw [successors_ofSheets differ]
    congr 1
    exact List.filter_congr fun reader listed => by rw [whole reader listed]
  unfold dependents
  rw [told, unwidened, addWide]
  split
  next found => exact found.symm
  next => rw [List.flatten_singleton]

theorem sheetKey_eq_iff {first second : String} (one : EndsInk first.toList)
    (other : EndsInk second.toList) :
    sheetKey first = sheetKey second ↔ lower first.toList = lower second.toList := by
  unfold sheetKey
  rw [trim_eq_self one, trim_eq_self other, String.ofList_inj]

section Reaching

variable {titles : List String} {title : String} (meant : titleFor? titles title = some title)
include meant

theorem settle_sheet_eq_iff (area : Area) :
    (settle titles area).sheet = title ↔ lower area.sheet.toList = lower title.toList := by
  change (titleFor? titles area.sheet).getD area.sheet = title ↔ _
  constructor
  · intro same
    cases found : titleFor? titles area.sheet with
    | none =>
      rw [found, Option.getD_none] at same
      rw [same, meant] at found
      cases found
    | some other =>
      rw [found, Option.getD_some] at same
      rw [← lower_of_titleFor? found, same]
  · intro same
    rw [titleFor?_congr titles same, meant]
    rfl

variable (ends : EndsInk title.toList)
include ends

/-- A reference was expanded to a cell exactly if it holds the cell. -/
theorem mem_addresses_settle {area : Area} (placed : area.Placed)
    (qualified : EndsInk area.sheet.toList) (place : Position) :
    qualify title (addressText place.col place.row) ∈ (settle titles area).addresses ↔
      area.contains ⟨title, place.col, place.row⟩ = true := by
  have listed := (settle titles area).mem_addresses_iff placed.left placed.top title place
  rw [listed, settle_sheet_eq_iff meant, Area.contains, Bool.and_eq_true, decide_eq_true_eq,
    decide_eq_true_eq, sheetKey_eq_iff qualified ends]
  rfl

theorem reaches_eq_anyContains {areas : List Area} (placed : ∀ area ∈ areas, area.Placed)
    (qualified : ∀ area ∈ areas, EndsInk area.sheet.toList) (place : Position) :
    reaches titles (qualify title (addressText place.col place.row)) areas =
      Formula.anyContains areas ⟨title, place.col, place.row⟩ := by
  rw [Bool.eq_iff_iff, reaches, Formula.anyContains, List.any_eq_true, List.any_eq_true]
  constructor
  · rintro ⟨area, member, reached⟩
    exact ⟨area, member, (mem_addresses_settle meant ends (placed area member)
      (qualified area member) place).1 (of_decide_eq_true reached)⟩
  · rintro ⟨area, member, holds⟩
    exact ⟨area, member, decide_eq_true ((mem_addresses_settle meant ends (placed area member)
      (qualified area member) place).2 holds)⟩

end Reaching

end Index

end FormulaTrace
