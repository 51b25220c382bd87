import FormulaTrace.Proofs.Lineage.Diagram
import FormulaTrace.Proofs.Workbook.Edges

/-! What an index holds.
Every formula cell of a workbook is in its index with all its areas, whether or not an earlier
formula has led to the cell. The areas of up to a limit of cells are edges from each of their cells,
on the sheet that their name means; the others are kept, in the order of the formulas. -/
namespace FormulaTrace
open Text

namespace Digraph

variable {α : Type} {graph : Digraph α} {first last : String}

/-- The nodes of a graph are listed once each, and its edges start from them. -/
structure Sound (graph : Digraph α) : Prop where
  tidy : graph.Tidy
  rooted : ∀ first last, last ∈ graph.successors first → graph.hasNode first = true

theorem sound_empty : (empty : Digraph α).Sound where
  tidy := tidy_empty
  rooted first last edge := by
    rw [successors_empty] at edge
    cases edge

theorem Sound.setNode (sound : graph.Sound) (node : String) (label : α) :
    (graph.setNode node label).Sound where
  tidy := sound.tidy.setNode node label
  rooted first last edge :=
    (hasNode_setNode graph node first label).2 (.inl (sound.rooted first last edge))

theorem Sound.addEdge (sound : graph.Sound) (blank : α) (first last : String) :
    (graph.addEdge blank first last).Sound where
  tidy := sound.tidy.addEdge blank first last
  rooted one other edge := by
    rw [hasNode_addEdge]
    rcases (mem_successors_addEdge graph blank first last one other).1 edge with old | ⟨rfl, rfl⟩
    · exact .inl (sound.rooted one other old)
    · exact .inr (.inl rfl)

theorem Sound.adjacent_iff (sound : graph.Sound) :
    graph.Adjacent first last ↔ last ∈ graph.successors first := by
  rw [Digraph.adjacent_iff sound.tidy]
  exact and_iff_right_of_imp (sound.rooted first last)

end Digraph

namespace Reader

variable {sheets : List Sheet}

def WrittenOn (sheets : List Sheet) (reader : Reader) : Prop :=
  ∃ sheet ∈ sheets, sheet.chart = false ∧ sheet.title = reader.sheet ∧
    (sheet.content reader.place).value.formula? = some reader.formula

theorem mem_all_iff (spanned : ∀ sheet ∈ sheets, sheet.Spanned) {reader : Reader} :
    reader ∈ all sheets ↔ reader.WrittenOn sheets := by
  unfold all WrittenOn
  rw [List.mem_flatMap]
  constructor
  · rintro ⟨sheet, listed, inside⟩
    obtain ⟨title, _, written, worksheet⟩ := mem_ofSheet.1 inside
    exact ⟨sheet, listed, worksheet, title.symm, written⟩
  · rintro ⟨sheet, listed, worksheet, title, written⟩
    have inside := Sheet.mem_positions_of_formula (spanned sheet listed) written
    exact ⟨sheet, listed, mem_ofSheet.2 ⟨title.symm, inside, written, worksheet⟩⟩

/-- A formula cell stands before another one: on a sheet before its sheet, or on the same sheet in a
row above or to the left in the same row. -/
def Before (titles : List String) (first second : Reader) : Prop :=
  [first.sheet, second.sheet].Sublist titles ∨ first.sheet = second.sheet ∧
    first.place.Before second.place

theorem ofSheet_ordered (sheet : Sheet) :
    (ofSheet sheet).Pairwise fun first second => first.sheet = second.sheet ∧
      first.place.Before second.place := by
  unfold ofSheet
  rw [List.pairwise_map]
  refine List.Pairwise.sublist sheet.formulaCells_sublist (List.pairwise_filterMap.2 ?_)
  refine sheet.positions_ordered.imp fun {first second} before one found other found' => ?_
  obtain ⟨_, _, rfl⟩ := Option.map_eq_some_iff.1 found
  obtain ⟨_, _, rfl⟩ := Option.map_eq_some_iff.1 found'
  exact ⟨rfl, before⟩

theorem all_ordered (sheets : List Sheet) :
    (all sheets).Pairwise (Before (sheets.map Sheet.title)) := by
  unfold all
  rw [List.pairwise_flatMap]
  constructor
  · intro sheet _
    exact (ofSheet_ordered sheet).imp .inr
  · have inOrder : (sheets.map Sheet.title).Pairwise fun first second =>
        [first, second].Sublist (sheets.map Sheet.title) :=
      List.pairwise_iff_forall_sublist.2 fun earlier => earlier
    refine (List.pairwise_map.1 inOrder).imp fun {first second} earlier one here other there => ?_
    rw [Before, (mem_ofSheet.1 here).1, (mem_ofSheet.1 there).1]
    exact .inl earlier

/-- All formula cells of some sheets, in their order. -/
structure Lists (sheets : List Sheet) (readers : List Reader) : Prop where
  written : ∀ reader, reader ∈ readers ↔ reader.WrittenOn sheets
  ordered : readers.Pairwise (Before (sheets.map Sheet.title))

end Reader

namespace Index

variable {titles : List String} {limit : Int} {sheets : List Sheet}

theorem sound_addReference {index : Index} (sound : index.graph.Sound) (cell : String)
    (area : Area) :
    (addReference titles limit cell index area).graph.Sound := by
  unfold addReference
  dsimp only
  split
  · exact sound
  · exact List.foldlRecOn _ _ sound fun graph sound read _ => sound.addEdge none read cell

theorem sound_addReader {index : Index} (sound : index.graph.Sound) (reader : Reader) :
    (addReader titles limit index reader).graph.Sound := by
  unfold addReader addFormula
  refine List.foldlRecOn (motive := fun index : Index => index.graph.Sound) _ _ (sound.setNode _ _)
    ?_
  intro index sound area _
  exact sound_addReference sound _ area

theorem sound_ofSheets (sheets : List Sheet) : (ofSheets limit sheets).graph.Sound := by
  rw [ofSheets_eq]
  refine List.foldlRecOn (motive := fun index : Index => index.graph.Sound) _ _ Digraph.sound_empty
    ?_
  intro index sound reader _
  exact sound_addReader sound reader

/-- An area on the sheet that its name means: on the sheet with this title in whatever case, and if
there is none on a sheet that is called as it says. -/
inductive Settles (titles : List String) (area : Area) : Area → Prop
  | title {title : String} (listed : title ∈ titles)
      (same : lower title.toList = lower area.sheet.toList) :
      Settles titles area (area.onSheet title)
  | own (unlisted : ∀ title ∈ titles, lower title.toList ≠ lower area.sheet.toList) :
      Settles titles area area

theorem settles_iff (caseless : (titles.map fun title => lower title.toList).Nodup)
    {area other : Area} :
    Settles titles area other ↔ other = settle titles area := by
  have settled : settle titles area = area.onSheet
    ((titleFor? titles area.sheet).getD area.sheet) := rfl
  cases found : titleFor? titles area.sheet with
  | none =>
    have unlisted : ∀ title ∈ titles, lower title.toList ≠ lower area.sheet.toList := by
      intro title listed same
      exact List.find?_eq_none.1 found title (List.mem_reverse.2 listed) (decide_eq_true same)
    rw [settled, found]
    constructor
    · rintro (⟨listed, same⟩ | _)
      · exact absurd same (unlisted _ listed)
      · rfl
    · rintro rfl
      exact .own unlisted
  | some title =>
    have listed : title ∈ titles := List.mem_reverse.1 (List.mem_of_find?_eq_some found)
    have same := lower_of_titleFor? found
    rw [settled, found]
    constructor
    · rintro (⟨listed', same'⟩ | unlisted)
      -- Titles differ in more than their case, so the one that is found last is the only one.
      · rw [List.inj_on_of_nodup_map caseless listed' listed (same'.trans same.symm)]
        rfl
      · exact absurd same (unlisted title listed)
    · rintro rfl
      exact .title listed same

theorem mem_reaches_iff (caseless : (titles.map fun title => lower title.toList).Nodup)
    {node : String} {areas : List Area} :
    reaches titles node (expanded limit areas) = true ↔
      ∃ area ∈ areas, area.cellCount ≤ limit ∧ ∃ settled, Settles titles area settled ∧
        node ∈ settled.addresses := by
  simp only [reaches, expanded, List.any_eq_true, List.mem_filter, decide_eq_true_eq,
    settles_iff caseless, exists_eq_left, and_assoc]

theorem mem_successors_ofSheets (spanned : ∀ sheet ∈ sheets, sheet.Spanned)
    (differ : (sheets.map Sheet.title).Nodup) {first last : String} :
    last ∈ (ofSheets limit sheets).graph.successors first ↔
      ∃ reader : Reader, reader.WrittenOn sheets ∧ reader.address = last ∧
        reaches (sheets.map Sheet.title) first (expanded limit reader.areas) = true := by
  rw [successors_ofSheets differ, List.mem_map]
  refine exists_congr fun reader => ?_
  rw [List.mem_filter, Reader.mem_all_iff spanned, and_assoc, and_comm (b := reader.address = last)]

/-- The index of a workbook holds what its formulas say.  For the address of a formula cell it tells
the areas of the formula, one by one and in order, and for every other address none.  There is an
edge from one address to another if and only if the second is that of a formula cell, with an area
of at most the limit of cells of which one is the first.  The areas of more cells are kept with
their formula cells, in order. -/
theorem ofSheets_exact (spanned : ∀ sheet ∈ sheets, sheet.Spanned)
    (caseless : (sheets.map fun sheet => lower sheet.title.toList).Nodup) (limit : Int) :
    (∀ reader : Reader, reader.WrittenOn sheets →
        (ofSheets limit sheets).precedents reader.address = reader.areas.map fun area =>
          [area.text]) ∧
      (∀ address, (∀ reader : Reader, reader.WrittenOn sheets → reader.address ≠ address) →
        (ofSheets limit sheets).precedents address = []) ∧
      (∀ first last, (ofSheets limit sheets).graph.Adjacent first last ↔
        ∃ reader : Reader, reader.WrittenOn sheets ∧ reader.address = last ∧
          ∃ area ∈ reader.areas, area.cellCount ≤ limit ∧
            ∃ settled, Settles (sheets.map Sheet.title) area settled ∧ first ∈ settled.addresses) ∧
      ∃ readers, Reader.Lists sheets readers ∧
        List.Forall₂ (fun kept reference : _ × _ =>
            Settles (sheets.map Sheet.title) reference.2 kept.1 ∧ kept.2 = reference.1.address)
          (ofSheets limit sheets).wide
          (readers.flatMap fun reader : Reader =>
            (reader.areas.filter fun area => limit < area.cellCount).map fun area =>
              (reader, area)) := by
  have titled : ((sheets.map Sheet.title).map fun title => lower title.toList).Nodup := by
    rwa [List.map_map]
  have differ : (sheets.map Sheet.title).Nodup := titled.of_map _
  -- The index meets the formula cells in the order of `Reader.all`, and the order of what it keeps
  -- is this one.
  refine ⟨?_, ?_, ?_, Reader.all sheets,
    ⟨fun reader => Reader.mem_all_iff spanned, Reader.all_ordered sheets⟩, ?_⟩
  · intro reader written
    exact precedents_ofSheets differ ((Reader.mem_all_iff spanned).2 written)
  · intro address unmet
    exact precedents_ofSheets_of_unmet fun reader listed =>
      unmet reader ((Reader.mem_all_iff spanned).1 listed)
  · intro first last
    rw [(sound_ofSheets sheets).adjacent_iff, mem_successors_ofSheets spanned differ]
    simp only [mem_reaches_iff titled]
  · have listed : (ofSheets limit sheets).wide =
        ((Reader.all sheets).flatMap fun reader : Reader =>
          (reader.areas.filter fun area => limit < area.cellCount).map fun area =>
            (reader, area)).map
            fun reference => (settle (sheets.map Sheet.title) reference.2,
              reference.1.address) := by
      rw [wide_ofSheets, List.map_flatMap]
      simp only [List.map_map, kept, Function.comp_def]
    rw [listed, List.forall₂_map_left_iff, List.forall₂_same]
    exact fun reference _ => ⟨(settles_iff titled).2 rfl, rfl⟩

/-- Formulas that read themselves, each other and a sheet that there is not. -/
def intertwined : List Sheet :=
  [("Data", [⟨⟨0, 0⟩, .text "=OUT!A1:A2+Data!A1", none⟩]),
    ("Out", [⟨⟨0, 0⟩, .text "=data!A1+Gone!B1", none⟩, ⟨⟨0, 1⟩, .text "=A1:B2", none⟩])].map
    fun entry : String × List Entry => Sheet.ofEntries entry.1 entry.2

/-- Cells that formulas lead to before and after their own formulas are met, and an area that is too
wide. -/
theorem ofSheets_exact_intertwined :
    (∀ sheet ∈ intertwined, sheet.Spanned) ∧
      (intertwined.map fun sheet => lower sheet.title.toList).Nodup ∧
      (ofSheets 2 intertwined).precedents "Out!A1" = [["data!A1"], ["Gone!B1"]] ∧
      (ofSheets 2 intertwined).precedents "Gone!B1" = [] ∧
      (ofSheets 2 intertwined).graph.Adjacent "Out!A2" "Data!A1" ∧
      (ofSheets 2 intertwined).graph.Adjacent "Data!A1" "Data!A1" ∧
      ¬ (ofSheets 2 intertwined).graph.Adjacent "Out!B2" "Out!A2" := by
  have spanned : ∀ sheet ∈ intertwined, sheet.Spanned :=
    (wellFormedSheets_ofEntries (by decide) (by decide)).spanned
  have caseless : (intertwined.map fun sheet => lower sheet.title.toList).Nodup := by decide +kernel
  obtain ⟨told, untold, edge, _⟩ := ofSheets_exact spanned caseless 2
  have titled : ((intertwined.map Sheet.title).map fun title => lower title.toList).Nodup := by
    decide +kernel
  simp only [settles_iff titled, exists_eq_left, ← Reader.mem_all_iff spanned] at untold edge
  refine ⟨spanned, caseless, ?_, ?_, ?_, ?_, ?_⟩
  · have written : (⟨"Out", ⟨0, 0⟩, "=data!A1+Gone!B1"⟩ : Reader).WrittenOn intertwined := by
      unfold Reader.WrittenOn
      decide +kernel
    have address : (⟨"Out", ⟨0, 0⟩, "=data!A1+Gone!B1"⟩ : Reader).address = "Out!A1" := by
      decide +kernel
    rw [← address, told _ written]
    decide +kernel
  · exact untold "Gone!B1" (by decide +kernel)
  · exact (edge "Out!A2" "Data!A1").2 (by decide +kernel)
  · exact (edge "Data!A1" "Data!A1").2 (by decide +kernel)
  · exact fun adjacent => absurd ((edge "Out!B2" "Out!A2").1 adjacent) (by decide +kernel)

end Index

end FormulaTrace
