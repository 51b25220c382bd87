import FormulaTrace.Proofs.Formula.Areas

/-! The references of a formula, made with every check on the way. Reading a token may fail, and
then the mention is left out.  Making an area and naming its first cell may fail as well, and
nothing would catch that; but a token that was read lies within the grid, and so no text whatever
makes them fail. -/
namespace FormulaTrace.Formula
open Text

/-- A reference: an area, and its first cell without and with the sheet. -/
structure Reference where
  sheet : String
  area : Area
  anchor : String
  anchorAddress : String

namespace Reference

def key (reference : Reference) : String × Int × Int × Int × Int :=
  (sheetKey reference.sheet, reference.area.left, reference.area.top, reference.area.right,
    reference.area.bottom)

/-- The parts of a reference fit together, and all of it lies within the grid. -/
structure WellFormed (reference : Reference) : Prop where
  sheet : reference.area.sheet = reference.sheet
  across : 0 ≤ reference.area.left ∧ reference.area.left ≤ reference.area.right ∧
    reference.area.right < maxColumns
  down : 0 ≤ reference.area.top ∧ reference.area.top ≤ reference.area.bottom ∧
    reference.area.bottom < maxRows
  anchor : namedAddress reference.area.left reference.area.top = .ok reference.anchor
  readBack : Position.read reference.anchor = .ok
    ⟨reference.area.left.toNat, reference.area.top.toNat⟩
  anchorAddress : reference.anchorAddress = qualify reference.sheet reference.anchor

end Reference

def Mention.corners (mention : Mention) : Except AddressError (Position × Position) := do
  let first ← mention.start.position ""
  let second ← (mention.stop.getD mention.start).position ""
  return (first, second)

/-- The references of mentions of which none has a key that was seen.  A mention of another workbook
or one whose corners cannot be read is left out. -/
def extractAfter (owner : String) (seen : List (String × Int × Int × Int × Int)) :
    List Mention → Except AddressError (List Reference)
  | [] => return []
  | mention :: rest =>
    match mention.qualifier.sheet? owner, mention.corners with
    | some sheet, .ok (first, second) => do
      let area ← Area.ofOrderedCorners sheet (min first.col second.col) (min first.row second.row)
        (max first.col second.col) (max first.row second.row)
      if referenceKey area ∈ seen then extractAfter owner seen rest
      else
        let anchor ← namedAddress area.left area.top
        let others ← extractAfter owner (referenceKey area :: seen) rest
        return ⟨sheet, area, anchor, qualify sheet anchor⟩ :: others
    | _, _ => extractAfter owner seen rest

def extract (formula owner : String) : Except AddressError (List Reference) :=
  extractAfter owner [] (occurrences mention (emptyLiterals formula.toList))

def reported (area : Area) : Reference := ⟨area.sheet, area, area.anchor, area.anchorAddress⟩

theorem ofOrderedCorners_corners (sheet : String) (colA rowA colB rowB : Int) :
    Area.ofOrderedCorners sheet (min colA colB) (min rowA rowB) (max colA colB) (max rowA rowB) =
      .ok (.ofCorners sheet colA rowA colB rowB) := by
  have ordered : min colA colB ≤ max colA colB ∧ min rowA rowB ≤ max rowA rowB := by omega
  rw [Area.ofOrderedCorners, dif_pos ordered]
  rfl

theorem namedAddress_anchor {area : Area} (inside : area.InGrid) :
    namedAddress area.left area.top = .ok area.anchor := by
  have across := area.left_le_right
  obtain ⟨left, right, _, _⟩ := inside
  have named : 1 ≤ area.left + 1 ∧ area.left + 1 ≤ lastNamedColumn := by
    simp only [maxColumns, lastNamedColumn] at *
    omega
  rw [namedAddress, if_pos named]
  rfl

theorem Mention.area?_eq_corners (mention : Mention) (owner : String) :
    mention.area? owner = match mention.qualifier.sheet? owner, mention.corners with
      | some sheet, .ok (first, second) =>
          some (.ofCorners sheet first.col first.row second.col second.row)
      | _, _ => none := by
  unfold Mention.area? Mention.corners
  cases mention.qualifier.sheet? owner with
  | none => rfl
  | some sheet =>
    cases mention.start.position "" with
    | error _ => rfl
    | ok first => cases (mention.stop.getD mention.start).position "" <;> rfl

theorem extractAfter_cons_of_area {owner : String} {mention : Mention} {area : Area}
    (read : mention.area? owner = some area) (seen : List (String × Int × Int × Int × Int))
    (rest : List Mention) :
    extractAfter owner seen (mention :: rest) =
      if referenceKey area ∈ seen then extractAfter owner seen rest
      else (extractAfter owner (referenceKey area :: seen) rest).map (reported area :: ·) := by
  have anchor := namedAddress_anchor (inGrid_of_area? read)
  rw [mention.area?_eq_corners] at read
  rw [extractAfter]
  split at read
  next sheet first second _ _ =>
    cases read
    rw [ofOrderedCorners_corners]
    refine if_congr Iff.rfl rfl ?_
    rw [anchor]
    cases extractAfter owner (referenceKey
      (.ofCorners sheet first.col first.row second.col second.row) :: seen) rest <;> rfl
  next => cases read

theorem extractAfter_cons_of_none {owner : String} {mention : Mention}
    (read : mention.area? owner = none) (seen : List (String × Int × Int × Int × Int))
    (rest : List Mention) :
    extractAfter owner seen (mention :: rest) = extractAfter owner seen rest := by
  rw [mention.area?_eq_corners] at read
  rw [extractAfter]
  split at read
  next => cases read
  next => rfl

/-- No check fails, and what comes out are the areas of the mentions, each once. -/
theorem extractAfter_eq (owner : String) (seen : List (String × Int × Int × Int × Int))
    (mentions : List Mention) :
    extractAfter owner seen mentions =
      .ok ((firstsAfter referenceKey seen (mentions.filterMap fun found => found.area? owner)).map
        reported) := by
  induction mentions generalizing seen with
  | nil => rfl
  | cons mention rest ih =>
    rw [List.filterMap_cons]
    cases read : mention.area? owner with
    | none => rw [extractAfter_cons_of_none read, ih]
    | some area =>
      rw [extractAfter_cons_of_area read, ih, ih, firstsAfter]
      split <;> rfl

theorem reported_wellFormed {area : Area} (inside : area.InGrid) : (reported area).WellFormed where
  sheet := rfl
  across := ⟨inside.left, area.left_le_right, inside.right⟩
  down := ⟨inside.top, area.top_le_bottom, inside.bottom⟩
  anchor := namedAddress_anchor inside
  readBack := by
    have across := area.left_le_right
    have down := area.top_le_bottom
    obtain ⟨left, right, top, bottom⟩ := inside
    have first : Position.InGrid ⟨area.left.toNat, area.top.toNat⟩ := by
      constructor <;> dsimp only <;> omega
    have read := Position.read_addressText first
    rwa [Int.toNat_of_nonneg left, Int.toNat_of_nonneg top] at read
  anchorAddress := rfl

/-- The references of any text can be made.  Their areas are the references of the formula, each is
well-formed, and no two are the same. -/
theorem extract_wellFormed (formula owner : String) :
    ∃ found, extract formula owner = .ok found ∧
      found.map Reference.area = references formula owner ∧
      (∀ reference ∈ found, reference.WellFormed) ∧ (found.map Reference.key).Nodup := by
  refine ⟨(references formula owner).map reported, extractAfter_eq owner [] _, ?_, ?_, ?_⟩
  · rw [List.map_map]
    exact List.map_id _
  · intro reference member
    obtain ⟨area, listed, rfl⟩ := List.mem_map.1 member
    exact reported_wellFormed (inGrid_of_mem_references listed)
  · rw [List.map_map]
    exact firstsAfter_keys_nodup referenceKey [] _

end FormulaTrace.Formula
