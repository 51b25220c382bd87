import FormulaTrace.Proofs.Address.Qualified

/-! What is known of every area that a formula refers to.
The areas of a formula lie on named sheets and within the grid, so that their texts can be read
back. -/
namespace FormulaTrace
open Text

theorem Text.Piece.mem_scan {α : Type} {rule : Rule α} {value : α} {skip : Nat}
    {before : Option Char} {text : List Char}
    (member : Piece.found value ∈ Piece.scan rule skip before text) :
    ∃ front rest after, rule front rest = some (value, after) := by
  fun_induction Piece.scan rule skip before text with
  | case1 => cases member
  | case2 _ _ _ _ ih => exact ih member
  | case3 before c rest found after read ih =>
    rcases List.mem_cons.1 member with same | later
    · cases same
      exact ⟨before, c :: rest, after, read⟩
    · exact ih later
  | case4 _ _ _ _ ih =>
    rcases List.mem_cons.1 member with same | later
    · cases same
    · exact ih later

theorem Text.exists_rule_of_mem_occurrences {α : Type} {rule : Rule α} {text : List Char}
    {value : α} (member : value ∈ occurrences rule text) :
    ∃ front rest after, rule front rest = some (value, after) := by
  obtain ⟨piece, inside, same⟩ := List.mem_filterMap.1 member
  cases piece with
  | plain c => cases same
  | found other =>
    cases same
    exact Piece.mem_scan inside

namespace Area

/-- An area on a named sheet that starts in the grid. -/
structure Placed (area : Area) : Prop where
  named : area.sheet ≠ ""
  left : 0 ≤ area.left
  top : 0 ≤ area.top

/-- All cells of an area lie within the grid. -/
structure InGrid (area : Area) : Prop where
  left : 0 ≤ area.left
  right : area.right < maxColumns
  top : 0 ≤ area.top
  bottom : area.bottom < maxRows

instance (area : Area) : Decidable area.InGrid :=
  decidable_of_iff (0 ≤ area.left ∧ area.right < maxColumns ∧ 0 ≤ area.top ∧ area.bottom < maxRows)
    ⟨fun ⟨left, right, top, bottom⟩ => ⟨left, right, top, bottom⟩, fun h =>
      ⟨h.left, h.right, h.top, h.bottom⟩⟩

theorem inGrid_ofCorners (sheet : String) {first second : Position} (start : first.InGrid)
    (stop : second.InGrid) :
    (ofCorners sheet first.col first.row second.col second.row).InGrid := by
  obtain ⟨firstCol, firstRow⟩ := start
  obtain ⟨secondCol, secondRow⟩ := stop
  constructor <;> simp only [ofCorners] <;> omega

theorem Placed.corners {area : Area} (placed : area.Placed) :
    ∃ left top right bottom : Nat,
      area.left = left ∧ area.top = top ∧ area.right = right ∧ area.bottom = bottom := by
  have across := area.left_le_right
  have down := area.top_le_bottom
  have left := placed.left
  have top := placed.top
  exact ⟨area.left.toNat, area.top.toNat, area.right.toNat, area.bottom.toNat,
    by omega, by omega, by omega, by omega⟩

/-- The text of an area and the address of its first cell stand for the same cell. -/
theorem canonical?_text {area : Area} (placed : area.Placed) (home : String) :
    canonical? area.text home = canonical? area.anchorAddress home := by
  obtain ⟨left, top, right, bottom, hl, ht, hr, hb⟩ := placed.corners
  unfold canonical? text anchorAddress anchor
  split
  · rfl
  · rw [hl, ht, hr, hb, read?_corners placed.named]

end Area

namespace Formula

theorem readBareName_ne_nil {text name after : List Char}
    (read : readBareName text = some (name, after)) :
    name ≠ [] := by
  unfold readBareName at read
  split at read
  · cases read
  · split at read
    · cases read
      exact List.cons_ne_nil _ _
    · cases read

theorem readQualifier_named {text after : List Char} {name : String}
    (read : readQualifier text = some (.sheet name, after)) : name ≠ "" := by
  have filled {letters : List Char} (h : letters ≠ []) : String.ofList letters ≠ "" := fun empty =>
    h (by simpa using congrArg String.toList empty)
  unfold readQualifier at read
  split at read
  · split at read
    next body rest quoted =>
      split at read
      · cases read
      next nonempty =>
        split at read
        · cases read
        · cases read
          exact filled nonempty
    next => cases read
  · split at read
    · split at read
      · cases read
      · split at read <;> cases read
    · cases read
  · split at read
    next bare =>
      cases read
      exact filled (readBareName_ne_nil bare)
    next => cases read

theorem mention_named {before : Option Char} {text after : List Char} {found : Mention}
    {name : String} (read : mention before text = some (found, after))
    (qualified : found.qualifier = .sheet name) :
    name ≠ "" := by
  unfold mention at read
  split at read
  · split at read
    next qualifier place qualifies =>
      have same : found.qualifier = qualifier := by
        split at read
        · split at read
          · cases read
            rfl
          · split at read
            · cases read
              rfl
            · cases read
        · cases read
      rw [← same, qualified] at qualifies
      exact readQualifier_named qualifies
    next => cases read
  · cases read

theorem sheet?_named {owner sheet : String} (named : owner ≠ "") {found : Mention}
    (qualified : ∀ name, found.qualifier = .sheet name → name ≠ "")
    (chosen : found.qualifier.sheet? owner = some sheet) : sheet ≠ "" := by
  cases kind : found.qualifier with
  | home =>
    rw [kind] at chosen
    cases chosen
    exact named
  | sheet name =>
    rw [kind] at chosen
    cases chosen
    exact qualified _ kind
  | external =>
    rw [kind] at chosen
    cases chosen

theorem inGrid_of_area? {owner : String} {found : Mention} {area : Area}
    (read : found.area? owner = some area) :
    area.InGrid := by
  unfold Mention.area? at read
  obtain ⟨sheet, _, read⟩ := Option.bind_eq_some_iff.1 read
  obtain ⟨first, one, read⟩ := Option.bind_eq_some_iff.1 read
  obtain ⟨second, other, read⟩ := Option.bind_eq_some_iff.1 read
  cases read
  have start : first.InGrid := CellToken.inGrid_of_toOption one
  have stop : second.InGrid := CellToken.inGrid_of_toOption other
  exact Area.inGrid_ofCorners sheet start stop

theorem inGrid_of_mem_references {formula owner : String} {area : Area}
    (member : area ∈ references formula owner) :
    area.InGrid := by
  have listed := (firstsAfter_sublist referenceKey [] _).mem member
  obtain ⟨found, _, read⟩ := List.mem_filterMap.1 listed
  exact inGrid_of_area? read

theorem placed_of_area? {owner : String} (named : owner ≠ "") {found : Mention}
    (qualified : ∀ name, found.qualifier = .sheet name → name ≠ "") {area : Area}
    (read : found.area? owner = some area) : area.Placed := by
  obtain ⟨left, _, top, _⟩ := inGrid_of_area? read
  unfold Mention.area? at read
  obtain ⟨sheet, chosen, read⟩ := Option.bind_eq_some_iff.1 read
  obtain ⟨first, _, read⟩ := Option.bind_eq_some_iff.1 read
  obtain ⟨second, _, read⟩ := Option.bind_eq_some_iff.1 read
  cases read
  exact ⟨sheet?_named named qualified chosen, left, top⟩

theorem placed_of_mem_references {formula owner : String} (named : owner ≠ "") {area : Area}
    (member : area ∈ references formula owner) : area.Placed := by
  have listed := (firstsAfter_sublist referenceKey [] _).mem member
  obtain ⟨found, occurs, read⟩ := List.mem_filterMap.1 listed
  obtain ⟨before, text, after, rule⟩ := exists_rule_of_mem_occurrences occurs
  exact placed_of_area? named (fun name qualified => mention_named rule qualified) read

end Formula

end FormulaTrace
