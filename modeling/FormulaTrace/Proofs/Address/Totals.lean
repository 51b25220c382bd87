import FormulaTrace.Proofs.Address.Joined
import Mathlib.Algebra.Ring.Int.Defs

/-! Areas joined by commas, parted again and counted.
A comma parts two areas wherever it does not stand in a quoted name, and a quoted name ends where
its spelling does: the mark that closes it is followed by an exclamation mark, so that it cannot be
taken for one of two marks that are one. Reading thus passes over an area as a whole, and the
induction is on the areas that are left. -/
namespace FormulaTrace
open Text

namespace Area

variable {area first : Area} {rest areas : List Area}

theorem InGrid.endsInk_text (inside : area.InGrid) : EndsInk area.text.toList := by
  rw [text_eq]
  exact endsInk_qualify area.sheet inside.isPlace

theorem partAtCommas_joined (inside : ∀ area ∈ first :: rest, area.InGrid) (before : Option Char) :
    partAtCommas (Piece.scan quotedName 0 before (first.text.toList ++ behind rest)) =
      (first :: rest).map fun area => area.text.toList := by
  induction rest generalizing first before with
  | nil =>
    obtain ⟨parts, last, read, comma, spelled⟩ :=
      scan_qualify first.sheet (inside first List.mem_cons_self).isPlace before []
    rw [← text_eq] at read spelled
    rw [behind, List.flatMap_nil, read, Piece.scan, List.append_nil, partAtCommas_solid comma,
      spelled]
    rfl
  | cons next more ih =>
    obtain ⟨here, others⟩ := List.forall_mem_cons.1 inside
    obtain ⟨parts, last, read, comma, spelled⟩ :=
      scan_qualify first.sheet here.isPlace before (behind (next :: more))
    have apart : behind (next :: more) = ',' :: (next.text.toList ++ behind more) := by
      simp [behind]
    have parting : quotedName last (',' :: (next.text.toList ++ behind more)) = none := rfl
    rw [← text_eq] at read spelled
    rw [read, apart, Piece.scan_plain parting, partAtCommas_solid_append comma, spelled, ih others]
    rfl

theorem areaTexts_joined (inside : ∀ area ∈ areas, area.InGrid) :
    areaTexts (joined areas) = areas.map text := by
  cases areas with
  | nil => decide
  | cons first rest =>
    have parts := partAtCommas_joined inside none
    have trimmed : ((first :: rest).map fun area => area.text.toList).map trim =
        (first :: rest).map fun area => area.text.toList := by
      rw [List.map_map]
      exact List.map_congr_left fun area among => trim_eq_self (inside area among).endsInk_text
    have filled : ((first :: rest).map fun area => area.text.toList).filter (· ≠ []) =
        (first :: rest).map fun area => area.text.toList := by
      rw [List.filter_eq_self]
      intro text among
      obtain ⟨area, -, rfl⟩ := List.mem_map.1 among
      simp [text_toList]
    unfold areaTexts pieces
    rw [joined_cons, parts, trimmed, filled, List.map_map]
    exact List.map_congr_left fun area _ => String.ofList_toList

/-- An area is read back from its text; its sheet is, but for a line break behind a bare name. -/
theorem InGrid.read?_text (inside : area.InGrid) (named : area.sheet ≠ "") (home : String) :
    Area.read? area.text home = some (area.onSheet (readSheet area.sheet)) := by
  obtain ⟨⟨left, top⟩, right, bottom⟩ := inside.corners
  obtain ⟨one, other⟩ := inside.positions
  rw [← ofCorners_ordered, left, top, right, bottom, text_eq]
  by_cases single : area.isSingle = true
  · obtain ⟨across, down⟩ := isSingle_iff.1 single
    have same : area.lastPosition = area.firstPosition := by
      simp only [lastPosition, firstPosition, across, down]
    have place : area.place = addressText area.firstPosition.col area.firstPosition.row := by
      rw [Area.place, if_pos single, anchor, left, top]
    rw [place, same, area_read?_address named one]
  · have place : area.place = addressText area.firstPosition.col area.firstPosition.row ++ ":" ++
        addressText area.lastPosition.col area.lastPosition.row := by
      rw [Area.place, if_neg single, anchor, left, top, right, bottom]
    rw [place, area_read?_corners named one other]

theorem cellTotal_eq_sum (address home : String) :
    cellTotal address home =
      ((areaTexts address).map fun text => ((Area.read? text home).map cellCount).getD 0).sum := by
  rw [List.sum_eq_foldl, List.foldl_map]
  rfl

/-- Areas on sheets with any names, joined by commas, are parted into the same texts in the same
order, and whatever the home sheet they have together as many cells as each of them. -/
theorem joined_parted_and_counted (legal : ∀ area ∈ areas, area.sheet ≠ "" ∧ area.InGrid) :
    areaTexts (joined areas) = areas.map text ∧
      ∀ home, cellTotal (joined areas) home = (areas.map cellCount).sum := by
  have parted := areaTexts_joined fun area among => (legal area among).2
  refine ⟨parted, fun home => ?_⟩
  rw [cellTotal_eq_sum, parted, List.map_map]
  refine congrArg List.sum (List.map_congr_left fun area among => ?_)
  obtain ⟨named, inside⟩ := legal area among
  simp [inside.read?_text named, onSheet, cellCount]

/-- Names with commas, quotes and exclamation marks, one of nothing but a quote, and one with a line
break at its end. -/
theorem joined_parted_and_counted_crowded :
    areaTexts "'It''s, A1!'!B2:C4,''''!A1,Data\n!A1:A3" =
      ["'It''s, A1!'!B2:C4", "''''!A1", "Data\n!A1:A3"] ∧
      cellTotal "'It''s, A1!'!B2:C4,''''!A1,Data\n!A1:A3" "Home" = 10 := by
  have text : joined [ofCorners "It's, A1!" 1 1 2 3, ofCorners "'" 0 0 0 0,
    ofCorners "Data\n" 0 0 0 2] = "'It''s, A1!'!B2:C4,''''!A1,Data\n!A1:A3" := by
    decide +kernel
  have legal :
    ∀ area ∈ [ofCorners "It's, A1!" 1 1 2 3, ofCorners "'" 0 0 0 0, ofCorners "Data\n" 0 0 0 2],
      area.sheet ≠ "" ∧ area.InGrid := by
    decide +kernel
  obtain ⟨parted, counted⟩ := joined_parted_and_counted legal
  rw [text] at parted counted
  constructor
  · rw [parted]
    decide +kernel
  · rw [counted]
    decide +kernel

end Area

end FormulaTrace
