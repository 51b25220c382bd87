import FormulaTrace.Proofs.Formula.Areas
import Mathlib.Data.List.Nodup

/-! The cells of an area, one after another.
The cells of an area are numbered row by row, and the number of a cell, divided by the width of the
area, gives the row and the column.  Cells with different numbers are therefore different, and so
are their addresses, from which a cell can be told. -/
namespace FormulaTrace
open Text

/-- The places of a rectangle, row by row, are those of the numbers up to its size. -/
theorem places_eq_numbered (height width : Nat) :
    ((List.range height).flatMap fun row => (List.range width).map fun col => (col, row)) =
      (List.range (height * width)).map fun number => (number % width, number / width) := by
  induction height with
  | zero => simp
  | succ height ih =>
    have last : (List.range width).map (fun col => (col, height)) =
        (List.range width).map fun col =>
          ((height * width + col) % width, (height * width + col) / width) := by
      apply List.map_congr_left
      intro col inside
      have below := List.mem_range.1 inside
      rw [Nat.mul_comm, Nat.mul_add_mod, Nat.mod_eq_of_lt below,
        Nat.mul_add_div (Nat.zero_lt_of_lt below), Nat.div_eq_of_lt below, Nat.add_zero]
    rw [List.range_succ, List.flatMap_append, ih, Nat.succ_mul, List.range_add, List.map_append,
      List.map_map, List.flatMap_singleton, last]
    rfl

namespace Area

variable {area : Area}

def width (area : Area) : Int := area.right - area.left + 1

def height (area : Area) : Int := area.bottom - area.top + 1

theorem width_pos (area : Area) : 0 < area.width := by
  have := area.left_le_right
  unfold width
  omega

theorem height_pos (area : Area) : 0 < area.height := by
  have := area.top_le_bottom
  unfold height
  omega

theorem exists_size (area : Area) :
    ∃ width height : Nat, area.width = width ∧ area.height = height ∧
      area.cellCount = (height * width : Nat) := by
  obtain ⟨width, across⟩ := Int.eq_ofNat_of_zero_le (Int.le_of_lt area.width_pos)
  obtain ⟨height, down⟩ := Int.eq_ofNat_of_zero_le (Int.le_of_lt area.height_pos)
  refine ⟨width, height, across, down, ?_⟩
  have count : area.cellCount = area.width * area.height := rfl
  rw [count, across, down, Int.mul_comm, Int.natCast_mul]

def placeOf (area : Area) (number : Nat) : Int × Int :=
  (area.left + number % area.width, area.top + number / area.width)

theorem coordinates_eq_numbered (area : Area) :
    area.coordinates = (List.range area.cellCount.toNat).map area.placeOf := by
  obtain ⟨width, height, across, down, count⟩ := area.exists_size
  have cols : intRange area.left area.right = (List.range width).map fun offset : Nat =>
      area.left + (offset : Int) := by
    have size : area.right - area.left + 1 = width := across
    rw [intRange, size, Int.toNat_natCast]
  have rows : intRange area.top area.bottom = (List.range height).map fun offset : Nat =>
      area.top + (offset : Int) := by
    have size : area.bottom - area.top + 1 = height := down
    rw [intRange, size, Int.toNat_natCast]
  -- The rectangle is one that starts at zero, moved to the first corner of the area.
  have moved : area.coordinates =
      ((List.range height).flatMap fun row => (List.range width).map fun col => (col, row)).map
        fun place : Nat × Nat => (area.left + (place.1 : Int), area.top + (place.2 : Int)) := by
    rw [coordinates, cols, rows, List.flatMap_map, List.map_flatMap]
    simp only [List.map_map, Function.comp_def]
  rw [moved, places_eq_numbered, List.map_map, count, Int.toNat_natCast]
  apply List.map_congr_left
  intro number _
  simp only [placeOf, across, Function.comp_apply, Int.natCast_emod, Int.natCast_ediv]

theorem placeOf_injective : Function.Injective area.placeOf := by
  intro first second same
  obtain ⟨col, row⟩ := Prod.mk.inj same
  have whole := Int.emod_add_mul_ediv first area.width
  have other := Int.emod_add_mul_ediv second area.width
  rw [Int.add_left_cancel col, Int.add_left_cancel row, other] at whole
  exact (Int.ofNat.inj whole).symm

theorem coordinates_nodup (area : Area) : area.coordinates.Nodup := by
  rw [coordinates_eq_numbered]
  exact List.nodup_range.map placeOf_injective

theorem exists_place_of_mem (left : 0 ≤ area.left) (top : 0 ≤ area.top) {col row : Int}
    (member : (col, row) ∈ area.coordinates) :
    ∃ place : Position, col = place.col ∧ row = place.row := by
  have bounds := mem_coordinates.1 member
  refine ⟨⟨col.toNat, row.toNat⟩, ?_, ?_⟩
  · exact (Int.toNat_of_nonneg (Int.le_trans left bounds.1)).symm
  · exact (Int.toNat_of_nonneg (Int.le_trans top bounds.2.2.1)).symm

theorem mem_addresses_iff (area : Area) (left : 0 ≤ area.left) (top : 0 ≤ area.top) (title : String)
    (place : Position) :
    qualify title (addressText place.col place.row) ∈ area.addresses ↔
      area.sheet = title ∧ area.left ≤ place.col ∧ place.col ≤ area.right ∧ area.top ≤ place.row ∧
        place.row ≤ area.bottom := by
  constructor
  · intro member
    obtain ⟨⟨col, row⟩, inside, same⟩ := List.mem_map.1 member
    have bounds := mem_coordinates.1 inside
    obtain ⟨spot, rfl, rfl⟩ := exists_place_of_mem left top inside
    obtain ⟨sheets, places⟩ := qualify_injective (isPlace_addressText _ _)
      (isPlace_addressText _ _) same
    obtain rfl := addressText_injective places
    exact ⟨sheets, bounds⟩
  · rintro ⟨rfl, inside⟩
    exact List.mem_map.2 ⟨(place.col, place.row), mem_coordinates.2 inside, rfl⟩

theorem addresses_nodup (left : 0 ≤ area.left) (top : 0 ≤ area.top) : area.addresses.Nodup := by
  apply List.Nodup.map_on _ area.coordinates_nodup
  rintro ⟨col, row⟩ one ⟨col', row'⟩ other same
  obtain ⟨first, rfl, rfl⟩ := exists_place_of_mem left top one
  obtain ⟨second, rfl, rfl⟩ := exists_place_of_mem left top other
  obtain ⟨_, places⟩ := qualify_injective (isPlace_addressText _ _) (isPlace_addressText _ _) same
  rw [addressText_injective places]

theorem InGrid.namedAddresses_eq (inside : area.InGrid) :
    area.namedAddresses = .ok area.addresses := by
  apply Except.mapM_ok
  rintro ⟨col, row⟩ member
  have bounds := mem_coordinates.1 member
  obtain ⟨place, rfl, rfl⟩ := exists_place_of_mem inside.left inside.top member
  have right := inside.right
  have named : place.col < lastNamedColumn := by
    simp only [maxColumns] at right
    simp only [lastNamedColumn]
    omega
  dsimp only
  rw [namedAddress_of_le place.row named]
  rfl

/-- All cells of an area in the grid have addresses.  These are as many as the cells of the area and
differ from each other, they go from the first corner along the rows, and the address of a cell of
the sheet is among them if and only if the area holds the cell. -/
theorem addresses_row_by_row (inside : area.InGrid) :
    area.namedAddresses = .ok area.addresses ∧
      (area.addresses.length : Int) = area.cellCount ∧
      area.addresses.Nodup ∧
      (∀ number : Nat, number < area.cellCount →
        area.addresses[number]? =
          some (qualify area.sheet (addressText (area.left + number % area.width)
            (area.top + number / area.width)))) ∧
      ∀ col row : Nat,
        qualify area.sheet (addressText col row) ∈ area.addresses ↔
          area.contains ⟨area.sheet, col, row⟩ = true := by
  have numbered : area.addresses = (List.range area.cellCount.toNat).map fun number =>
      qualify area.sheet (addressText (area.placeOf number).1 (area.placeOf number).2) := by
    rw [addresses, coordinates_eq_numbered, List.map_map]
    rfl
  refine ⟨inside.namedAddresses_eq, ?_, addresses_nodup inside.left inside.top, ?_, ?_⟩
  · obtain ⟨width, height, _, _, count⟩ := area.exists_size
    rw [numbered, List.length_map, List.length_range, count, Int.toNat_natCast]
  · intro number below
    have listed : number < area.cellCount.toNat := by omega
    rw [numbered, List.getElem?_map, List.getElem?_range listed]
    rfl
  · intro col row
    have listed := area.mem_addresses_iff inside.left inside.top area.sheet ⟨col, row⟩
    rw [listed, contains, Bool.and_eq_true, decide_eq_true_eq, decide_eq_true_eq]
    exact ⟨fun ⟨_, holds⟩ => ⟨rfl, holds⟩, fun ⟨_, holds⟩ => ⟨rfl, holds⟩⟩

/-- The last four cells of a sheet, and the cell beside them. -/
theorem addresses_row_by_row_last :
    (ofCorners "It's" 16383 1048575 16382 1048574).InGrid ∧
      (ofCorners "It's" 16383 1048575 16382 1048574).addresses.length = 4 ∧
      (ofCorners "It's" 16383 1048575 16382 1048574).addresses[2]? = some "'It''s'!XFC1048576" ∧
      "'It''s'!XFD1048575" ∈ (ofCorners "It's" 16383 1048575 16382 1048574).addresses ∧
      "'It''s'!XFE1048575" ∉ (ofCorners "It's" 16383 1048575 16382 1048574).addresses := by
  have inside : (ofCorners "It's" 16383 1048575 16382 1048574).InGrid := by decide
  obtain ⟨_, count, _, numbered, held⟩ := addresses_row_by_row inside
  have text (col row : Nat) (text : String) (same : qualify "It's" (addressText col row) = text) :
      text ∈ (ofCorners "It's" 16383 1048575 16382 1048574).addresses ↔
        (ofCorners "It's" 16383 1048575 16382 1048574).contains ⟨"It's", col, row⟩ = true :=
          same ▸ held col row
  refine ⟨inside, Int.ofNat.inj count, ?_, ?_, ?_⟩
  · exact (numbered 2 (by decide)).trans (by decide +kernel)
  · exact (text 16383 1048574 _ (by decide +kernel)).2 (by decide +kernel)
  · exact fun member => absurd ((text 16384 1048574 _ (by decide +kernel)).1 member)
      (by decide +kernel)

end Area

end FormulaTrace
