import FormulaTrace.Proofs.Address.Qualified
import FormulaTrace.Proofs.Workbook.Answers

/-! The cells that open workbooks tell about.
A cell is known by the title of its sheet and its position in the grid, and the address that is told
for it leads back to it. -/
namespace FormulaTrace
open Text

theorem Cell.inGrid_of_read? {address home : String} {cell : Cell}
    (read : Cell.read? address home = some cell) :
    Position.InGrid ⟨cell.col, cell.row⟩ := by
  unfold Cell.read? at read
  dsimp only at read
  split at read
  · cases read
  · obtain ⟨first, _, read⟩ := Option.bind_eq_some_iff.1 read
    obtain ⟨place, found, read⟩ := Option.bind_eq_some_iff.1 read
    cases read
    exact Position.inGrid_of_read (Except.toOption_eq_some found)

theorem titleFor?_congr (titles : List String) {name other : String}
    (same : lower name.toList = lower other.toList) :
    titleFor? titles name = titleFor? titles other := by
  unfold titleFor?
  rw [same]

theorem lower_of_titleFor? {titles : List String} {name title : String}
    (found : titleFor? titles name = some title) : lower title.toList = lower name.toList := by
  have same := List.find?_some found
  exact of_decide_eq_true same

namespace OpenWorkbook

variable {sheets : List Sheet} {values : Option (List Sheet)} {α : Type}

/-- What is told about a cell of a sheet. -/
structure Tells (sheets : List Sheet) (sheet : Sheet) (place : Position) (snapshot : Snapshot) :
    Prop where
  listed : sheet ∈ sheets
  worksheet : sheet.chart = false
  inside : place.InGrid
  ends : EndsInk sheet.title.toList
  meant : titleFor? (sheets.map Sheet.title) sheet.title = some sheet.title
  address : snapshot.address = qualify sheet.title (addressText place.col place.row)
  formula : snapshot.formula = (sheet.face.peek place).bind fun content => content.value.formula?

theorem exists_sheet_of_look {title : String} {view : Sheet.Face → α} {value : α}
    (found : look sheets title view = .ok value) :
    ∃ sheet ∈ sheets, sheet.title = title ∧ sheet.chart = false ∧ value = view sheet.face := by
  unfold look at found
  split at found
  next face first =>
    obtain ⟨sheet, member, rfl⟩ := List.mem_map.1 (List.mem_of_find?_eq_some first)
    have titled := List.find?_some first
    obtain ⟨worksheet, same⟩ := Sheet.answer_eq_ok.1 found
    exact ⟨sheet, member, of_decide_eq_true titled, worksheet, same.symm⟩
  next => cases found

theorem titleIn_some {name title : String} (found : titleIn sheets (some name) = .ok title) :
    titleFor? (sheets.map Sheet.title) (String.ofList (trim name.toList)) = some title := by
  unfold titleIn findTitle at found
  split at found
  next meant =>
    cases found
    exact meant
  next => cases found

theorem facts_of_titleIn {name title : String} (found : titleIn sheets (some name) = .ok title) :
    EndsInk title.toList ∧ titleFor? (sheets.map Sheet.title) title = some title := by
  have meant := titleIn_some found
  have same := lower_of_titleFor? meant
  refine ⟨?_, (titleFor?_congr _ same).trans meant⟩
  rw [String.toList_ofList] at same
  exact endsInk_of_lower_eq same (endsInk_trim _)

theorem sheetKey_of_titleIn {name title : String} (found : titleIn sheets (some name) = .ok title) :
    sheetKey title = sheetKey name := by
  have same := lower_of_titleFor? (titleIn_some found)
  unfold sheetKey
  rw [trim_eq_self (facts_of_titleIn found).1, same, String.toList_ofList]

theorem titleIn_self {title : String} (ends : EndsInk title.toList)
    (meant : titleFor? (sheets.map Sheet.title) title = some title) :
    titleIn sheets (some title) = .ok title := by
  have titles : (⟨sheets, none, none⟩ : OpenWorkbook).titles = sheets.map Sheet.title := rfl
  unfold titleIn findTitle
  rw [titles, Option.getD_some, trim_eq_self ends, String.ofList_toList, meant]

theorem titleIn_getD {name : Option String} {title : String}
    (found : titleIn sheets name = .ok title) :
    titleIn sheets (some (name.getD "")) = .ok title := by
  unfold titleIn findTitle at found ⊢
  rw [Option.getD_some]
  split at found
  next =>
    cases found
    rfl
  next => cases found

theorem locate_eq_ok {address title : String} {cell : Cell}
    (found : locate address title = .ok cell) :
    Cell.read? address title = some cell := by
  unfold locate at found
  split at found
  next read =>
    cases found
    exact read
  next => cases found

theorem exists_tells {address : String} {snapshot : Snapshot}
    (told : cellAnswer sheets values address = .ok snapshot) :
    ∃ sheet place, Tells sheets sheet place snapshot := by
  unfold cellAnswer at told
  split at told
  · cases told
  next name named =>
    obtain ⟨title, resolved, told⟩ := Except.bind_eq_ok told
    obtain ⟨cell, located, told⟩ := Except.bind_eq_ok told
    obtain ⟨content, looked, told⟩ := Except.bind_eq_ok told
    obtain ⟨value, _, told⟩ := Except.bind_eq_ok told
    cases told
    obtain ⟨sheet, listed, rfl, worksheet, rfl⟩ := exists_sheet_of_look looked
    obtain ⟨ends, meant⟩ := facts_of_titleIn resolved
    exact ⟨sheet, ⟨cell.col, cell.row⟩, listed, worksheet,
      Cell.inGrid_of_read? (locate_eq_ok located), ends, meant, rfl, rfl⟩

/-- The address that is told for a cell is the one by which the sheets know it. -/
theorem readCell_settled {index : Option Index} {workbook after : OpenWorkbook} {address : String}
    {snapshot : Snapshot} (shows : Shows sheets values index workbook)
    (given : (readCell address).Gives workbook snapshot after) :
    settled sheets address = .ok snapshot.address := by
  have told := ((readCell_answers address).gives shows given).1
  unfold cellAnswer at told
  unfold settled
  split at told
  · cases told
  next name named =>
    obtain ⟨title, resolved, told⟩ := Except.bind_eq_ok told
    obtain ⟨cell, located, told⟩ := Except.bind_eq_ok told
    obtain ⟨content, _, told⟩ := Except.bind_eq_ok told
    obtain ⟨value, _, told⟩ := Except.bind_eq_ok told
    cases told
    rw [named, resolved]
    dsimp only [bind, Except.bind]
    rw [located]
    rfl

theorem settled_own {title : String} (named : title ≠ "")
    (own : titleIn sheets (some title) = .ok title) {place : Position} (inside : place.InGrid) :
    settled sheets (qualify title (addressText place.col place.row)) =
      .ok (qualify title (addressText place.col place.row)) := by
  have ends := (facts_of_titleIn own).1
  have located : locate (qualify title (addressText place.col place.row)) title = .ok
      ⟨title, place.col, place.row⟩ := by
    unfold locate
    rw [read?_address named ends inside]
  unfold settled
  rw [separate_qualify named (isPlace_addressText _ _), readSheet_eq ends, own]
  dsimp only [bind, Except.bind]
  rw [located]
  rfl

namespace Tells

variable {sheet : Sheet} {place : Position} {snapshot : Snapshot}
  (tells : Tells sheets sheet place snapshot) (named : sheet.title ≠ "")
include tells named

theorem separate_address :
    separate snapshot.address = (some sheet.title, addressText place.col place.row) := by
  rw [tells.address, separate_qualify named (isPlace_addressText _ _), readSheet_eq tells.ends]

theorem read?_address (home : String) :
    Cell.read? snapshot.address home = some ⟨sheet.title, place.col, place.row⟩ := by
  rw [tells.address]
  exact FormulaTrace.read?_address named tells.ends tells.inside home

theorem settled_address : settled sheets snapshot.address = .ok snapshot.address := by
  rw [tells.address]
  exact settled_own named (titleIn_self tells.ends tells.meant) tells.inside

end Tells

end OpenWorkbook

end FormulaTrace
