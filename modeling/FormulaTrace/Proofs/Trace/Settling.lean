import FormulaTrace.Proofs.Trace.Beside
import FormulaTrace.Proofs.Trace.Stops
import FormulaTrace.Proofs.Workbook.Coverage

/-! Walks through open workbooks, with an index or without one.
Whatever a walk asks, the workbook shows the same sheets afterwards, and the candidates that the
walk remembers are in cells of these sheets.  A node with children is one at which the walk found
out about the cells below it; the children are the cells that it asked for, under the addresses by
which the workbook knows them. -/
namespace FormulaTrace
open Text OpenWorkbook

theorem exists_left_of_mem {α β : Type} {each : α → β → Prop} {items : List α} {values : List β}
    (related : List.Forall₂ each items values) {value : β} (member : value ∈ values) :
    ∃ item ∈ items, each item value := by
  have flipped : List.Forall₂ (fun value item => each item value) values items := related.flip
  obtain ⟨item, zipped, known⟩ := exists_mem_zip flipped member
  exact ⟨item, (List.of_mem_zip zipped).2, known⟩

theorem Finding.followed_subset (limits : Limits) (finding : Finding) :
    finding.followed limits ⊆ finding.addresses := by
  cases finding with
  | parsed areas =>
    apply List.map_subset
    unfold Walk.upTo
    split <;> exact List.take_subset _ _
  | _ => exact List.Subset.refl _

namespace Snapshot

variable {snapshot : Snapshot} {addresses : List String} {address : String}

theorem mem_distinct :
    address ∈ snapshot.distinct addresses ↔
      ∃ raw ∈ addresses, canonical? raw snapshot.home = some address := by
  rw [distinct, mem_firstsBy_id, List.mem_filterMap]

theorem distinct_nodup (snapshot : Snapshot) (addresses : List String) :
    (snapshot.distinct addresses).Nodup := by
  have differ := firstsAfter_keys_nodup id []
    (addresses.filterMap fun address => canonical? address snapshot.home)
  rwa [List.map_id] at differ

theorem requested_nodup (snapshot : Snapshot) (limits : Limits) (finding : Finding) :
    (snapshot.requested limits finding).Nodup :=
  (snapshot.distinct_nodup _).sublist (List.take_sublist _ _)

theorem requested_subset (snapshot : Snapshot) (limits : Limits) (finding : Finding) :
    snapshot.requested limits finding ⊆ snapshot.distinct finding.addresses := by
  intro address member
  obtain ⟨raw, followed, canonical⟩ := mem_distinct.1 (List.mem_of_mem_take member)
  exact mem_distinct.2 ⟨raw, finding.followed_subset limits followed, canonical⟩

end Snapshot

namespace Walk

variable {sheets : List Sheet} {values : Option (List Sheet)} {index : Option Index}
  {limits : Limits} {mode : Mode} {depth : Nat} {addresses : List String}
  {progress later : Progress} {workbook after : OpenWorkbook} {snapshot : Snapshot}
  {finding : Finding} {stops : List Stop} {nodes : List Node}

/-- What holds on a walk through a workbook. -/
structure Going (sheets : List Sheet) (values : Option (List Sheet)) (index : Option Index)
    (progress : Progress) (workbook : OpenWorkbook) : Prop where
  shows : Shows sheets values index workbook
  onSheets : ∀ candidates, progress.candidates = some candidates →
    ∀ candidate ∈ candidates, ∃ sheet ∈ sheets, Inventory.OnSheet sheet.title candidate

/-- What a walk found out at a node, and what became of it. -/
structure Expands (sheets : List Sheet) (values : Option (List Sheet)) (index : Option Index)
    (limits : Limits) (mode : Mode) (snapshot : Snapshot) (finding : Finding) (node : Node) :
    Prop where
  told : Known sheets snapshot
  follows : mode = .precedents → hasFormula snapshot = true
  address : node.address = snapshot.address
  formula : node.formula = snapshot.formula
  finds : ∃ progress workbook later after, Going sheets values index progress workbook ∧
    Finds source limits snapshot mode progress workbook finding later after
  settles : List.Forall₂ (fun address child => settled sheets address = .ok (Node.address child))
    (snapshot.requested limits finding) node.children

/-- A node has no children, or a walk went from it to what it found out about the cells below. -/
def Grows (sheets : List Sheet) (values : Option (List Sheet)) (index : Option Index)
    (limits : Limits) (mode : Mode) (stops : List Stop) (node : Node) : Prop :=
  node.children = [] ∨ ∃ snapshot finding,
    .expanded snapshot finding ∈ stops ∧
      Expands sheets values index limits mode snapshot finding node

theorem Grows.mono {others : List Stop} {node : Node}
    (grows : Grows sheets values index limits mode stops node) (among : stops ⊆ others) :
    Grows sheets values index limits mode others node :=
  grows.imp_right fun ⟨snapshot, finding, member, expands⟩ =>
    ⟨snapshot, finding, among member, expands⟩

namespace Going

theorem start (shows : Shows sheets values index workbook) :
    Going sheets values index {} workbook := ⟨shows, nofun⟩

theorem enter (going : Going sheets values index progress workbook) (address : String) :
    Going sheets values index (progress.enter address) workbook :=
  ⟨going.shows, going.onSheets⟩

theorem noting (going : Going sheets values index progress workbook) (more : Bool) :
    Going sheets values index (progress.noting more) workbook :=
  ⟨going.shows, going.onSheets⟩

theorem reads (going : Going sheets values index progress workbook) {address : String}
    (given : (source.readCell address).Gives workbook snapshot after) :
    Known sheets snapshot ∧ Going sheets values index progress after := by
  obtain ⟨told, shows⟩ := readCell_gives going.shows given
  exact ⟨told, shows, going.onSheets⟩

end Going

variable (well : WellFormedSheets sheets)
include well

theorem indexed_told {answer : Option (List (List String))} (told : Known sheets snapshot)
    (shows : Shows sheets values index workbook)
    (asked : Gives (indexed source mode snapshot.address) progress workbook answer later after) :
    answer = index.map (fun index => index.tells mode snapshot.address) ∧
      Shows sheets values index after := by
  cases index with
  | none =>
    obtain ⟨same, rfl⟩ := asked.det (unindexed_gives shows snapshot.address mode progress)
    exact ⟨congrArg Prod.fst same, shows⟩
  | some index =>
    obtain ⟨sheet, place, tells⟩ := told
    have settles := tells.settled_address (well.named sheet tells.listed)
    obtain ⟨between, given, kept⟩ := indexed_gives shows settles mode progress
    obtain ⟨same, rfl⟩ := asked.det given
    exact ⟨congrArg Prod.fst same, kept⟩

theorem Finds.going (told : Known sheets snapshot)
    (going : Going sheets values index progress workbook)
    (finds : Finds source limits snapshot mode progress workbook finding later after) :
    Going sheets values index later after := by
  cases finds with
  | told asked | parsed asked | held asked | unwritten asked | unplaced asked =>
    exact ⟨(indexed_told well told going.shows asked).2, going.onSheets⟩
  | taken asked target unknown took =>
    obtain ⟨chosen, grids, loads⟩ := Inventory.take_loads took
    have shows := (indexed_told well told going.shows asked).2
    refine ⟨loads.shows shows, fun candidates same => ?_⟩
    cases same
    exact loads.onSheets shows

/-- The nodes of a walk have the addresses by which the workbook knows the cells that were asked
for. -/
theorem Course.settles (course : Course source limits mode depth addresses progress workbook stops
    nodes later after) (going : Going sheets values index progress workbook) :
    Going sheets values index later after ∧
      List.Forall₂ (fun address node => settled sheets address = .ok (Node.address node))
        addresses nodes := by
  induction course with
  | done => exact ⟨going, .nil⟩
  | again reads old further ih =>
    obtain ⟨kept, named⟩ := ih (going.reads reads).2
    exact ⟨kept, .cons (readCell_settled going.shows reads) named⟩
  | constant reads new follows bare shown further ih =>
    have between := (going.reads reads).2
    obtain ⟨kept, named⟩ := ih ((between.reads shown).2.enter _)
    exact ⟨kept, .cons (readCell_settled between.shows shown) named⟩
  | last reads new follows further ih =>
    obtain ⟨kept, named⟩ := ih ((going.reads reads).2.enter _)
    exact ⟨kept, .cons (readCell_settled going.shows reads) named⟩
  | expanded reads new follows finds descends further inner ih =>
    obtain ⟨told, between⟩ := going.reads reads
    have beyond := finds.going well told (between.enter _)
    obtain ⟨kept, named⟩ := ih (inner (beyond.noting _)).1
    exact ⟨kept, .cons (readCell_settled going.shows reads) named⟩

theorem Course.grows (course : Course source limits mode depth addresses progress workbook stops
    nodes later after) (going : Going sheets values index progress workbook) :
    ∀ node ∈ Node.preorderAll nodes, Grows sheets values index limits mode stops node := by
  have further_grows {stop : Stop} {stops : List Stop} {nodes : List Node}
      (grow : ∀ node ∈ Node.preorderAll nodes, Grows sheets values index limits mode stops node) :
      ∀ node ∈ Node.preorderAll nodes, Grows sheets values index limits mode (stop :: stops) node :=
    fun node inside => (grow node inside).mono (List.subset_cons_self _ _)
  induction course with
  | done => exact fun node inside => absurd inside List.not_mem_nil
  | again reads old further ih =>
    exact List.forall_mem_cons.2 ⟨.inl rfl, further_grows (ih (going.reads reads).2)⟩
  | constant reads new follows bare shown further ih =>
    have between := (going.reads reads).2
    exact List.forall_mem_cons.2 ⟨.inl rfl, further_grows (ih ((between.reads shown).2.enter _))⟩
  | last reads new follows further ih =>
    exact List.forall_mem_cons.2 ⟨.inl rfl, further_grows (ih ((going.reads reads).2.enter _))⟩
  | expanded reads new follows finds descends further inner ih =>
    obtain ⟨told, between⟩ := going.reads reads
    have beyond := finds.going well told (between.enter _)
    obtain ⟨deep, settles⟩ := descends.settles well (beyond.noting _)
    refine List.forall_mem_cons.2
      ⟨.inr ⟨_, _, List.mem_cons_self, ?_⟩, List.forall_mem_append.2 ⟨?_, ?_⟩⟩
    · exact ⟨told, follows, rfl, rfl, ⟨_, _, _, _, between.enter _, finds⟩, settles⟩
    · exact fun node inside => (inner (beyond.noting _) node inside).mono (Stop.subset_inner _ _ _)
    · exact fun node inside => (ih deep node inside).mono (Stop.subset_further _ _ _)

end Walk

end FormulaTrace
