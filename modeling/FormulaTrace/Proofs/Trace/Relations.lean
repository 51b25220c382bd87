import FormulaTrace.Proofs.Trace.Runs

/-! Relations between readings of two sources that everything keeps which a trace does. A trace puts
one question to its source after another.  What holds of the single questions and is kept when one
reading follows another holds of whole traces; the induction over the walk is done here, once for
all such relations. -/
namespace FormulaTrace

variable {σ τ α β : Type}

/-- How readings of one source may be related to readings of another. -/
abbrev Reading.Relation (σ τ : Type) := ∀ α : Type, Reading σ α → Reading τ α → Prop

/-- A relation that is kept when one reading follows another. -/
structure Reading.Sequential (rel : Reading.Relation σ τ) : Prop where
  pure : ∀ {α : Type} (value : α), rel α (pure value) (pure value)
  bind : ∀ {α β : Type} {first : Reading σ α} {second : Reading τ α} {next : α → Reading σ β}
    {next' : α → Reading τ β},
    rel α first second → (∀ value, rel β (next value) (next' value)) → rel β (first >>= next)
      (second >>= next')

variable {rel : Reading.Relation σ τ} {source : Source σ} {other : Source τ}

theorem Reading.Sequential.mapM (sequential : Reading.Sequential rel) {first : α → Reading σ β}
    {second : α → Reading τ β} (items : List α) (steps : ∀ item, rel β (first item) (second item)) :
    rel (List β) (items.mapM first) (items.mapM second) := by
  induction items with
  | nil =>
    rw [List.mapM_nil, List.mapM_nil]
    exact sequential.pure []
  | cons item rest ih =>
    rw [List.mapM_cons, List.mapM_cons]
    exact sequential.bind (steps item) fun value => sequential.bind ih fun values =>
      sequential.pure (value :: values)

namespace Inventory

def checked (source : Source σ) (reading : Reading σ α) : Reading σ α := do
  source.checkCancelled "Dependents scan cancelled"
  reading

def grids (source : Source σ) (sheets : List String) : Reading σ (List (Option FormulaGrid)) :=
  Reading.batch source.delay source.formulaGrid sheets

/-- A relation that holds of what a scan asks. -/
structure Scanned (rel : Reading.Relation σ τ) (source : Source σ) (other : Source τ) : Prop
    extends Reading.Sequential rel where
  sheetNames : rel _ (checked source source.sheetNames) (checked other other.sheetNames)
  usedRange : ∀ sheet, rel _ (checked source (source.usedRange sheet))
    (checked other (other.usedRange sheet))
  grids : ∀ sheets, rel _ (checked source (Inventory.grids source sheets))
    (checked other (Inventory.grids other sheets))
  listed : ∀ found, rel _ (Reading.ofExcept ((allCandidates found).mapError AddressError.failure))
    (Reading.ofExcept ((allCandidates found).mapError AddressError.failure))

theorem take_eq (source : Source σ) (budget : Int) : take source budget =
    (do
      let sheets ← checked source source.sheetNames
      let ranges ← sheets.mapM fun sheet => checked source (source.usedRange sheet)
      let selection := select budget (sheets.zip ranges)
      let found ← checked source (grids source selection.chosen)
      let candidates ← Reading.ofExcept
        ((allCandidates (selection.chosen.zip found)).mapError AddressError.failure)
      return ⟨candidates, selection.truncated, selection.skipped⟩) := by
  unfold take checked
  simp only [bind_assoc]
  rfl

theorem take_related (scanned : Scanned rel source other) (budget : Int) :
    rel _ (take source budget) (take other budget) := by
  rw [take_eq, take_eq]
  refine scanned.bind scanned.sheetNames fun sheets => ?_
  refine scanned.bind (scanned.mapM sheets scanned.usedRange) fun ranges => ?_
  refine scanned.bind (scanned.grids _) fun found => ?_
  exact scanned.bind (scanned.listed _) fun candidates => scanned.pure _

end Inventory

/-- A relation that holds of what a walk asks. -/
structure Walk.Asked (rel : Reading.Relation σ τ) (source : Source σ) (other : Source τ) : Prop
    extends Reading.Sequential rel where
  readCell : ∀ address, rel _ (source.guard "read_cell" (some address) (source.readCell address))
    (other.guard "read_cell" (some address) (other.readCell address))
  precedents : ∀ address, rel _ (source.guard "get_direct_precedents" (some address)
    (source.precedents address))
    (other.guard "get_direct_precedents" (some address) (other.precedents address))
  dependents : ∀ address, rel _ (source.guard "get_direct_dependents" (some address)
    (source.dependents address))
    (other.guard "get_direct_dependents" (some address) (other.dependents address))
  inventory : ∀ budget, rel _ (source.guard "dependents scan" none (Inventory.take source budget))
    (other.guard "dependents scan" none (Inventory.take other budget))

namespace Walk

def Related (rel : Reading.Relation σ τ) (walk : Walk σ α) (beside : Walk τ α) : Prop :=
  ∀ progress, rel (α × Progress) (walk.run progress) (beside.run progress)

theorem related_get_bind {next : Progress → Walk σ β} {next' : Progress → Walk τ β}
    (rest : ∀ progress, Related rel (next progress) (next' progress)) :
    Related rel (get >>= next) (get >>= next') :=
  fun progress => rest progress progress

section Steps

variable (sequential : Reading.Sequential rel)
include sequential

theorem related_pure (value : α) : Related rel (pure value) (pure value) :=
  fun progress => sequential.pure (value, progress)

theorem related_bind {walk : Walk σ α} {beside : Walk τ α} {next : α → Walk σ β}
    {next' : α → Walk τ β} (first : Related rel walk beside)
    (rest : ∀ value, Related rel (next value) (next' value)) :
    Related rel (walk >>= next) (beside >>= next') := by
  intro progress
  rw [StateT.run_bind, StateT.run_bind]
  exact sequential.bind (first progress) fun (value, further) => rest value further

theorem related_lift {reading : Reading σ α} {beside : Reading τ α}
    (related : rel α reading beside) :
    Related rel (liftM reading) (liftM beside) :=
  fun progress => sequential.bind related fun value => sequential.pure (value, progress)

theorem related_modify (change : Progress → Progress) :
    Related rel (modify change) (modify change) :=
  fun progress => sequential.pure ((), change progress)

theorem related_mapM {first : α → Walk σ β} {second : α → Walk τ β} (items : List α)
    (steps : ∀ item, Related rel (first item) (second item)) : Related rel (items.mapM first)
      (items.mapM second) := by
  induction items with
  | nil =>
    rw [List.mapM_nil, List.mapM_nil]
    exact related_pure sequential []
  | cons item rest ih =>
    rw [List.mapM_cons, List.mapM_cons]
    refine related_bind sequential (steps item) fun value => ?_
    exact related_bind sequential ih fun values => related_pure sequential (value :: values)

theorem gather_related (limits : Limits) (home : String) (addresses : List String) :
    Related rel (gather limits home addresses) (gather limits home addresses) :=
  related_bind sequential (related_modify sequential _) fun _ => related_pure sequential _

theorem fromFormula_related (limits : Limits) (home : String) (formula : Option String) :
    Related rel (fromFormula limits home formula) (fromFormula limits home formula) := by
  unfold fromFormula
  cases formula with
  | none => exact related_pure sequential []
  | some formula =>
    dsimp only
    split
    · exact related_pure sequential []
    · exact related_bind sequential (related_modify sequential _) fun _ =>
        gather_related sequential _ _ _

variable (takes : ∀ budget,
  rel _ (source.guard "dependents scan" none (Inventory.take source budget))
  (other.guard "dependents scan" none (Inventory.take other budget)))
include takes

theorem inventory_related (limits : Limits) :
    Related rel (inventory source limits) (inventory other limits) := by
  refine related_get_bind fun progress => ?_
  cases progress.candidates with
  | some candidates => exact related_pure sequential candidates
  | none =>
    refine related_bind sequential (related_lift sequential (takes _)) fun taken => ?_
    refine related_bind sequential (related_modify sequential _) fun _ => ?_
    exact related_bind sequential (related_modify sequential _) fun _ => related_pure sequential _

theorem fromInventory_related (limits : Limits) (address : String) :
    Related rel (fromInventory source limits address) (fromInventory other limits address) := by
  unfold fromInventory
  cases Cell.read? address "" with
  | none => exact related_pure sequential []
  | some target =>
    exact related_bind sequential (inventory_related sequential takes limits) fun _ =>
      gather_related sequential _ _ _

end Steps

variable (asked : Asked rel source other)
include asked

theorem read_related (address : String) : Related rel (read source address) (read other address) :=
  related_lift asked.toSequential (asked.readCell address)

theorem leaf_related (address : String) : Related rel (leaf source address) (leaf other address) :=
  related_bind asked.toSequential (read_related asked address) fun _ =>
    related_pure asked.toSequential _

theorem indexed_related (mode : Mode) (address : String) :
    Related rel (indexed source mode address) (indexed other mode address) := by
  cases mode with
  | precedents => exact related_lift asked.toSequential (asked.precedents address)
  | dependents => exact related_lift asked.toSequential (asked.dependents address)

theorem below_related (limits : Limits) (mode : Mode) (snapshot : Snapshot) :
    Related rel (below source limits mode snapshot) (below other limits mode snapshot) := by
  refine related_bind asked.toSequential (indexed_related asked mode snapshot.address)
    fun told => ?_
  cases told with
  | some groups =>
    exact related_bind asked.toSequential (related_modify asked.toSequential _) fun _ =>
      gather_related asked.toSequential _ _ _
  | none =>
    refine related_bind asked.toSequential (related_modify asked.toSequential _) fun _ => ?_
    cases mode with
    | precedents => exact fromFormula_related asked.toSequential _ _ _
    | dependents => exact fromInventory_related asked.toSequential asked.inventory limits _

theorem arrive_related (mode : Mode) (address : String) :
    Related rel (arrive source mode address) (arrive other mode address) := by
  refine related_bind asked.toSequential (read_related asked address) fun snapshot => ?_
  refine related_get_bind fun progress => ?_
  split
  · exact related_pure asked.toSequential _
  · refine related_bind asked.toSequential (related_modify asked.toSequential _) fun _ => ?_
    split <;> exact related_pure asked.toSequential _

theorem conclude_related {limits : Limits} {mode : Mode} {depth : Nat}
    (descends : ∀ snapshot, Related rel (descend source limits mode depth snapshot)
      (descend other limits mode depth snapshot)) (arrival : Arrival) :
    Related rel (conclude source limits mode depth arrival)
      (conclude other limits mode depth arrival) := by
  cases arrival with
  | again snapshot => exact related_pure asked.toSequential _
  | constant => exact related_pure asked.toSequential _
  | entered snapshot =>
    exact related_bind asked.toSequential (descends snapshot) fun _ =>
        related_pure asked.toSequential _

theorem visit_related (limits : Limits) (mode : Mode) (depth : Nat) (address : String) :
    Related rel (visit source limits mode depth address)
      (visit other limits mode depth address) := by
  induction depth generalizing address with
  | zero =>
    rw [visit_eq, visit_eq]
    refine related_bind asked.toSequential (arrive_related asked mode address)
      (conclude_related asked fun _ => ?_)
    exact related_pure asked.toSequential []
  | succ depth ih =>
    rw [visit_eq, visit_eq]
    refine related_bind asked.toSequential (arrive_related asked mode address)
      (conclude_related asked fun snapshot => ?_)
    refine related_bind asked.toSequential (below_related asked limits mode snapshot)
      fun addresses => ?_
    refine related_mapM asked.toSequential addresses fun child => ?_
    refine related_bind asked.toSequential (ih child) fun visited => ?_
    cases visited with
    | some node => exact related_pure asked.toSequential node
    | none => exact leaf_related asked child

end Walk

namespace Trace

/-- What a trace is asked for: a cell, a direction and a depth, read from a text, a name and a
value. -/
def arguments (target : Target) (mode : Option String) (depth : Value) :
    Except Failure (String × Mode × Option Int) := do
  let direction ← Mode.read mode
  let asked ← depth.askedDepth
  let address ← target.address
  return (address, direction, asked)

def ofAddress (source : Source σ) (limits : Limits) (address : String) (mode : Mode)
    (asked : Option Int) :
    Reading σ Trace := do
  let depth := limits.boundDepth asked
  let (root, progress) ← (Walk.visit source limits mode depth.toNat address).run {}
  return ofWalk mode depth root progress

theorem request_eq (source : Source σ) (limits : Limits) (target : Target) (mode : Option String)
    (depth : Value) :
    request source limits target mode depth = Reading.ofExcept (arguments target mode depth) >>=
      fun (address, direction, asked) => ofAddress source limits address direction asked := by
  unfold request arguments run
  cases Mode.read mode with
  | error failure => rfl
  | ok direction =>
    cases depth.askedDepth with
    | error failure => rfl
    | ok asked =>
      cases target.address with
      | error failure => rfl
      | ok address => rfl

theorem ofAddress_related (asked : Walk.Asked rel source other) (limits : Limits) (address : String)
    (mode : Mode) (depth : Option Int) :
    rel _ (ofAddress source limits address mode depth)
      (ofAddress other limits address mode depth) :=
  asked.bind (Walk.visit_related asked limits mode _ address {}) fun (_, _) => asked.pure _

end Trace

end FormulaTrace
