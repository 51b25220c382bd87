import FormulaTrace.Lineage.Node
import FormulaTrace.Trace.Inventory
import FormulaTrace.Trace.Request

/-!
The walk of a trace through a source of cells.

A walk goes depth first and enters every cell once; a cell that comes up again is marked as
circular. The cells below a cell come from the index of the source or, where it has none, from
formulas: from the cell's own formula for precedents, and from an inventory of all formulas for
dependents.
-/
namespace FormulaTrace

/-- What a walk remembers. -/
structure Progress where
  visited : List String := []
  usedIndex : Bool := false
  usedFormulas : Bool := false
  truncated : Bool := false
  /-- The inventory of formulas, once it was taken. -/
  candidates : Option (List Candidate) := none
  skipped : List String := []

def Snapshot.node (snapshot : Snapshot) (formula : Option String) (children : List Node) : Node :=
  .cell snapshot.address snapshot.value snapshot.numberFormat formula children

abbrev Walk (σ α : Type) := StateT Progress (ExceptT Failure (StateM σ)) α

namespace Walk

variable {σ : Type}

/-- The part of a list before a limit; a negative limit counts from the end. -/
def upTo {α : Type} (limit : Int) (items : List α) : List α :=
  if 0 ≤ limit then items.take limit.toNat else items.take (items.length - (-limit).toNat)

/-- The distinct cells of some addresses, no more than a cap, and whether there were more. -/
def capChildren (cap : Int) (home : String) (addresses : List String) : List String × Bool :=
  let distinct := firstsBy id (addresses.filterMap fun address => canonical? address home)
  (distinct.take cap.toNat, decide (cap.toNat < distinct.length))

def note (truncated : Bool) : Walk σ Unit :=
  modify fun progress => { progress with truncated := progress.truncated || truncated }

def read (source : Source σ) (address : String) : Walk σ Snapshot :=
  liftM (source.guard "read_cell" (some address) (source.readCell address))

def leaf (source : Source σ) (address : String) : Walk σ Node := do
  let snapshot ← read source address
  return snapshot.node snapshot.formula []

def indexed (source : Source σ) (mode : Mode) (address : String) :
    Walk σ (Option (List (List String))) :=
  match mode with
  | .precedents =>
    liftM (source.guard "get_direct_precedents" (some address) (source.precedents address))
  | .dependents =>
    liftM (source.guard "get_direct_dependents" (some address) (source.dependents address))

def gather (limits : Limits) (home : String) (addresses : List String) : Walk σ (List String) := do
  let (children, more) := capChildren limits.maxChildren home addresses
  note more
  return children

def fromFormula (limits : Limits) (home : String) (formula : Option String) :
    Walk σ (List String) := do
  match formula with
  | none => return []
  | some formula =>
    if formula = "" then return []
    let areas := Formula.references formula home
    note (limits.maxReferences < areas.length)
    gather limits home ((upTo limits.maxReferences areas).map Area.anchorAddress)

/-- The inventory of formulas, which is taken at most once. -/
def inventory (source : Source σ) (limits : Limits) : Walk σ (List Candidate) := do
  match (← get).candidates with
  | some candidates => return candidates
  | none =>
    let taken ← liftM (source.guard "dependents scan" none
      (Inventory.take source limits.maxScanCells))
    modify fun progress =>
      { progress with
        candidates := some taken.candidates
        skipped := progress.skipped ++ taken.skipped }
    note taken.truncated
    return taken.candidates

def fromInventory (source : Source σ) (limits : Limits) (address : String) : Walk σ (List String) :=
  do
  match Cell.read? address "" with
  | none => return []
  | some target =>
    let candidates ← inventory source limits
    let matching := candidates.filter fun candidate =>
      Formula.anyContains candidate.references target
    gather limits target.sheet (matching.map Candidate.address)

def below (source : Source σ) (limits : Limits) (mode : Mode) (snapshot : Snapshot) :
    Walk σ (List String) := do
  let home := (separate snapshot.address).1.getD ""
  match ← indexed source mode snapshot.address with
  | some groups =>
    modify fun progress => { progress with usedIndex := true }
    gather limits home groups.flatten
  | none =>
    modify fun progress => { progress with usedFormulas := true }
    match mode with
    | .precedents => fromFormula limits home snapshot.formula
    | .dependents => fromInventory source limits snapshot.address

/-- A cell that is already in the tree. -/
def circular (snapshot : Snapshot) : Node := snapshot.node (some circularMark) []

def hasFormula (snapshot : Snapshot) : Bool := snapshot.formula.getD "" ≠ ""

/-- What becomes of a cell that a walk comes to. -/
inductive Arrival where
  | again (snapshot : Snapshot)
  /-- The cell has no formula to follow. -/
  | constant
  | entered (snapshot : Snapshot)

def arrive (source : Source σ) (mode : Mode) (address : String) : Walk σ Arrival := do
  let snapshot ← read source address
  if snapshot.address ∈ (← get).visited then return .again snapshot
  modify fun progress => { progress with visited := snapshot.address :: progress.visited }
  if mode = .precedents ∧ !hasFormula snapshot then return .constant
  return .entered snapshot

/-- Visits a cell and what lies below it, down to a depth that is left.  In a trace of precedents a
cell without a formula gives nothing. -/
def visit (source : Source σ) (limits : Limits) (mode : Mode) : Nat → String → Walk σ (Option Node)
  | 0, address => do
    match ← arrive source mode address with
    | .again snapshot => return some (circular snapshot)
    | .constant => return none
    | .entered snapshot => return some (snapshot.node snapshot.formula [])
  | depth + 1, address => do
    match ← arrive source mode address with
    | .again snapshot => return some (circular snapshot)
    | .constant => return none
    | .entered snapshot =>
      let addresses ← below source limits mode snapshot
      let children ← addresses.mapM fun child => do
        match ← visit source limits mode depth child with
        | some node => return node
        | none => leaf source child
      return some (snapshot.node snapshot.formula children)

end Walk

/-- The outcome of a trace. -/
structure Trace where
  /-- Nothing, when precedents of a cell without a formula were asked for. -/
  root : Option Node
  mode : Mode
  maxDepth : Int
  nodeCount : Nat
  edgeCount : Nat
  origin : Origin
  truncated : Bool
  skippedSheets : List String

namespace Trace

variable {σ : Type}

def ofWalk (mode : Mode) (depth : Int) (root : Option Node) (progress : Progress) : Trace where
  root := root
  mode := mode
  maxDepth := depth
  nodeCount := (root.map Node.nodeCount).getD 0
  edgeCount := (root.map Node.edgeCount).getD 0
  origin := .ofUse progress.usedIndex progress.usedFormulas
  truncated := progress.truncated
  skippedSheets := progress.skipped

def run (source : Source σ) (limits : Limits) (target : Target) (mode : Mode) (asked : Option Int) :
    Reading σ Trace := do
  let depth := limits.boundDepth asked
  let address ← Reading.ofExcept target.address
  let (root, progress) ← (Walk.visit source limits mode depth.toNat address).run {}
  return ofWalk mode depth root progress

/-- Traces as asked for by a text for the mode and a value for the depth. -/
def request (source : Source σ) (limits : Limits) (target : Target) (mode : Option String)
    (depth : Value) :
    Reading σ Trace := do
  let mode ← Reading.ofExcept (Mode.read mode)
  let asked ← Reading.ofExcept depth.askedDepth
  run source limits target mode asked

end Trace

end FormulaTrace
