import FormulaTrace.Proofs.Trace.Runs

/-! The course of a walk, stop by stop.
A walk that succeeds stops at one cell after another.  What it may do at a stop and what it
remembers of it is said here once; what holds of whole walks follows by induction on their
courses. -/
namespace FormulaTrace

variable {σ : Type}

/-- The sheet of the addresses below a cell that name none. -/
def Snapshot.home (snapshot : Snapshot) : String := (separate snapshot.address).1.getD ""

/-- What a walk finds out about the cells below a cell. -/
inductive Finding where
  | told (groups : List (List String))
  | parsed (areas : List Area)
  /-- The inventory of formulas, and the same as it was taken if it was taken only now. -/
  | listed (target : Cell) (candidates : List Candidate) (taken : Option Inventory)
  /-- There is no formula to parse, or no cell to look for in formulas. -/
  | nothing

namespace Finding

def addresses : Finding → List String
  | told groups => groups.flatten
  | parsed areas => areas.map Area.anchorAddress
  | listed target candidates _ =>
    (candidates.filter fun candidate => Formula.anyContains candidate.references target).map
      Candidate.address
  | nothing => []

def followed (limits : Limits) : Finding → List String
  | parsed areas => (Walk.upTo limits.maxReferences areas).map Area.anchorAddress
  | told groups => (told groups).addresses
  | listed target candidates taken => (listed target candidates taken).addresses
  | nothing => []

def exceeds (limits : Limits) : Finding → Bool
  | parsed areas => limits.maxReferences < areas.length
  | _ => false

end Finding

namespace Snapshot

def distinct (snapshot : Snapshot) (addresses : List String) : List String :=
  firstsBy id (addresses.filterMap fun address => canonical? address snapshot.home)

/-- The cells below a cell that a walk goes to. -/
def requested (snapshot : Snapshot) (limits : Limits) (finding : Finding) : List String :=
  (snapshot.distinct (finding.followed limits)).take limits.maxChildren.toNat

def omits (snapshot : Snapshot) (limits : Limits) (finding : Finding) : Bool :=
  finding.exceeds limits || limits.maxChildren.toNat <
    (snapshot.distinct (finding.followed limits)).length

end Snapshot

/-- What a walk comes upon at a stop. -/
inductive Stop where
  | again (snapshot : Snapshot)
  /-- A cell without a formula to follow, and what is told of it when its node is made. -/
  | constant (snapshot shown : Snapshot)
  | last (snapshot : Snapshot)
  | expanded (snapshot : Snapshot) (finding : Finding)

namespace Progress

def enter (progress : Progress) (address : String) : Progress :=
  { progress with visited := address :: progress.visited }

def noting (progress : Progress) (more : Bool) : Progress :=
  { progress with truncated := progress.truncated || more }

end Progress

namespace Walk

/-- How a walk finds out about the cells below a cell. -/
inductive Finds (source : Source σ) (limits : Limits) (snapshot : Snapshot) :
    Mode → Progress → σ → Finding → Progress → σ → Prop where
  | told {mode : Mode} {progress : Progress} {state after : σ} {groups : List (List String)}
      (asked : Gives (indexed source mode snapshot.address) progress state (some groups)
        progress after) :
      Finds source limits snapshot mode progress state (.told groups)
        { progress with usedIndex := true } after
  | parsed {progress : Progress} {state after : σ} {formula : String}
      (asked : Gives (indexed source .precedents snapshot.address) progress state none progress
        after)
      (written : snapshot.formula = some formula) (filled : formula ≠ "") :
      Finds source limits snapshot .precedents progress state
        (.parsed (Formula.references formula snapshot.home))
          { progress with usedFormulas := true } after
  | held {progress : Progress} {state after : σ} {target : Cell} {candidates : List Candidate}
      (asked : Gives (indexed source .dependents snapshot.address) progress state none progress
        after)
      (place : Cell.read? snapshot.address "" = some target)
        (known : progress.candidates = some candidates) :
      Finds source limits snapshot .dependents progress state (.listed target candidates none)
        { progress with usedFormulas := true } after
  | taken {progress : Progress} {state between after : σ} {target : Cell} {inventory : Inventory}
      (asked : Gives (indexed source .dependents snapshot.address) progress state none progress
        between)
      (place : Cell.read? snapshot.address "" = some target) (unknown : progress.candidates = none)
      (took : (Inventory.take source limits.maxScanCells).Gives between inventory after) :
      Finds source limits snapshot .dependents progress state
        (.listed target inventory.candidates (some inventory))
        { progress with
          usedFormulas := true
          truncated := progress.truncated || inventory.truncated
          candidates := some inventory.candidates
          skipped := progress.skipped ++ inventory.skipped } after
  | unwritten {progress : Progress} {state after : σ}
      (asked : Gives (indexed source .precedents snapshot.address) progress state none progress
        after)
      (unwritten : hasFormula snapshot = false) :
      Finds source limits snapshot .precedents progress state .nothing
        { progress with usedFormulas := true } after
  | unplaced {progress : Progress} {state after : σ}
      (asked : Gives (indexed source .dependents snapshot.address) progress state none progress
        after)
      (unplaced : Cell.read? snapshot.address "" = none) :
      Finds source limits snapshot .dependents progress state .nothing
        { progress with usedFormulas := true } after

/-- The course of a walk through some addresses with some depth left: the stops, each before those
below it, and the nodes of the addresses. -/
inductive Course (source : Source σ) (limits : Limits) (mode : Mode) :
    Nat → List String → Progress → σ → List Stop → List Node → Progress → σ → Prop where
  | done {depth : Nat} {progress : Progress} {state : σ} :
      Course source limits mode depth [] progress state [] [] progress state
  | again {depth : Nat} {address : String} {rest : List String} {progress later : Progress}
      {state between after : σ} {snapshot : Snapshot} {stops : List Stop} {nodes : List Node}
      (reads : (source.readCell address).Gives state snapshot between)
      (old : snapshot.address ∈ progress.visited)
      (further : Course source limits mode depth rest progress between stops nodes later after) :
      Course source limits mode depth (address :: rest) progress state (.again snapshot :: stops)
        (circular snapshot :: nodes) later after
  | constant {depth : Nat} {address : String} {rest : List String} {progress later : Progress}
      {state between beyond after : σ} {snapshot shown : Snapshot} {stops : List Stop}
        {nodes : List Node}
      (reads : (source.readCell address).Gives state snapshot between)
      (new : snapshot.address ∉ progress.visited)
      (follows : mode = .precedents) (bare : hasFormula snapshot = false)
      (shows : (source.readCell address).Gives between shown beyond)
      (further : Course source limits mode depth rest (progress.enter snapshot.address)
        beyond stops nodes later after) :
      Course source limits mode depth (address :: rest) progress state
        (.constant snapshot shown :: stops) (shown.node shown.formula [] :: nodes) later after
  | last {address : String} {rest : List String} {progress later : Progress}
      {state between after : σ} {snapshot : Snapshot} {stops : List Stop} {nodes : List Node}
      (reads : (source.readCell address).Gives state snapshot between)
      (new : snapshot.address ∉ progress.visited)
      (follows : mode = .precedents → hasFormula snapshot = true)
      (further : Course source limits mode 0 rest (progress.enter snapshot.address)
        between stops nodes later after) :
      Course source limits mode 0 (address :: rest) progress state (.last snapshot :: stops)
        (snapshot.node snapshot.formula [] :: nodes) later after
  | expanded {depth : Nat} {address : String} {rest : List String}
      {progress found below later : Progress} {state between beyond deep after : σ}
        {snapshot : Snapshot}
      {finding : Finding} {inner stops : List Stop} {children nodes : List Node}
      (reads : (source.readCell address).Gives state snapshot between)
      (new : snapshot.address ∉ progress.visited)
      (follows : mode = .precedents → hasFormula snapshot = true)
      (finds : Finds source limits snapshot mode (progress.enter snapshot.address)
        between finding found beyond)
      (descends : Course source limits mode depth (snapshot.requested limits finding)
        (found.noting (snapshot.omits limits finding)) beyond inner children below deep)
      (further : Course source limits mode (depth + 1) rest below deep stops nodes later after) :
      Course source limits mode (depth + 1) (address :: rest) progress state
        (.expanded snapshot finding :: inner ++ stops)
          (snapshot.node snapshot.formula children :: nodes) later
        after

variable {source : Source σ} {limits : Limits} {mode : Mode} {progress later : Progress}
  {state after : σ}

theorem gather_gives {snapshot : Snapshot} {addresses children : List String}
    (given : Gives (gather limits snapshot.home addresses) progress state children later after) :
    children = (snapshot.distinct addresses).take limits.maxChildren.toNat ∧
      later = progress.noting (limits.maxChildren.toNat < (snapshot.distinct addresses).length) ∧
        after = state := by
  have rest := gives_note_bind.1 given
  obtain ⟨rfl, rfl, rfl⟩ := gives_pure.1 rest
  exact ⟨rfl, rfl, rfl⟩

theorem nothing_requested (snapshot : Snapshot) (limits : Limits) :
    snapshot.requested limits .nothing = [] ∧ snapshot.omits limits .nothing = false := by
  simp [Snapshot.requested, Snapshot.omits, Snapshot.distinct, Finding.followed, Finding.exceeds,
    firstsBy, firstsAfter]

theorem noting_false (progress : Progress) : progress.noting false = progress := by
  simp [Progress.noting]

theorem noting_noting (progress : Progress) (first second : Bool) :
    (progress.noting first).noting second = progress.noting (first || second) := by
  simp [Progress.noting, Bool.or_assoc]

def Found (source : Source σ) (limits : Limits) (snapshot : Snapshot) (mode : Mode)
    (progress : Progress) (state : σ) (children : List String) (later : Progress) (after : σ) :
    Prop :=
  ∃ finding found, Finds source limits snapshot mode progress state finding found after ∧
    children = snapshot.requested limits finding ∧
      later = found.noting (snapshot.omits limits finding)

theorem Finds.found_nothing {snapshot : Snapshot} {found : Progress}
    (finds : Finds source limits snapshot mode progress state .nothing found after) :
    Found source limits snapshot mode progress state [] found after := by
  obtain ⟨requested, omits⟩ := nothing_requested snapshot limits
  exact ⟨.nothing, found, finds, requested.symm, by rw [omits, noting_false]⟩

theorem fromFormula_found {snapshot : Snapshot} {children : List String} {between : σ}
    (asked : Gives (indexed source .precedents snapshot.address) progress state none progress
      between)
    (given : Gives (fromFormula limits snapshot.home snapshot.formula)
      { progress with usedFormulas := true } between children later after) :
    Found source limits snapshot .precedents progress state children later after := by
  cases written : snapshot.formula with
  | none =>
    rw [written] at given
    obtain ⟨rfl, rfl, rfl⟩ := gives_pure.1 given
    exact (Finds.unwritten asked (by simp [hasFormula, written])).found_nothing
  | some formula =>
    rw [written] at given
    unfold fromFormula at given
    dsimp only at given
    split at given
    next empty =>
      obtain ⟨rfl, rfl, rfl⟩ := gives_pure.1 given
      exact (Finds.unwritten asked (by simp [hasFormula, written, empty])).found_nothing
    next empty =>
      obtain ⟨rfl, rfl, rfl⟩ := gather_gives (gives_note_bind.1 given)
      exact ⟨_, _, .parsed asked written empty, rfl, noting_noting _ _ _⟩

theorem sheet_of_read? {address home : String} {cell : Cell}
    (read : Cell.read? address home = some cell) :
    cell.sheet = (separate address).1.getD home := by
  unfold Cell.read? at read
  dsimp only at read
  split at read
  · cases read
  · obtain ⟨first, _, read⟩ := Option.bind_eq_some_iff.1 read
    obtain ⟨place, _, read⟩ := Option.bind_eq_some_iff.1 read
    cases read
    rfl

theorem fromInventory_found {snapshot : Snapshot} {children : List String} {between : σ}
    (asked : Gives (indexed source .dependents snapshot.address) progress state none progress
      between)
    (given : Gives (fromInventory source limits snapshot.address)
      { progress with usedFormulas := true } between children later after) :
    Found source limits snapshot .dependents progress state children later after := by
  unfold fromInventory at given
  cases place : Cell.read? snapshot.address "" with
  | none =>
    rw [place] at given
    obtain ⟨rfl, rfl, rfl⟩ := gives_pure.1 given
    exact (Finds.unplaced asked place).found_nothing
  | some target =>
    rw [place] at given
    have home : target.sheet = snapshot.home := sheet_of_read? place
    obtain ⟨candidates, middle, beyond, inventoried, given⟩ := gives_bind.1 given
    rw [home] at given
    obtain ⟨rfl, rfl, rfl⟩ := gather_gives given
    have inventoried := gives_get_bind.1 inventoried
    split at inventoried
    next held known =>
      obtain ⟨rfl, rfl, rfl⟩ := gives_pure.1 inventoried
      exact ⟨_, _, .held asked place known, rfl, rfl⟩
    next unknown =>
      obtain ⟨taken, further, deep, took, rest⟩ := gives_bind.1 inventoried
      obtain ⟨guarded, rfl⟩ := gives_lift.1 took
      have rest := gives_note_bind.1 (gives_modify_bind.1 rest)
      obtain ⟨rfl, rfl, rfl⟩ := gives_pure.1 rest
      exact ⟨_, _, .taken asked place unknown (Reading.gives_guard guarded), rfl, rfl⟩

theorem below_found {snapshot : Snapshot} {children : List String}
    (given : Gives (below source limits mode snapshot) progress state children later after) :
    Found source limits snapshot mode progress state children later after := by
  obtain ⟨answer, middle, between, asked, rest⟩ := gives_bind.1 given
  have kept : progress = middle := by
    cases mode <;> exact (gives_lift.1 asked).2
  subst kept
  cases answer with
  | some groups =>
    obtain ⟨rfl, rfl, rfl⟩ := gather_gives (gives_modify_bind.1 rest)
    exact ⟨_, _, .told asked, rfl, rfl⟩
  | none =>
    have rest := gives_modify_bind.1 rest
    cases mode with
    | precedents => exact fromFormula_found asked rest
    | dependents => exact fromInventory_found asked rest

/-- What a walk may do at a cell: nothing new, or leave it without a formula, or go on below it. -/
theorem visit_gives {depth : Nat} {address : String} {result : Option Node}
    (given : Gives (visit source limits mode depth address) progress state result later after) :
    ∃ snapshot between, (source.readCell address).Gives state snapshot between ∧
      (snapshot.address ∈ progress.visited ∧ result = some (circular snapshot) ∧ later = progress ∧
        after = between ∨ snapshot.address ∉ progress.visited ∧
          (mode = .precedents ∧ hasFormula snapshot = false ∧ result = none ∧
              later = progress.enter snapshot.address ∧ after = between ∨
            (mode = .precedents → hasFormula snapshot = true) ∧
              ∃ children, result = some (snapshot.node snapshot.formula children) ∧
                Gives (descend source limits mode depth snapshot)
                  (progress.enter snapshot.address) between children later after)) := by
  rw [visit_eq] at given
  obtain ⟨arrival, middle, between, arrived, rest⟩ := gives_bind.1 given
  obtain ⟨snapshot, guarded, cases⟩ := arrive_gives arrived
  refine ⟨snapshot, between, Reading.gives_guard guarded, ?_⟩
  rcases cases with ⟨old, rfl, rfl⟩ | ⟨new, rfl, rfl⟩
  · obtain ⟨rfl, rfl, rfl⟩ := gives_pure.1 rest
    exact .inl ⟨old, rfl, rfl, rfl⟩
  · refine .inr ⟨new, ?_⟩
    split at rest
    next constant =>
      obtain ⟨rfl, rfl, rfl⟩ := gives_pure.1 rest
      exact .inl ⟨constant.1, by simpa using constant.2, rfl, rfl, rfl⟩
    next follows =>
      obtain ⟨children, further, beyond, descended, rest⟩ := gives_bind.1 rest
      obtain ⟨rfl, rfl, rfl⟩ := gives_pure.1 rest
      exact .inr ⟨by simpa using follows, children, rfl, descended⟩

theorem leaf_gives {address : String} {node : Node}
    (given : Gives (leaf source address) progress state node later after) :
    ∃ snapshot, (source.readCell address).Gives state snapshot after ∧
      node = snapshot.node snapshot.formula [] ∧ later = progress := by
  obtain ⟨snapshot, middle, between, reading, rest⟩ := gives_bind.1 given
  obtain ⟨found, rfl⟩ := gives_read reading
  obtain ⟨rfl, rfl, rfl⟩ := gives_pure.1 rest
  exact ⟨snapshot, found, rfl, rfl⟩

def Placed (source : Source σ) (limits : Limits) (mode : Mode) (depth : Nat) : Prop :=
  ∀ {address : String} {snapshot : Snapshot} {progress middle later : Progress}
    {state between beyond after : σ}
    {children : List Node} {rest : List String} {stops : List Stop} {nodes : List Node},
    (source.readCell address).Gives state snapshot between → snapshot.address ∉ progress.visited →
    (mode = .precedents → hasFormula snapshot = true) →
    Gives (descend source limits mode depth snapshot)
      (progress.enter snapshot.address) between children middle beyond →
    Course source limits mode depth rest middle beyond stops nodes later after →
    ∃ all, Course source limits mode depth (address :: rest) progress state all
      (snapshot.node snapshot.formula children :: nodes) later after

theorem mapM_course {depth : Nat} (placed : Placed source limits mode depth)
    (addresses : List String) {nodes : List Node}
    (given : Gives (addresses.mapM (child source limits mode depth)) progress state nodes later
      after) :
    ∃ stops, Course source limits mode depth addresses progress state stops nodes later after := by
  induction addresses generalizing progress state nodes with
  | nil =>
    rw [List.mapM_nil] at given
    obtain ⟨rfl, rfl, rfl⟩ := gives_pure.1 given
    exact ⟨[], .done⟩
  | cons address rest ih =>
    rw [List.mapM_cons] at given
    obtain ⟨node, middle, between, first, given⟩ := gives_bind.1 given
    obtain ⟨others, further, beyond, second, given⟩ := gives_bind.1 given
    obtain ⟨rfl, rfl, rfl⟩ := gives_pure.1 given
    obtain ⟨stops, course⟩ := ih second
    obtain ⟨visited, entered, place, visiting, made⟩ := gives_bind.1 first
    obtain ⟨snapshot, start, reads, cases⟩ := visit_gives visiting
    rcases cases with ⟨old, rfl, rfl, rfl⟩ | ⟨new,
      ⟨direction, bare, rfl, rfl, rfl⟩ | ⟨follows, children, rfl, descended⟩⟩
    · obtain ⟨rfl, rfl, rfl⟩ := gives_pure.1 made
      exact ⟨_, .again reads old course⟩
    · obtain ⟨shown, shows, rfl, rfl⟩ := leaf_gives made
      exact ⟨_, .constant reads new direction bare shows course⟩
    · obtain ⟨rfl, rfl, rfl⟩ := gives_pure.1 made
      exact placed reads new follows descended course

theorem placed_zero : Placed source limits mode 0 := by
  intro address snapshot progress middle later state between beyond after children rest stops nodes
    reads new follows descended course
  obtain ⟨rfl, rfl, rfl⟩ := gives_pure.1 descended
  exact ⟨_, .last reads new follows course⟩

theorem placed_succ {depth : Nat} (placed : Placed source limits mode depth) :
    Placed source limits mode (depth + 1) := by
  intro address snapshot progress middle later state between beyond after children rest stops nodes
    reads new follows descended course
  obtain ⟨addresses, found, deep, searched, walked⟩ := gives_bind.1 descended
  obtain ⟨finding, known, finds, rfl, rfl⟩ := below_found searched
  obtain ⟨inner, below⟩ := mapM_course placed _ walked
  exact ⟨_, .expanded reads new follows finds below course⟩

theorem placed (depth : Nat) : Placed source limits mode depth := by
  induction depth with
  | zero => exact placed_zero
  | succ depth ih => exact placed_succ ih

end Walk

theorem Mode.name_injective {first second : Mode} (same : first.name = second.name) :
    first = second := by
  cases first <;> cases second
  · rfl
  · exact absurd same (by decide)
  · exact absurd same (by decide)
  · rfl

namespace Trace

open Reading

/-- The course of a trace from a cell.  A trace of precedents of a cell without a formula stops at
once. -/
inductive Course (source : Source σ) (limits : Limits) (address : String) (state : σ) :
    Trace → List Stop → σ → Prop where
  | bare {trace : Trace} {snapshot : Snapshot} {after : σ}
      (reads : (source.readCell address).Gives state snapshot after)
      (follows : trace.mode = .precedents) (bare : Walk.hasFormula snapshot = false)
        (rootless : trace.root = none)
      (whole : trace.truncated = false) : Course source limits address state trace [] after
  | rooted {trace : Trace} {root : Node} {stops : List Stop} {progress : Progress} {after : σ}
      (walked : Walk.Course source limits trace.mode trace.maxDepth.toNat [address]
        {} state stops [root] progress after)
      (rooted : trace.root = some root) (truncated : trace.truncated = progress.truncated) :
      Course source limits address state trace stops after

variable {source : Source σ} {limits : Limits} {target : Target} {state after : σ} {trace : Trace}

theorem run_course {mode : Mode} {asked : Option Int}
    (given : Gives (run source limits target mode asked) state trace after) :
    ∃ address stops, target.address = .ok address ∧ trace.mode = mode ∧
      trace.maxDepth = limits.boundDepth asked ∧
      Course source limits address state trace stops after := by
  obtain ⟨address, middle, resolved, rest⟩ := gives_bind.1 given
  obtain ⟨place, rfl⟩ := gives_ofExcept.1 resolved
  obtain ⟨⟨root, progress⟩, between, visited, rest⟩ := gives_bind.1 rest
  cases rest
  obtain ⟨snapshot, start, reads, cases⟩ := Walk.visit_gives visited
  rcases cases with ⟨old, _⟩ | ⟨new,
    ⟨direction, bare, rfl, rfl, rfl⟩ | ⟨follows, children, rfl, descended⟩⟩
  · cases old
  · exact ⟨address, [], place, rfl, rfl, .bare reads direction bare rfl rfl⟩
  · obtain ⟨stops, walked⟩ := Walk.placed _ reads new follows descended .done
    exact ⟨address, stops, place, rfl, rfl, .rooted walked rfl rfl⟩

theorem request_course {mode : Option String} {depth : Value}
    (given : Gives (request source limits target mode depth) state trace after) :
    ∃ address stops, target.address = .ok address ∧ mode = some trace.mode.name ∧
      Course source limits address state trace stops after := by
  obtain ⟨direction, asked, named, _, given⟩ := request_gives given
  obtain ⟨address, stops, place, rfl, _, course⟩ := run_course given
  refine ⟨address, stops, place, ?_, course⟩
  unfold Mode.read at named
  split at named
  next same => rw [← Except.ok.inj named]; exact same
  next =>
    split at named
    next same => rw [← Except.ok.inj named]; exact same
    next => cases named

end Trace

end FormulaTrace
