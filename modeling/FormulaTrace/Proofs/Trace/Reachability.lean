import FormulaTrace.Proofs.Trace.Stops
import FormulaTrace.Proofs.Trace.Truncation
import Mathlib.Logic.Relation

/-! The cells that a trace reaches.
A walk without truncation is closed under the steps from a cell to those below it, except from the
cells for which no depth was left. -/
namespace FormulaTrace

open Relation

variable {σ : Type}

/-- Two addresses of one cell tell the same of it. -/
def Coherent (cells : String → Snapshot) : Prop :=
  ∀ first second, (cells first).address = (cells second).address → cells first = cells second

/-- What a cell leads to, as far as its own formula does not say: the answers of an index, and the
formulas that an inventory lists. -/
structure Account where
  told : String → Option (List (List String))
  candidates : List Candidate

namespace Account

def below (account : Account) (mode : Mode) (snapshot : Snapshot) : List String :=
  match account.told snapshot.address with
  | some groups => groups.flatten
  | none =>
    match mode with
    | .precedents =>
      (Formula.references (snapshot.formula.getD "") snapshot.home).map Area.anchorAddress
    | .dependents =>
      match Cell.read? snapshot.address "" with
      | some target =>
        (account.candidates.filter fun candidate =>
          Formula.anyContains candidate.references target).map Candidate.address
      | none => []

def Leads (account : Account) (cells : String → Snapshot) (mode : Mode) (first second : String) :
    Prop :=
  ∃ address, (cells address).address = first ∧
    (mode = .precedents → Walk.hasFormula (cells address) = true) ∧
    ∃ child ∈ (cells address).distinct (account.below mode (cells address)),
      (cells child).address = second

/-- Whether an account says of a cell what a walk found out. -/
def Agrees (account : Account) (snapshot : Snapshot) : Finding → Prop
  | .told groups => account.told snapshot.address = some groups
  | .listed _ candidates _ => account.told snapshot.address = none ∧ account.candidates = candidates
  | _ => account.told snapshot.address = none

def Fits (account : Account) (stops : List Stop) : Prop :=
  ∀ snapshot finding, .expanded snapshot finding ∈ stops → account.Agrees snapshot finding

end Account

namespace Stop

def answer? (address : String) : Stop → Option (List (List String))
  | expanded snapshot (.told groups) => if snapshot.address = address then some groups else none
  | _ => none

/-- No depth was left for a cell when a walk first came to it. -/
def AtLimit (stops : List Stop) (address : String) : Prop :=
  ∃ snapshot, last snapshot ∈ stops ∧ snapshot.address = address

/-- A step from a cell that was expanded to one that a walk went to for it. -/
def Steps (cells : String → Snapshot) (limits : Limits) (stops : List Stop)
    (first second : String) : Prop :=
  ∃ snapshot finding, expanded snapshot finding ∈ stops ∧ snapshot.address = first ∧
    ∃ child ∈ snapshot.requested limits finding, (cells child).address = second

theorem Steps.mono {cells : String → Snapshot} {limits : Limits} {stops others : List Stop}
    (fewer : stops ⊆ others)
    {first second : String} (steps : Steps cells limits stops first second) :
    Steps cells limits others first second := by
  obtain ⟨snapshot, finding, member, rest⟩ := steps
  exact ⟨snapshot, finding, fewer member, rest⟩

def Reached (cells : String → Snapshot) (limits : Limits) (addresses : List String)
    (stops : List Stop) (stop : Stop) : Prop :=
  ∃ address ∈ addresses, ReflTransGen (Steps cells limits stops)
    (cells address).address stop.address

namespace Reached

variable {cells : String → Snapshot} {limits : Limits} {addresses : List String}
  {stops others : List Stop} {stop : Stop} {address : String}

theorem here (told : stop.address = (cells address).address) :
    stop.Reached cells limits (address :: addresses) stops :=
  ⟨address, List.mem_cons_self, told ▸ .refl⟩

theorem mono (fewer : stops ⊆ others) (reached : stop.Reached cells limits addresses stops) :
    stop.Reached cells limits (address :: addresses) others := by
  obtain ⟨first, among, path⟩ := reached
  exact ⟨first, List.mem_cons_of_mem _ among, path.lift id fun _ _ => Steps.mono fewer⟩

end Reached

theorem answer?_eq_some {address : String} {stop : Stop} {groups : List (List String)} :
    stop.answer? address = some groups ↔
      ∃ snapshot, stop = expanded snapshot (.told groups) ∧ snapshot.address = address := by
  unfold answer?
  split
  next snapshot told =>
    constructor
    · intro found
      obtain ⟨same, held⟩ := Option.ite_none_right_eq_some.1 found
      cases held
      exact ⟨snapshot, rfl, same⟩
    · rintro ⟨_, same, place⟩
      cases same
      exact if_pos place
  next other =>
    constructor
    · intro found
      cases found
    · rintro ⟨snapshot, rfl, _⟩
      exact absurd rfl (other snapshot groups)

end Stop

namespace Walk

variable {source : Source σ} {limits : Limits} {mode : Mode} {depth : Nat} {addresses : List String}
  {progress later : Progress} {state after : σ} {stops : List Stop} {nodes : List Node}

theorem Finds.addresses_eq {account : Account} {snapshot : Snapshot} {finding : Finding}
    (finds : Finds source limits snapshot mode progress state finding later after)
    (follows : mode = .precedents → hasFormula snapshot = true)
    (agrees : account.Agrees snapshot finding) :
    finding.addresses = account.below mode snapshot := by
  unfold Account.below
  cases finds with
  | told asked =>
    rw [show account.told snapshot.address = some _ from agrees]
    rfl
  | parsed asked written filled =>
    rw [show account.told snapshot.address = none from agrees, written]
    rfl
  | held asked place known =>
    rw [agrees.1, agrees.2, place]
    rfl
  | taken asked place unknown took =>
    rw [agrees.1, agrees.2, place]
    rfl
  | unwritten asked bare => simp [follows rfl] at bare
  | unplaced asked unplaced =>
    rw [show account.told snapshot.address = none from agrees, unplaced]
    rfl

namespace Course

theorem exists_fits (course : Course source limits mode depth addresses {} state stops nodes later
    after) :
    ∃ account : Account, account.Fits stops := by
  refine ⟨⟨fun address => stops.findSome? (Stop.answer? address), later.candidates.getD []⟩, ?_⟩
  intro snapshot finding member
  -- A cell is expanded at one stop only, so that no other stop has an answer about it.
  have only : ∀ stop ∈ stops, ∀ groups, stop.answer? snapshot.address = some groups →
      finding = .told groups := by
    intro stop among groups answered
    obtain ⟨other, rfl, same⟩ := Stop.answer?_eq_some.1 answered
    have one := course.enters_once among rfl member rfl same
    injection one with _ found
    exact found.symm
  have untold (other : ∀ groups, finding ≠ .told groups) :
      stops.findSome? (Stop.answer? snapshot.address) = none := by
    rw [List.findSome?_eq_none_iff]
    intro stop among
    rw [Option.eq_none_iff_forall_ne_some]
    exact fun groups answered => other groups (only stop among groups answered)
  cases finding with
  | told groups =>
    change stops.findSome? (Stop.answer? snapshot.address) = some groups
    have answered : ∃ stop ∈ stops, (stop.answer? snapshot.address).isSome = true :=
      ⟨_, member, by simp [Stop.answer?]⟩
    obtain ⟨told, found⟩ := Option.isSome_iff_exists.1 (List.findSome?_isSome_iff.2 answered)
    obtain ⟨stop, among, answer⟩ := List.exists_of_findSome?_eq_some found
    rw [found]
    injection only stop among told answer with same
    rw [same]
  | parsed areas => exact untold (by simp)
  | listed target candidates taken =>
    refine ⟨untold (by simp), ?_⟩
    cases course.stands _ member with
    | expanded reads follows finds descends among kept =>
      have known := finds.listed
      change later.candidates.getD [] = candidates
      rw [(kept (by simp [known])).1, known]
      rfl
  | nothing => exact untold (by simp)

section Table

variable {cells : String → Snapshot} (reads : source.ReadsFrom cells)
include reads

theorem reached (course : Course source limits mode depth addresses progress state stops nodes later
    after) :
    ∀ stop ∈ stops, stop.Reached cells limits addresses stops := by
  induction course with
  | done => simp
  | again told old further ih =>
    obtain rfl := reads _ _ _ _ told
    exact List.forall_mem_cons.2
      ⟨.here rfl, fun stop member => (ih stop member).mono (List.subset_cons_self _ _)⟩
  | constant told new follows bare shows further ih =>
    obtain rfl := reads _ _ _ _ told
    exact List.forall_mem_cons.2
      ⟨.here rfl, fun stop member => (ih stop member).mono (List.subset_cons_self _ _)⟩
  | last told new follows further ih =>
    obtain rfl := reads _ _ _ _ told
    exact List.forall_mem_cons.2
      ⟨.here rfl, fun stop member => (ih stop member).mono (List.subset_cons_self _ _)⟩
  | expanded told new follows finds descends further inner ih =>
    obtain rfl := reads _ _ _ _ told
    refine List.forall_mem_cons.2
      ⟨.here rfl, List.forall_mem_append.2 ⟨fun stop member => ?_, fun stop member => ?_⟩⟩
    · obtain ⟨child, requested, path⟩ := inner stop member
      refine ⟨_, List.mem_cons_self,
        .head ?_ (path.lift id fun _ _ => Stop.Steps.mono (Stop.subset_inner _ _ _))⟩
      exact ⟨_, _, List.mem_cons_self, rfl, child, requested, rfl⟩
    · exact (ih stop member).mono (Stop.subset_further _ _ _)

theorem last_atDepth (unmarked : ∀ address, (cells address).formula ≠ some circularMark)
    (course : Course source limits mode depth addresses progress state stops nodes later after) :
    ∀ snapshot, .last snapshot ∈ stops → ∃ node ∈ nodes.flatMap (Node.atDepth depth),
      node.isCircular = false := by
  induction course with
  | done => simp
  | again told old further ih =>
    intro snapshot member
    obtain ⟨node, deep, plain⟩ := ih snapshot (by simpa using member)
    exact ⟨node, List.mem_append_right _ deep, plain⟩
  | constant told new follows bare shows further ih =>
    intro snapshot member
    obtain ⟨node, deep, plain⟩ := ih snapshot (by simpa using member)
    exact ⟨node, List.mem_append_right _ deep, plain⟩
  | @last address _ _ _ _ _ _ _ _ _ told new follows further ih =>
    intro snapshot member
    obtain rfl := reads _ _ _ _ told
    exact ⟨_, List.mem_cons_self, decide_eq_false (unmarked address)⟩
  | expanded told new follows finds descends further inner ih =>
    intro snapshot member
    rcases List.mem_append.1 (List.mem_of_ne_of_mem (by simp) member) with below | beside
    · obtain ⟨node, deep, plain⟩ := inner snapshot below
      exact ⟨node, List.mem_append_left _ deep, plain⟩
    · obtain ⟨node, deep, plain⟩ := ih snapshot beside
      exact ⟨node, List.mem_append_right _ deep, plain⟩

variable {account : Account} (coherent : Coherent cells)

theorem leads_of_steps
    (course : Course source limits mode depth addresses {} state stops nodes later after)
    (fits : account.Fits stops) (whole : stops.any (Stop.cuts limits) = false)
    {first second : String} (steps : Stop.Steps cells limits stops first second) :
    account.Leads cells mode first second ∧ ¬ Stop.AtLimit stops first := by
  obtain ⟨snapshot, finding, member, rfl, child, requested, rfl⟩ := steps
  cases course.stands _ member with
  | @expanded address _ _ _ _ _ _ _ _ _ _ _ _ told follows finds descends among kept =>
    rw [Stop.requested_eq whole member,
      finds.addresses_eq follows (fits snapshot finding member)] at requested
    obtain rfl := reads _ _ _ _ told
    refine ⟨⟨address, rfl, follows, child, requested, rfl⟩, ?_⟩
    rintro ⟨other, ended, same⟩
    cases course.enters_once ended rfl member rfl same

include coherent

/-- A walk goes to all cells below a cell that it came to, if there was depth left for it. -/
theorem leads_stop
    (course : Course source limits mode depth addresses {} state stops nodes later after)
    (fits : account.Fits stops) (whole : stops.any (Stop.cuts limits) = false)
    {first second : String} (member : first ∈ stops.map Stop.address)
    (leads : account.Leads cells mode first second) (deeper : ¬ Stop.AtLimit stops first) :
    second ∈ stops.map Stop.address := by
  obtain ⟨address, place, follows, child, below, rfl⟩ := leads
  -- The cell may have come up again at this stop; what counts is the one where it was entered.
  obtain ⟨stop, among, enters, same⟩ := course.exists_enters member
  cases course.stands stop among with
  | again told => cases enters
  | constant told direction bare =>
    obtain rfl := reads _ _ _ _ told
    rw [coherent _ _ (same.trans place.symm), follows direction] at bare
    cases bare
  | last told => exact absurd ⟨_, among, same⟩ deeper
  | expanded told _ finds descends within kept =>
    obtain rfl := reads _ _ _ _ told
    have one := coherent _ _ (same.trans place.symm)
    have requested := Stop.requested_eq whole among
    rw [finds.addresses_eq (one ▸ follows) (fits _ _ among), one] at requested
    rw [one, requested] at descends
    exact List.map_subset _ within (descends.arrives reads (List.mem_map_of_mem below))

/-- The cells that a walk comes to are those reached by steps from cells for which there was depth
left. -/
theorem mem_stops_iff {start : String}
    (course : Course source limits mode depth [start] {} state stops nodes later after)
    (fits : account.Fits stops) (whole : stops.any (Stop.cuts limits) = false) {address : String} :
    address ∈ stops.map Stop.address ↔
      ReflTransGen (fun first second => account.Leads cells mode first second ∧
        ¬ Stop.AtLimit stops first) (cells start).address address := by
  constructor
  · intro member
    obtain ⟨stop, among, rfl⟩ := List.mem_map.1 member
    obtain ⟨first, same, path⟩ := course.reached reads stop among
    rw [List.mem_singleton.1 same] at path
    exact path.lift id fun _ _ steps => course.leads_of_steps reads fits whole steps
  · intro path
    induction path with
    | refl => exact course.arrives reads List.mem_cons_self
    | tail further step ih => exact course.leads_stop reads coherent fits whole ih step.1 step.2

end Table

end Course

end Walk

namespace Script

def told (script : Script) (address : String) : Snapshot :=
  (script.cells.lookup address).getD (unlisted address)

theorem told_address {script : Script} (named : ∀ entry ∈ script.cells, entry.2.address = entry.1)
    (address : String) : (script.told address).address = address := by
  unfold told
  cases found : script.cells.lookup address with
  | none => rfl
  | some snapshot =>
    obtain ⟨before, after, parts, _⟩ := List.lookup_eq_some_iff.1 found
    exact named (address, snapshot) (by simp [parts])

theorem coherent {script : Script} (named : ∀ entry ∈ script.cells, entry.2.address = entry.1) :
    Coherent script.told := by
  intro first second same
  rw [told_address named, told_address named] at same
  rw [same]

end Script

namespace Trace

open Reading

variable {source : Source σ} {limits : Limits} {target : Target} {state after : σ} {trace : Trace}
  {start : String} {stops : List Stop} {root : Node} {cells : String → Snapshot}

theorem Course.exists_fits (course : Course source limits start state trace stops after) :
    ∃ account : Account, account.Fits stops := by
  cases course with
  | bare reads follows bare rootless whole => exact ⟨⟨fun _ => none, []⟩, by simp [Account.Fits]⟩
  | rooted walked rooted truncated => exact walked.exists_fits

/-- The addresses in a tree without truncation are those that steps lead to from its root, past no
cell for which there was no depth left. -/
theorem Course.mem_tree_iff (reads : source.ReadsFrom cells) (coherent : Coherent cells)
    (course : Course source limits start state trace stops after) (rooted : trace.root = some root)
    (whole : trace.truncated = false) {account : Account} (fits : account.Fits stops)
    {address : String} :
    address ∈ root.preorder.map Node.address ↔
      ReflTransGen (fun first second => account.Leads cells trace.mode first second ∧
        ¬ Stop.AtLimit stops first) root.address address := by
  rw [course.truncated_eq] at whole
  cases course with
  | bare told follows bare rootless => simp [rootless] at rooted
  | @rooted tree walk progress _ walked given truncated =>
    obtain rfl : tree = root := Option.some.inj (given.symm.trans rooted)
    have named : tree.address = (cells start).address := walked.root_address reads
    have listed : tree.preorder.map Node.address = stops.map Stop.address := by
      simpa [Node.preorderAll] using walked.preorder_addresses reads
    rw [named, listed]
    exact walked.mem_stops_iff reads coherent fits whole

/-- If all nodes at the greatest depth mark cells that are already in the tree, there was depth left
for every cell. -/
theorem Course.not_atLimit (reads : source.ReadsFrom cells)
    (unmarked : ∀ address, (cells address).formula ≠ some circularMark)
    (course : Course source limits start state trace stops after) (rooted : trace.root = some root)
    (shallow : ∀ node ∈ root.atDepth trace.maxDepth.toNat, node.isCircular = true)
    (address : String) :
    ¬ Stop.AtLimit stops address := by
  rintro ⟨snapshot, ended, _⟩
  cases course with
  | bare told follows bare rootless => cases ended
  | @rooted tree walk progress _ walked given truncated =>
    obtain rfl : tree = root := Option.some.inj (given.symm.trans rooted)
    obtain ⟨node, deep, plain⟩ := walked.last_atDepth reads unmarked snapshot ended
    rw [shallow node (by simpa using deep)] at plain
    cases plain

/-- A trace without truncation loses no cell but behind those for which no depth was left when it
first came to them. -/
theorem request_mem_tree_iff (reads : source.ReadsFrom cells) (coherent : Coherent cells)
    {mode : Option String} {depth : Value}
    (given : Gives (request source limits target mode depth) state trace after)
    (rooted : trace.root = some root) (whole : trace.truncated = false) :
    ∃ start stops, target.address = .ok start ∧ Course source limits start state trace stops after ∧
      (∃ account : Account, account.Fits stops) ∧
      ∀ account : Account, account.Fits stops → ∀ address,
        (address ∈ root.preorder.map Node.address ↔
          ReflTransGen
            (fun first second => account.Leads cells trace.mode first second ∧
              ¬ Stop.AtLimit stops first)
            root.address address) := by
  obtain ⟨start, stops, place, _, course⟩ := request_course given
  exact ⟨start, stops, place, course, course.exists_fits, fun account fits address =>
    course.mem_tree_iff reads coherent rooted whole fits⟩

/-- A trace without truncation whose deepest nodes only mark cells that are already in the tree
holds exactly the cells that steps lead to from its root. -/
theorem request_mem_tree_iff_of_shallow (reads : source.ReadsFrom cells) (coherent : Coherent cells)
    (unmarked : ∀ address, (cells address).formula ≠ some circularMark) {mode : Option String}
    {depth : Value} (given : Gives (request source limits target mode depth) state trace after)
    (rooted : trace.root = some root) (whole : trace.truncated = false)
    (shallow : ∀ node ∈ root.atDepth trace.maxDepth.toNat, node.isCircular = true) :
    ∃ start stops, target.address = .ok start ∧ Course source limits start state trace stops after ∧
      (∃ account : Account, account.Fits stops) ∧
      ∀ account : Account, account.Fits stops → ∀ address,
        (address ∈ root.preorder.map Node.address ↔
          ReflTransGen (account.Leads cells trace.mode) root.address address) := by
  obtain ⟨start, stops, place, _, course⟩ := request_course given
  refine ⟨start, stops, place, course, course.exists_fits, fun account fits address => ?_⟩
  rw [course.mem_tree_iff reads coherent rooted whole fits]
  constructor
  · intro path
    exact path.lift id fun _ _ step => step.1
  · intro path
    exact path.lift id fun first _ step =>
      ⟨step, course.not_atLimit reads unmarked rooted shallow first⟩

theorem request_mem_tree_iff_of_shallow_ring :
    ∃ trace root after,
      Gives (request Script.ring.source {} (.text "S!A1") (some "precedents") (.int 5))
        Script.ring.start trace after ∧
      trace.root = some root ∧ trace.truncated = false ∧
      (∀ node ∈ root.atDepth trace.maxDepth.toNat, node.isCircular = true) ∧
      ∃ start stops, (Target.text "S!A1").address = .ok start ∧
        Course Script.ring.source {} start Script.ring.start trace stops after ∧
        (∃ account : Account, account.Fits stops) ∧
        ∀ account : Account, account.Fits stops → ∀ address,
          (address ∈ root.preorder.map Node.address ↔
            ReflTransGen (account.Leads Script.ring.told trace.mode) root.address address) := by
  obtain ⟨trace, after, given, found⟩ := exists_gives
    (show (((request Script.ring.source {} (.text "S!A1") (some "precedents") (.int 5)).run.run
      Script.ring.start).1.toOption.any fun trace =>
        trace.root.any (fun root => (root.atDepth trace.maxDepth.toNat).all Node.isCircular) &&
          !trace.truncated) = true by
      decide +kernel)
  obtain ⟨tree, whole⟩ := Bool.and_eq_true_iff.1 found
  obtain ⟨root, rooted, shallow⟩ := (Option.any_eq_true _ _).1 tree
  have whole : trace.truncated = false := by simpa using whole
  have shallow : ∀ node ∈ root.atDepth trace.maxDepth.toNat, node.isCircular = true :=
    List.all_eq_true.1 shallow
  exact ⟨trace, root, after, given, rooted, whole, shallow,
    request_mem_tree_iff_of_shallow Script.ring.readsFrom (Script.coherent (by decide))
      (Script.unmarked (by decide)) given rooted whole shallow⟩

end Trace

namespace Script

def account (script : Script) : Account :=
  ⟨fun address => (script.precedents.lookup address).join, []⟩

theorem indexed_precedents {script : Script} {address : String} {progress later : Progress}
    {state after : State} {answer : Option (List (List String))}
    (asked : Walk.Gives (Walk.indexed script.source .precedents address) progress state answer later
      after) :
    answer = script.account.told address := by
  exact answer_gives (Reading.gives_guard (Walk.gives_lift.1 asked).1)

theorem account_fits {script : Script} {limits : Limits} {start : String} {state after : State}
    {trace : Trace} {stops : List Stop}
    (course : Trace.Course script.source limits start state trace stops after)
    (direction : trace.mode = .precedents) : script.account.Fits stops := by
  intro snapshot finding member
  cases course with
  | bare reads follows bare rootless whole => cases member
  | rooted walked rooted truncated =>
    rw [direction] at walked
    cases walked.stands _ member with
    | expanded reads follows finds descends among kept =>
      cases finds with
      | told asked => exact (indexed_precedents asked).symm
      | parsed asked written filled => exact (indexed_precedents asked).symm
      | unwritten asked bare => exact (indexed_precedents asked).symm

/-- A chain of formulas with a second way to its middle, past which nothing is found from a depth of
two. -/
def shortcut : Script where
  cells := [
    ("S!A1", ⟨.int 4, some "=B1+C1", none, "S!A1"⟩),
    ("S!B1", ⟨.int 2, some "=C1", none, "S!B1"⟩),
    ("S!C1", ⟨.int 2, some "=D1", none, "S!C1"⟩),
    ("S!D1", ⟨.int 2, none, none, "S!D1"⟩)]
  sheets := []
  ranges := []
  precedents := []
  dependents := []
  failures := []
  cancelAfter := none

end Script

namespace Trace

open Script

theorem request_mem_tree_iff_shortcut :
    ∃ trace root after,
      Reading.Gives (request shortcut.source {} (.text "S!A1") (some "precedents") (.int 2))
        shortcut.start trace after ∧
      trace.root = some root ∧ trace.truncated = false ∧
      ∃ start stops, (Target.text "S!A1").address = .ok start ∧
        Course shortcut.source {} start shortcut.start trace stops after ∧
        (∃ account : Account, account.Fits stops) ∧
        ∀ account : Account, account.Fits stops → ∀ address,
          (address ∈ root.preorder.map Node.address ↔
            ReflTransGen
              (fun first second => account.Leads shortcut.told trace.mode first second ∧
                ¬ Stop.AtLimit stops first)
              root.address address) := by
  obtain ⟨trace, after, given, found⟩ := Reading.exists_gives
    (show (((request shortcut.source {} (.text "S!A1") (some "precedents") (.int 2)).run.run
      shortcut.start).1.toOption.any fun trace => trace.root.isSome && !trace.truncated) = true by
      decide +kernel)
  obtain ⟨rooted, whole⟩ := Bool.and_eq_true_iff.1 found
  obtain ⟨root, rooted⟩ := Option.isSome_iff_exists.1 rooted
  have whole : trace.truncated = false := by simpa using whole
  exact ⟨trace, root, after, given, rooted, whole,
    request_mem_tree_iff shortcut.readsFrom (Script.coherent (by decide)) given rooted whole⟩

/-- A cell that is two steps away from the root may be missing from a tree of depth two that is not
truncated. -/
theorem request_shortcut_loses :
    shortcut.source.ReadsFrom shortcut.told ∧ Coherent shortcut.told ∧
    ∃ trace root start stops after,
      Reading.Gives (request shortcut.source {} (.text "S!A1") (some "precedents") (.int 2))
        shortcut.start trace after ∧
      trace.root = some root ∧ trace.truncated = false ∧ trace.maxDepth = 2 ∧
      Course shortcut.source {} start shortcut.start trace stops after ∧
        shortcut.account.Fits stops ∧
      root.address = "S!A1" ∧ shortcut.account.Leads shortcut.told trace.mode "S!A1" "S!C1" ∧
      shortcut.account.Leads shortcut.told trace.mode "S!C1" "S!D1" ∧
      "S!D1" ∉ root.preorder.map Node.address := by
  refine ⟨shortcut.readsFrom, Script.coherent (by decide), ?_⟩
  obtain ⟨trace, after, given, found⟩ := Reading.exists_gives
    (show (((request shortcut.source {} (.text "S!A1") (some "precedents") (.int 2)).run.run
      shortcut.start).1.toOption.any fun trace =>
        trace.root.any (fun root => root.address = "S!A1" &&
        !(root.preorder.map Node.address).contains "S!D1") &&
          (!trace.truncated && trace.maxDepth = 2)) = true by
      decide +kernel)
  obtain ⟨tree, flags⟩ := Bool.and_eq_true_iff.1 found
  obtain ⟨root, rooted, tree⟩ := (Option.any_eq_true _ _).1 tree
  obtain ⟨start, stops, _, named, course⟩ := request_course given
  have direction : trace.mode = .precedents := Mode.name_injective (Option.some.inj named).symm
  refine ⟨trace, root, start, stops, after, given, rooted, ?_, ?_, course,
    account_fits course direction, ?_, ?_, ?_, ?_⟩
  · simpa using (Bool.and_eq_true_iff.1 flags).1
  · simpa using (Bool.and_eq_true_iff.1 flags).2
  · simpa using (Bool.and_eq_true_iff.1 tree).1
  · rw [direction]
    exact ⟨"S!A1", by decide, fun _ => by decide, "S!C1", by decide +kernel, by decide⟩
  · rw [direction]
    exact ⟨"S!C1", by decide, fun _ => by decide, "S!D1", by decide +kernel, by decide⟩
  · simpa using (Bool.and_eq_true_iff.1 tree).2

end Trace

end FormulaTrace
