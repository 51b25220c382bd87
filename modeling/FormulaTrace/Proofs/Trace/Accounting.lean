import FormulaTrace.Proofs.Trace.CallLog

/-! What a trace tells of its calls.
The counts of a trace, the questions that it asked and where it says its cells came from, read off
its tree and read off the record of its calls, are the same. -/
namespace FormulaTrace

variable {σ α : Type}

namespace Node

mutual

theorem edgeCount_succ : (root : Node) → root.edgeCount + 1 = root.nodeCount
  | .cell address value numberFormat formula children => by
    rw [edgeCount, nodeCount, edgeCountAll_add children, Nat.add_comm]

theorem edgeCountAll_add :
    (nodes : List Node) → nodes.length + edgeCountAll nodes = nodeCountAll nodes
  | [] => rfl
  | node :: rest => by
    rw [edgeCountAll, nodeCountAll, List.length_cons, ← edgeCount_succ node,
      ← edgeCountAll_add rest]
    omega

end

/-- The nodes fewer steps below a node than a number, each before those below it. -/
def above : Nat → Node → List Node
  | 0, _ => []
  | depth + 1, node => node :: node.children.flatMap (above depth)

def isBare (node : Node) : Bool := node.formula.getD "" = ""

def isFollowed (mode : Mode) (node : Node) : Bool :=
  !node.isCircular && (mode = .dependents || !node.isBare)

theorem filter_above_skip {mode : Mode} {node : Node} (ends : node.children = [])
    (left : node.isFollowed mode = false) (depth : Nat) (nodes : List Node) :
    ((node :: nodes).flatMap (above depth)).filter (isFollowed mode) =
      (nodes.flatMap (above depth)).filter (isFollowed mode) := by
  rw [List.flatMap_cons, List.filter_append]
  cases depth with
  | zero => rfl
  | succ depth => simp [above, ends, left]

theorem filter_above_cons {mode : Mode} {node : Node} (followed : node.isFollowed mode = true)
    (depth : Nat) (nodes : List Node) :
    ((node :: nodes).flatMap (above (depth + 1))).filter (isFollowed mode) =
      node :: ((node.children.flatMap (above depth)).filter (isFollowed mode) ++
        (nodes.flatMap (above (depth + 1))).filter (isFollowed mode)) := by
  simp [above, followed]

end Node

/-- What is told of the origin of cells is what an index answered. -/
inductive Origin.Reflects : Origin → List (Option α) → Prop where
  | none : Reflects .none []
  | index {answers : List (Option α)} (asked : answers ≠ [])
      (told : ∀ answer ∈ answers, answer.isSome = true) :
      Reflects .index answers
  | formulas {answers : List (Option α)} (asked : answers ≠ [])
      (silent : ∀ answer ∈ answers, answer.isNone = true) :
      Reflects .formulas answers
  | mixed {answers : List (Option α)} (told : ∃ answer ∈ answers, answer.isSome = true)
      (silent : ∃ answer ∈ answers, answer.isNone = true) : Reflects .mixed answers

theorem Origin.reflects_ofUse (answers : List (Option α)) :
    (ofUse (answers.any Option.isSome) (answers.any Option.isNone)).Reflects answers := by
  cases told : answers.any Option.isSome with
  | false =>
    have silent : ∀ answer ∈ answers, answer.isNone = true := by
      simpa using List.any_eq_false.1 told
    cases answers with
    | nil => exact .none
    | cons first rest =>
      rw [List.any_cons, silent first List.mem_cons_self]
      exact .formulas (List.cons_ne_nil _ _) silent
  | true =>
    obtain ⟨answer, inside, some⟩ := List.any_eq_true.1 told
    cases silent : answers.any Option.isNone with
    | false =>
      refine .index (List.ne_nil_of_mem inside) fun other among => ?_
      simpa [Option.isSome_iff_ne_none] using List.any_eq_false.1 silent other among
    | true => exact .mixed ⟨answer, inside, some⟩ (List.any_eq_true.1 silent)

namespace Stop

def isConstant : Stop → Bool
  | constant _ _ => true
  | _ => false

def queries (mode : Mode) : Stop → List Call
  | expanded snapshot _ => [mode.query snapshot.address]
  | _ => []

def tells : Stop → Bool
  | expanded _ finding => finding.tells
  | _ => false

def searches : Stop → Bool
  | expanded _ finding => !finding.tells
  | _ => false

def takes : Stop → Bool
  | expanded _ finding => finding.takes
  | _ => false

theorem length_takes_cons (stop : Stop) (stops : List Stop) :
    ((stop :: stops).filter takes).length = stop.takes.toNat + (stops.filter takes).length := by
  cases taken : stop.takes <;> simp [taken, Nat.add_comm]

section Asks

variable {index : IndexTable} {mode : Mode} {stop : Stop} {stops : List Stop} {log : List Call}
  {logs : List (List Call)}

theorem Asks.reads (asks : Asks index mode stop log) :
    (log.filter Call.readsCell).length = 1 + stop.isConstant.toNat := by
  cases asks with
  | asked address told held => cases mode <;> rfl
  | @scanned address snapshot target candidates inventory rest direction silent surveys =>
    rw [Call.filter_scan (fun _ => ⟨rfl, rfl⟩) surveys, direction]
    rfl
  | _ => rfl

theorem Asks.queries (asks : Asks index mode stop log) :
    log.filter Call.asksIndex = stop.queries mode := by
  cases asks with
  | asked address told held => cases mode <;> rfl
  | @scanned address snapshot target candidates inventory rest direction silent surveys =>
    rw [Call.filter_scan (fun _ => ⟨rfl, rfl⟩) surveys, direction]
    rfl
  | _ => rfl

theorem Asks.lists (asks : Asks index mode stop log) :
    (log.filter Call.listsSheets).length = stop.takes.toNat := by
  cases asks with
  | asked address told held =>
    change _ = (Finding.takes _).toNat
    rw [held]
    cases mode <;> rfl
  | @scanned address snapshot target candidates inventory rest direction silent surveys =>
    rw [Call.filter_scan (fun _ => ⟨rfl, rfl⟩) surveys, direction]
    rfl
  | _ => rfl

theorem Asks.told (asks : Asks index mode stop log) :
    ((stop.queries mode).filterMap (Call.told? index)).any Option.isSome = stop.tells ∧
      ((stop.queries mode).filterMap (Call.told? index)).any Option.isNone = stop.searches := by
  cases asks with
  | asked address told held =>
    rw [Stop.queries, Call.filterMap_told?_query, Stop.tells, Stop.searches, ← told]
    cases index mode _ <;> exact ⟨rfl, rfl⟩
  | scanned address direction silent surveys =>
    rw [Stop.queries, Call.filterMap_told?_query, silent]
    exact ⟨rfl, rfl⟩
  | _ => exact ⟨rfl, rfl⟩

theorem countP_reads (asks : List.Forall₂ (Asks index mode) stops logs) :
    logs.flatten.countP Call.readsCell = stops.length + stops.countP isConstant := by
  induction asks with
  | nil => rfl
  | @cons stop log stops logs head _ ih =>
    rw [List.flatten_cons, List.countP_append, ih, List.countP_eq_length_filter, head.reads,
      List.length_cons]
    cases constant : stop.isConstant <;> simp [constant] <;> omega

theorem filter_asksIndex (asks : List.Forall₂ (Asks index mode) stops logs) :
    logs.flatten.filter Call.asksIndex = stops.flatMap (queries mode) := by
  induction asks with
  | nil => rfl
  | cons head _ ih =>
    rw [List.flatten_cons, List.filter_append, ih, head.queries, List.flatMap_cons]

theorem any_told (asks : List.Forall₂ (Asks index mode) stops logs) :
    (logs.flatten.filterMap (Call.told? index)).any Option.isSome = stops.any tells ∧
      (logs.flatten.filterMap (Call.told? index)).any Option.isNone = stops.any searches := by
  rw [← Call.filterMap_told?, filter_asksIndex asks]
  induction asks with
  | nil => exact ⟨rfl, rfl⟩
  | cons head _ ih =>
    obtain ⟨told, silent⟩ := head.told
    rw [List.flatMap_cons, List.filterMap_append, List.any_append, List.any_append, told, silent,
      ih.1, ih.2]
    exact ⟨rfl, rfl⟩

theorem length_listsSheets (asks : List.Forall₂ (Asks index mode) stops logs) :
    (logs.flatten.filter Call.listsSheets).length = (stops.filter takes).length := by
  induction asks with
  | nil => rfl
  | cons head _ ih =>
    rw [List.flatten_cons, List.filter_append, List.length_append, ih, head.lists,
      length_takes_cons]

theorem Asks.sheetNames (asks : Asks index mode stop log) (listed : .sheetNames ∈ log) :
    mode = .dependents ∧ ∃ address, index .dependents address = none ∧
      [.dependents address, .sheetNames] <:+: log := by
  cases asks with
  | asked address told held => cases mode <;> simp [Mode.query] at listed
  | @scanned address snapshot target candidates inventory rest direction silent surveys =>
    subst direction
    exact ⟨rfl, snapshot.address, silent, [.readCell address], rest, rfl⟩
  | _ => simp at listed

theorem sheetNames_after_query (asks : List.Forall₂ (Asks index mode) stops logs)
    (listed : .sheetNames ∈ logs.flatten) :
    mode = .dependents ∧ ∃ address, index .dependents address = none ∧
      [.dependents address, .sheetNames] <:+: logs.flatten := by
  induction asks with
  | nil => cases listed
  | cons head _ ih =>
    rw [List.flatten_cons] at listed ⊢
    rcases List.mem_append.1 listed with here | later
    · obtain ⟨direction, address, silent, within⟩ := head.sheetNames here
      exact ⟨direction, address, silent, within.trans (List.prefix_append _ _).isInfix⟩
    · obtain ⟨direction, address, silent, within⟩ := ih later
      exact ⟨direction, address, silent, within.trans (List.suffix_append _ _).isInfix⟩

end Asks

structure Shown (mode : Mode) (stop : Stop) (node : Node) : Prop where
  address : node.address = stop.address
  circular : node.isCircular = !stop.enters
  constant : stop.isConstant = (decide (mode = .precedents) && (!node.isCircular && node.isBare))

theorem countP_constants {mode : Mode} {stops : List Stop} {nodes : List Node}
    (shown : List.Forall₂ (Shown mode) stops nodes) : stops.countP isConstant =
      if mode = .precedents then nodes.countP fun node => !node.isCircular && node.isBare
        else 0 := by
  induction shown with
  | nil => cases mode <;> rfl
  | cons head _ ih =>
    rw [List.countP_cons, List.countP_cons, ih, head.constant]
    cases mode <;> simp

theorem queries_sublist (mode : Mode) (stops : List Stop) :
    (stops.flatMap (queries mode)).Sublist
      (((stops.filter enters).map address).map mode.query) := by
  induction stops with
  | nil => exact .slnil
  | cons stop stops ih =>
    cases stop with
    | again snapshot => exact ih
    | constant snapshot shown => exact ih.cons _
    | last snapshot => exact ih.cons _
    | expanded snapshot finding => exact ih.cons_cons _

end Stop

namespace Walk

theorem isCircular_circular (snapshot : Snapshot) : (circular snapshot).isCircular = true :=
  decide_eq_true rfl

theorem isCircular_node {snapshot : Snapshot} (unmarked : snapshot.formula ≠ some circularMark)
    (children : List Node) :
    (snapshot.node snapshot.formula children).isCircular = false :=
  decide_eq_false unmarked

theorem isBare_node (snapshot : Snapshot) (children : List Node) :
    (snapshot.node snapshot.formula children).isBare = !hasFormula snapshot := by
  by_cases bare : snapshot.formula.getD "" = "" <;>
    simp [Node.isBare, Node.formula, Snapshot.node, hasFormula, bare]

theorem isFollowed_circular (mode : Mode) (snapshot : Snapshot) :
    (circular snapshot).isFollowed mode = false := by
  rw [Node.isFollowed, isCircular_circular]
  rfl

theorem isFollowed_bare {snapshot : Snapshot} (bare : hasFormula snapshot = false)
    (children : List Node) :
    (snapshot.node snapshot.formula children).isFollowed .precedents = false := by
  simp [Node.isFollowed, isBare_node, bare]

theorem isFollowed_node {mode : Mode} {snapshot : Snapshot}
    (unmarked : snapshot.formula ≠ some circularMark)
    (follows : mode = .precedents → hasFormula snapshot = true) (children : List Node) :
    (snapshot.node snapshot.formula children).isFollowed mode = true := by
  rw [Node.isFollowed, isCircular_node unmarked, isBare_node, Bool.not_not]
  cases mode with
  | precedents => exact follows rfl
  | dependents => rfl

theorem shown_again (mode : Mode) (snapshot : Snapshot) :
    Stop.Shown mode (.again snapshot) (circular snapshot) where
  address := rfl
  circular := isCircular_circular snapshot
  constant := by simp [Stop.isConstant, isCircular_circular]

theorem shown_constant {snapshot : Snapshot} (unmarked : snapshot.formula ≠ some circularMark)
    (bare : hasFormula snapshot = false) :
    Stop.Shown .precedents (.constant snapshot snapshot) (snapshot.node snapshot.formula []) where
  address := rfl
  circular := isCircular_node unmarked []
  constant := by simp [Stop.isConstant, isCircular_node unmarked, isBare_node, bare]

theorem shown_entered {mode : Mode} {snapshot : Snapshot}
    (unmarked : snapshot.formula ≠ some circularMark)
    (follows : mode = .precedents → hasFormula snapshot = true) (children : List Node) {stop : Stop}
    (place : stop.address = snapshot.address) (enters : stop.enters = true)
    (varies : stop.isConstant = false) :
    stop.Shown mode (snapshot.node snapshot.formula children) where
  address := place.symm
  circular := by rw [enters, isCircular_node unmarked]; rfl
  constant := by
    rw [varies, isBare_node]
    cases mode with
    | precedents => simp [follows rfl]
    | dependents => rfl

theorem Finds.candidates_isSome {source : Source σ} {limits : Limits} {snapshot : Snapshot}
    {mode : Mode} {progress later : Progress} {state after : σ} {finding : Finding}
    (finds : Finds source limits snapshot mode progress state finding later after) :
    finding.takes.toNat + progress.candidates.isSome.toNat = later.candidates.isSome.toNat := by
  cases finds with
  | taken asked place unknown took =>
    rw [unknown]
    rfl
  | _ => exact Nat.zero_add _

theorem Finds.used {source : Source σ} {limits : Limits} {snapshot : Snapshot} {mode : Mode}
    {progress later : Progress} {state after : σ} {finding : Finding}
    (finds : Finds source limits snapshot mode progress state finding later after) :
    later.usedIndex = (progress.usedIndex || finding.tells) ∧
      later.usedFormulas = (progress.usedFormulas || !finding.tells) := by
  cases finds <;> simp [Finding.tells]

namespace Course

variable {source : Source σ} {limits : Limits} {mode : Mode} {depth : Nat} {addresses : List String}
  {progress later : Progress} {state after : σ} {stops : List Stop} {nodes : List Node}

theorem length_takes (course : Course source limits mode depth addresses progress state stops nodes
    later after) :
    (stops.filter Stop.takes).length + progress.candidates.isSome.toNat =
      later.candidates.isSome.toNat := by
  induction course with
  | done => exact Nat.zero_add _
  | again reads old further ih => exact ih
  | constant reads new follows bare shows further ih => exact ih
  | last reads new follows further ih => exact ih
  | expanded reads new follows finds descends further inner ih =>
    have taken := finds.candidates_isSome
    rw [List.cons_append, Stop.length_takes_cons, List.filter_append, List.length_append]
    simp only [Stop.takes, Progress.enter, Progress.noting] at taken inner ⊢
    omega

theorem used (course : Course source limits mode depth addresses progress state stops nodes later
    after) :
    later.usedIndex = (progress.usedIndex || stops.any Stop.tells) ∧
      later.usedFormulas = (progress.usedFormulas || stops.any Stop.searches) := by
  induction course with
  | done => simp
  | again reads old further ih => exact ih
  | constant reads new follows bare shows further ih => exact ih
  | last reads new follows further ih => exact ih
  | expanded reads new follows finds descends further inner ih =>
    simp [ih, inner, finds.used, Stop.tells, Stop.searches, Progress.enter, Progress.noting,
      Bool.or_assoc]

theorem queries_nodup (course : Course source limits mode depth addresses {} state stops nodes later
    after) :
    (stops.flatMap (Stop.queries mode)).Nodup := by
  have differ := course.visited_nodup List.nodup_nil
  rw [course.visited_eq, List.append_nil, List.nodup_reverse] at differ
  exact (differ.map mode.query_injective).sublist (Stop.queries_sublist mode stops)

section Table

variable {cells : String → Snapshot} (reads : source.ReadsFrom cells)
  (unmarked : ∀ address, (cells address).formula ≠ some circularMark)
include reads unmarked

theorem shown (course : Course source limits mode depth addresses progress state stops nodes later
    after) :
    List.Forall₂ (Stop.Shown mode) stops (Node.preorderAll nodes) := by
  induction course with
  | done => exact .nil
  | again told old further ih => exact .cons (shown_again mode _) ih
  | constant told new follows bare shows further ih =>
    obtain rfl := reads _ _ _ _ told
    obtain rfl := reads _ _ _ _ shows
    subst follows
    exact .cons (shown_constant (unmarked _) bare) ih
  | last told new follows further ih =>
    obtain rfl := reads _ _ _ _ told
    exact .cons (shown_entered (unmarked _) follows [] rfl rfl rfl) ih
  | expanded told new follows finds descends further inner ih =>
    obtain rfl := reads _ _ _ _ told
    exact .cons (shown_entered (unmarked _) follows _ rfl rfl rfl) (List.rel_append inner ih)

/-- The index is asked about the nodes that a trace goes on below. -/
theorem queries_eq (course : Course source limits mode depth addresses progress state stops nodes
    later after) :
    stops.flatMap (Stop.queries mode) =
      ((nodes.flatMap (Node.above depth)).filter (Node.isFollowed mode)).map fun node =>
        mode.query node.address := by
  induction course with
  | done => rfl
  | again told old further ih =>
    exact ih.trans (congrArg (List.map _)
      (Node.filter_above_skip rfl (isFollowed_circular mode _) _ _).symm)
  | constant told new follows bare shows further ih =>
    obtain rfl := reads _ _ _ _ told
    obtain rfl := reads _ _ _ _ shows
    subst follows
    exact ih.trans (congrArg (List.map _)
      (Node.filter_above_skip rfl (isFollowed_bare bare []) _ _).symm)
  | last told new follows further ih =>
    -- Without depth left there are no nodes above the last level, and nothing is asked.
    exact ih
  | expanded told new follows finds descends further inner ih =>
    obtain rfl := reads _ _ _ _ told
    rw [Node.filter_above_cons (isFollowed_node (unmarked _) follows _), List.map_cons,
      List.map_append, ← ih, List.cons_append, List.flatMap_cons, List.flatMap_append, inner]
    rfl

end Table

end Course

end Walk

namespace Trace

open Reading

variable {source : Source σ} {limits : Limits} {target : Target} {mode : Option String}
  {depth : Value} {moment : Option Nat} {state : σ} {after : Recorded σ} {trace : Trace}
  {root : Node}

/-- The calls of a trace that finds a tree account for what it tells.  A cell is read once for every
node, and once more for a constant in a trace of precedents.  The index is asked about every node,
and about no cell twice, that is above the last level and that the trace goes on below.  The sheets
are asked for once at most, by a trace of dependents, and after a question that the index did not
answer.  Where the cells came from is what the index answered. -/
theorem request_accounts {cells : String → Snapshot} {index : IndexTable}
    (answers : source.AnswersFrom cells index)
    (unmarked : ∀ address, (cells address).formula ≠ some circularMark)
    (given : Gives (request (source.recorded moment) limits target mode depth) ⟨state, []⟩
      trace after) (rooted : trace.root = some root) :
    trace.nodeCount = root.preorder.length ∧ trace.edgeCount + 1 = trace.nodeCount ∧
    after.log.countP Call.readsCell = trace.nodeCount +
      (if trace.mode = .precedents then root.preorder.countP fun node =>
        !node.isCircular && node.isBare else 0) ∧
    after.log.filter Call.asksIndex =
      ((root.above trace.maxDepth.toNat).filter (Node.isFollowed trace.mode)).map
      (fun node => trace.mode.query node.address) ∧
    (after.log.filter Call.asksIndex).Nodup ∧
    after.log.countP Call.listsSheets ≤ 1 ∧
    (.sheetNames ∈ after.log → trace.mode = .dependents ∧
      ∃ address, index .dependents address = none ∧
      [.dependents address, .sheetNames] <:+: after.log) ∧
    trace.origin.Reflects (after.log.filterMap (Call.told? index)) ∧
    mode = some trace.mode.name := by
  obtain ⟨_, _, _, named, _⟩ := request_course given
  obtain ⟨address, bound, stops, progress, _, _, parts, walked⟩ := request_walked given rooted
  obtain ⟨logs, asks, logged⟩ := walked.exists_logs answers
  have log : after.log = logs.flatten := logged
  have shown := walked.shown (answers.recorded moment).reads unmarked
  have queries := walked.queries_eq (answers.recorded moment).reads unmarked
  rw [Node.preorderAll_singleton] at shown
  rw [List.flatMap_singleton] at queries
  have count : trace.nodeCount = root.preorder.length :=
    (congrArg nodeCount parts).trans root.nodeCount_eq
  have edges : trace.edgeCount = root.edgeCount := congrArg edgeCount parts
  refine ⟨count, ?_, ?_, ?_, ?_, ?_, ?_, ?_, named⟩
  · rw [edges, count, root.edgeCount_succ, root.nodeCount_eq]
  · rw [log, Stop.countP_reads asks, Stop.countP_constants shown, shown.length_eq, count]
  · rw [log, Stop.filter_asksIndex asks, queries]
  · rw [log, Stop.filter_asksIndex asks]
    exact walked.queries_nodup
  · have taken : (stops.filter Stop.takes).length + 0 = progress.candidates.isSome.toNat :=
      walked.length_takes
    have once := Bool.toNat_le progress.candidates.isSome
    rw [log, List.countP_eq_length_filter, Stop.length_listsSheets asks]
    omega
  · rw [log]
    exact Stop.sheetNames_after_query asks
  · have origin : trace.origin = .ofUse progress.usedIndex progress.usedFormulas :=
      congrArg Trace.origin parts
    obtain ⟨told, silent⟩ := Stop.any_told asks
    obtain ⟨usedIndex, usedFormulas⟩ := walked.used
    rw [log, origin, usedIndex, usedFormulas, Bool.false_or, Bool.false_or, ← told, ← silent]
    exact Origin.reflects_ofUse _

end Trace

namespace Script

def indexTable (script : Script) : IndexTable
  | .precedents, address => (script.precedents.lookup address).join
  | .dependents, address => (script.dependents.lookup address).join

theorem answersFrom (script : Script) :
    script.source.AnswersFrom (fun address => (script.cells.lookup address).getD (unlisted address))
      script.indexTable where
  reads := script.readsFrom
  precedents _ _ _ _ given := answer_gives given
  dependents _ _ _ _ given := answer_gives given

/-- A chain of three cells, whose index knows only the first step. -/
def chain : Script where
  cells := [
    ("S!A1", ⟨.int 1, none, none, "S!A1"⟩),
    ("S!B1", ⟨.int 1, some "=A1", none, "S!B1"⟩),
    ("S!C1", ⟨.int 1, some "=B1", none, "S!C1"⟩)]
  sheets := ["S"]
  ranges := [("S", ⟨some "S!A1:C1", some ⟨"S!A1:C1", [[none, some "=A1", some "=B1"]]⟩⟩)]
  precedents := []
  dependents := [("S!A1", some [["S!B1"]])]
  failures := []
  cancelAfter := none

end Script

/-- The second step of the chain is found in formulas. -/
theorem Trace.request_accounts_chain :
    ∃ trace root after,
      Reading.Gives (request (Script.chain.source.recorded none) {} (.text "S!A1")
        (some "dependents") .blank) ⟨Script.chain.start, []⟩ trace after ∧
      trace.root = some root ∧ trace.nodeCount = 3 ∧
      after.log.countP Call.readsCell = trace.nodeCount +
        (if trace.mode = .precedents then root.preorder.countP fun node =>
          !node.isCircular && node.isBare else 0) ∧
      (after.log.filter Call.asksIndex).Nodup ∧ after.log.countP Call.listsSheets ≤ 1 ∧
      trace.origin = .mixed ∧ trace.origin.Reflects
        (after.log.filterMap (Call.told? Script.chain.indexTable)) := by
  obtain ⟨trace, root, after, given, rooted, found⟩ := exists_rooted
    (show ((request (Script.chain.source.recorded none) {} (.text "S!A1")
      (some "dependents") .blank).run.run ⟨Script.chain.start, []⟩).1.toOption.any
        (fun trace => trace.root.isSome && (trace.nodeCount = 3 && trace.origin = .mixed)) = true by
      decide +kernel)
  obtain ⟨count, mixed⟩ := Bool.and_eq_true_iff.1 found
  obtain ⟨_, _, reads, _, once, few, _, origin, _⟩ :=
    request_accounts Script.chain.answersFrom (Script.unmarked (by decide)) given rooted
  exact ⟨trace, root, after, given, rooted, of_decide_eq_true count, reads, once, few,
    of_decide_eq_true mixed, origin⟩

end FormulaTrace
