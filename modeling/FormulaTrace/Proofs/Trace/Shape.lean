import FormulaTrace.Proofs.Trace.Stops
import Mathlib.Data.List.Forall2

/-! The shape of the trees that walks find.
What a walk makes of each of its stops is a node, and these nodes in their order are those of its
trees.  A node has the children that were requested, and none where no depth was left, where there
was no formula to follow, or where the cell had been come to before. -/
namespace FormulaTrace

variable {σ : Type}

namespace Node

theorem preorderAll_singleton (root : Node) : preorderAll [root] = root.preorder :=
  List.append_nil _

theorem atDepth_succ (level : Nat) (node : Node) :
    node.atDepth (level + 1) = (node.atDepth level).flatMap children := by
  induction level generalizing node with
  | zero => simp [atDepth]
  | succ level ih =>
    calc node.children.flatMap (atDepth (level + 1))
      _ = node.children.flatMap fun child => (child.atDepth level).flatMap children :=
        congrArg node.children.flatMap (funext ih)
      _ = (node.children.flatMap (atDepth level)).flatMap children := List.flatMap_assoc.symm

theorem atDepth_eq_nil {node : Node} {level deeper : Nat} (none : node.atDepth level = [])
    (further : level ≤ deeper) :
    node.atDepth deeper = [] := by
  induction further with
  | refl => exact none
  | step _ ih => rw [atDepth_succ, ih, List.flatMap_nil]

end Node

/-- What a walk makes of a stop. -/
inductive Stop.Makes (limits : Limits) : Stop → Node → Prop where
  | again (snapshot : Snapshot) : Makes limits (.again snapshot) (Walk.circular snapshot)
  | constant (snapshot shown : Snapshot) : Makes limits (.constant snapshot shown)
      (shown.node shown.formula [])
  | last (snapshot : Snapshot) : Makes limits (.last snapshot) (snapshot.node snapshot.formula [])
  | expanded (snapshot : Snapshot) (finding : Finding) {children : List Node}
      (requested : children.length = (snapshot.requested limits finding).length) :
      Makes limits (.expanded snapshot finding) (snapshot.node snapshot.formula children)

namespace Stop

variable {limits : Limits} {stop : Stop} {node : Node}

theorem Makes.children_length (makes : stop.Makes limits node) :
    node.children.length ≤ limits.maxChildren.toNat := by
  cases makes with
  | expanded snapshot finding requested =>
    exact Nat.le_trans (Nat.le_of_eq requested) (List.length_take_le _ _)
  | _ => exact Nat.zero_le _

theorem Makes.childless_of_again (makes : stop.Makes limits node) (repeated : stop.enters = false) :
    node.children = [] := by
  cases makes with
  | again snapshot => rfl
  | _ => cases repeated

end Stop

namespace Walk.Course

variable {source : Source σ} {limits : Limits} {mode : Mode} {depth : Nat} {addresses : List String}
  {progress later : Progress} {state after : σ} {stops : List Stop} {nodes : List Node}

theorem length_eq (course : Course source limits mode depth addresses progress state stops nodes
    later after) :
    nodes.length = addresses.length := by
  induction course with
  | done => rfl
  | again reads old further ih => exact congrArg Nat.succ ih
  | constant reads new follows bare shows further ih => exact congrArg Nat.succ ih
  | last reads new follows further ih => exact congrArg Nat.succ ih
  | expanded reads new follows finds descends further inner ih => exact congrArg Nat.succ ih

/-- The nodes are made of the stops, one of each. -/
theorem makes (course : Course source limits mode depth addresses progress state stops nodes later
    after) :
    List.Forall₂ (Stop.Makes limits) stops (Node.preorderAll nodes) := by
  induction course with
  | done => exact .nil
  | again reads old further ih => exact .cons (.again _) ih
  | constant reads new follows bare shows further ih => exact .cons (.constant _ _) ih
  | last reads new follows further ih => exact .cons (.last _) ih
  | expanded reads new follows finds descends further inner ih =>
    exact .cons (.expanded _ _ descends.length_eq) (List.rel_append inner ih)

theorem atDepth_eq_nil (course : Course source limits mode depth addresses progress state stops
    nodes later after) :
    nodes.flatMap (Node.atDepth (depth + 1)) = [] := by
  induction course with
  | done => rfl
  | again reads old further ih => exact ih
  | constant reads new follows bare shows further ih => exact ih
  | last reads new follows further ih => exact ih
  | expanded reads new follows finds descends further inner ih =>
    rw [List.flatMap_cons, ih, List.append_nil]
    exact inner

/-- In a trace of precedents a node has children only if it shows a formula. -/
theorem bare_childless (course : Course source limits .precedents depth addresses progress state
    stops nodes later after) :
    ∀ node ∈ Node.preorderAll nodes, node.formula.getD "" = "" → node.children = [] := by
  generalize direction : Mode.precedents = mode at course
  induction course with
  | done => exact fun node inside => absurd inside List.not_mem_nil
  | again reads old further ih => exact List.forall_mem_cons.2 ⟨fun _ => rfl, ih⟩
  | constant reads new follows bare shows further ih =>
    exact List.forall_mem_cons.2 ⟨fun _ => rfl, ih⟩
  | last reads new follows further ih => exact List.forall_mem_cons.2 ⟨fun _ => rfl, ih⟩
  | expanded reads new follows finds descends further inner ih =>
    refine List.forall_mem_cons.2 ⟨fun bare => ?_, List.forall_mem_append.2 ⟨inner, ih⟩⟩
    have written := follows direction.symm
    exact absurd bare (of_decide_eq_true written)

theorem again_of_visited (course : Course source limits mode depth addresses progress state stops
    nodes later after) :
    ∀ stop ∈ stops, stop.address ∈ progress.visited → stop.enters = false := by
  induction course with
  | done => exact fun stop inside => absurd inside List.not_mem_nil
  | again reads old further ih => exact List.forall_mem_cons.2 ⟨fun _ => rfl, ih⟩
  | constant reads new follows bare shows further ih =>
    refine List.forall_mem_cons.2 ⟨fun old => absurd old new, fun stop inside old => ?_⟩
    exact ih stop inside (List.mem_cons_of_mem _ old)
  | last reads new follows further ih =>
    refine List.forall_mem_cons.2 ⟨fun old => absurd old new, fun stop inside old => ?_⟩
    exact ih stop inside (List.mem_cons_of_mem _ old)
  | expanded reads new follows finds descends further inner ih =>
    rw [finds.visited] at inner
    have deeper := descends.visited_subset
    rw [finds.visited] at deeper
    refine List.forall_mem_cons.2 ⟨fun old => absurd old new, List.forall_mem_append.2 ⟨?_, ?_⟩⟩
    · exact fun stop inside old => inner stop inside (List.mem_cons_of_mem _ old)
    · exact fun stop inside old => ih stop inside (deeper (List.mem_cons_of_mem _ old))

theorem again_of_earlier (course : Course source limits mode depth addresses progress state stops
    nodes later after) :
    stops.Pairwise fun earlier stop => stop.address = earlier.address → stop.enters = false := by
  induction course with
  | done => exact .nil
  | again reads old further ih =>
    exact .cons (fun stop inside same => further.again_of_visited stop inside (same ▸ old)) ih
  | constant reads new follows bare shows further ih =>
    exact .cons (fun stop inside same =>
      further.again_of_visited stop inside (List.mem_cons.2 (.inl same))) ih
  | last reads new follows further ih =>
    exact .cons (fun stop inside same =>
      further.again_of_visited stop inside (List.mem_cons.2 (.inl same))) ih
  | expanded reads new follows finds descends further inner ih =>
    have start := descends.again_of_visited
    have deeper := descends.visited_subset
    rw [finds.visited] at start deeper
    refine .cons (List.forall_mem_append.2 ⟨?_, ?_⟩) (List.pairwise_append.2 ⟨inner, ih, ?_⟩)
    · exact fun stop inside same => start stop inside (List.mem_cons.2 (.inl same))
    · exact fun stop inside same =>
        further.again_of_visited stop inside (deeper (List.mem_cons.2 (.inl same)))
    · intro earlier before stop inside same
      exact further.again_of_visited stop inside (same ▸ descends.mem_visited earlier before)

theorem exists_makes {node : Node}
    (course : Course source limits mode depth addresses progress state stops nodes later after)
    (inside : node ∈ Node.preorderAll nodes) : ∃ stop ∈ stops, stop.Makes limits node := by
  have zipped : (stops.zip (Node.preorderAll nodes)).map Prod.snd = Node.preorderAll nodes :=
    List.map_snd_zip (Nat.le_of_eq course.makes.length_eq.symm)
  rw [← zipped] at inside
  obtain ⟨⟨stop, _⟩, among, rfl⟩ := List.mem_map.1 inside
  exact ⟨stop, (List.of_mem_zip among).1, (List.forall₂_iff_zip.1 course.makes).2 among⟩

theorem again_childless (course : Course source limits mode depth addresses progress state stops
    nodes later after) :
    (stops.zip (Node.preorderAll nodes)).Pairwise
      fun earlier made => made.1.address = earlier.1.address → made.2.children = [] := by
  have zipped : (stops.zip (Node.preorderAll nodes)).map Prod.fst = stops :=
    List.map_fst_zip (Nat.le_of_eq course.makes.length_eq)
  have repeated := course.again_of_earlier
  rw [← zipped, List.pairwise_map] at repeated
  refine repeated.imp_of_mem fun {earlier made} _ inside again same => ?_
  have makes := (List.forall₂_iff_zip.1 course.makes).2 inside
  exact makes.childless_of_again (again same)

end Walk.Course

namespace Trace

open Reading

variable {source : Source σ} {limits : Limits} {target : Target} {state after : σ} {trace : Trace}

theorem exists_rooted {reading : Reading σ Trace} {check : Trace → Bool}
    (holds : (reading.run.run state).1.toOption.any
      (fun trace => trace.root.isSome && check trace) = true) :
    ∃ trace root after, reading.Gives state trace after ∧ trace.root = some root ∧
      check trace = true := by
  obtain ⟨trace, after, given, found⟩ := exists_gives holds
  obtain ⟨some, checked⟩ := Bool.and_eq_true_iff.1 found
  obtain ⟨root, rooted⟩ := Option.isSome_iff_exists.1 some
  exact ⟨trace, root, after, given, rooted, checked⟩

/-- The walk of a trace that finds a tree, and what the trace tells of it. -/
theorem request_walked {mode : Option String} {depth : Value} {root : Node}
    (given : Gives (request source limits target mode depth) state trace after)
    (rooted : trace.root = some root) :
    ∃ address asked stops progress, target.address = .ok address ∧ depth.askedDepth = .ok asked ∧
      trace = ofWalk trace.mode (limits.boundDepth asked) (some root) progress ∧
      Walk.Course source limits trace.mode trace.maxDepth.toNat [address]
        {} state stops [root] progress after := by
  obtain ⟨direction, asked, _, counted, given⟩ := request_gives given
  obtain ⟨address, middle, resolved, rest⟩ := gives_bind.1 given
  obtain ⟨place, rfl⟩ := gives_ofExcept.1 resolved
  obtain ⟨⟨tree, progress⟩, between, visited, rest⟩ := gives_bind.1 rest
  cases rest
  obtain rfl : tree = some root := rooted
  obtain ⟨snapshot, start, reads, cases⟩ := Walk.visit_gives visited
  rcases cases with ⟨old, _⟩ | ⟨new, ⟨_, _, bare, _⟩ | ⟨follows, children, same, descended⟩⟩
  · cases old
  · cases bare
  · cases same
    obtain ⟨stops, walked⟩ := Walk.placed _ reads new follows descended .done
    exact ⟨address, asked, stops, progress, place, counted, rfl, walked⟩

end Trace

end FormulaTrace
