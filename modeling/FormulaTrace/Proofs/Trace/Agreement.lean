import FormulaTrace.Proofs.Trace.Runs

/-!
Walks through two sources that agree: from related places they fail alike or find the same.

Two walks may differ in what they use to find the cells below a cell.  As long as they find the same
cells below every cell, they find the same tree.
-/
namespace FormulaTrace

variable {σ τ α β γ δ : Type}

/-- Two outcomes with the same failure, or with related results and states. -/
inductive Alike (related : α → σ → β → τ → Prop) : Except Failure α × σ → Except Failure β × τ →
    Prop where
  | ok {first : α} {state : σ} {second : β} {other : τ} (holds : related first state second other) :
    Alike related (.ok first, state) (.ok second, other)
  | error (failure : Failure) (state : σ) (other : τ) : Alike related (.error failure, state)
      (.error failure, other)

theorem Alike.mono {related wider : α → σ → β → τ → Prop} {first : Except Failure α × σ}
    {second : Except Failure β × τ} (alike : Alike related first second)
    (widen : ∀ a s b t, related a s b t → wider a s b t) : Alike wider first second := by
  cases alike with
  | ok holds => exact .ok (widen _ _ _ _ holds)
  | error failure state other => exact .error failure state other

theorem Alike.map_eq {view : α → γ} {view' : β → γ} {first : Except Failure α × σ}
    {second : Except Failure β × τ} (alike : Alike (fun a _ b _ => view a = view' b) first second) :
    first.1.map view = second.1.map view' := by
  cases alike with
  | ok holds => exact congrArg Except.ok holds
  | error failure => rfl

theorem Alike.bind {related : α → σ → β → τ → Prop} {final : γ → σ → δ → τ → Prop}
    {first : Reading σ α} {second : Reading τ β} {next : α → Reading σ γ} {then' : β → Reading τ δ}
    {state : σ} {other : τ} (alike : Alike related (first.run.run state) (second.run.run other))
    (further : ∀ a s b t, related a s b t → Alike final ((next a).run.run s)
      ((then' b).run.run t)) :
    Alike final ((first >>= next).run.run state) ((second >>= then').run.run other) := by
  rw [ExceptT.run_bind, StateT.run_bind, ExceptT.run_bind, StateT.run_bind]
  generalize first.run.run state = left at alike
  generalize second.run.run other = right at alike
  cases alike with
  | ok holds => exact further _ _ _ _ holds
  | error failure between beside => exact .error failure between beside

namespace Reading

/-- From related states the readings end alike; a result has a property. -/
def Agree (before after : σ → τ → Prop) (known : α → Prop) (first : Reading σ α)
    (second : Reading τ α) :
    Prop :=
  ∀ state other, before state other →
    Alike (fun a s b t => a = b ∧ known a ∧ after s t) (first.run.run state) (second.run.run other)

variable {before after : σ → τ → Prop} {known : α → Prop}

theorem Agree.and_second {first : Reading σ α} {second : Reading τ α} {reached : τ → Prop}
    (agree : Agree before after known first second)
    (gives : ∀ state other result place, before state other → second.Gives other result place →
      reached place) :
    Agree before (fun s t => after s t ∧ reached t) known first second := by
  intro state other related
  have facts := gives state other
  unfold Gives at facts
  have alike := agree state other related
  generalize first.run.run state = left at alike
  generalize second.run.run other = right at facts alike
  cases alike with
  | error failure s t => exact .error failure s t
  | @ok value s _ t holds =>
    obtain ⟨rfl, holds, middle⟩ := holds
    exact .ok ⟨rfl, holds, middle, facts value t related rfl⟩

theorem Agree.guard {source : Source σ} {other : Source τ} {what : String} {address : Option String}
    {first : Reading σ α} {second : Reading τ α}
    (cancelled : ∀ state place, before state place → source.cancelled state = other.cancelled place)
    (agree : Agree before after known first second) :
    Agree before after known (source.guard what address first)
      (other.guard what address second) := by
  intro state place related
  have alike := agree state place related
  unfold Source.guard
  simp only [ExceptT.run_mk, StateT.run]
  rw [cancelled state place related]
  by_cases stopped : other.cancelled place = true
  · rw [if_pos stopped, if_pos stopped]
    exact .error _ state place
  · rw [if_neg stopped, if_neg stopped]
    change Alike _ ((first.run.run state).1.mapError _, (first.run.run state).2)
      ((second.run.run place).1.mapError _, (second.run.run place).2)
    generalize first.run.run state = left at alike
    generalize second.run.run place = right at alike
    cases alike with
    | ok holds => exact .ok holds
    | error failure s t => exact .error _ s t

end Reading

namespace Walk

abbrev Places (σ τ : Type) := Progress → σ → Progress → τ → Prop

def Agree (before after : Places σ τ) (known : α → Prop) (first : Walk σ α) (second : Walk τ α) :
    Prop :=
  ∀ progress state other place, before progress state other place →
    Alike (fun a s b t => a.1 = b.1 ∧ known a.1 ∧ after a.2 s b.2 t)
      ((first.run progress).run.run state) ((second.run other).run.run place)

variable {before between after : Places σ τ} {known : α → Prop} {final : β → Prop}

theorem Agree.pure {value : α} (holds : known value) :
    Agree before before known (pure value : Walk σ α) (pure value) :=
  fun _ _ _ _ related => .ok ⟨rfl, holds, related⟩

theorem Agree.bind {first : Walk σ α} {second : Walk τ α} {next : α → Walk σ β}
    {then' : α → Walk τ β} (agree : Agree before between known first second)
    (further : ∀ value, known value → Agree between after final (next value) (then' value)) :
    Agree before after final (first >>= next) (second >>= then') := by
  intro progress state other place related
  rw [StateT.run_bind, StateT.run_bind]
  apply (agree progress state other place related).bind
  rintro ⟨value, p⟩ s ⟨_, q⟩ t ⟨same, holds, middle⟩
  cases same
  exact further value holds p s q t middle

theorem Agree.lift {held : Progress → Progress → Prop} {states states' : σ → τ → Prop}
    {first : Reading σ α} {second : Reading τ α}
    (agree : Reading.Agree states states' known first second) :
    Agree (fun p s q t => held p q ∧ states s t) (fun p s q t => held p q ∧ states' s t) known
      (liftM first) (liftM second) := by
  intro progress state other place ⟨kept, related⟩
  apply (agree state place related).bind
  rintro value s _ t ⟨rfl, holds, reached⟩
  exact .ok ⟨rfl, holds, kept, reached⟩

theorem Agree.modify {change change' : Progress → Progress}
    (moves : ∀ p s q t, before p s q t → after (change p) s (change' q) t) :
    Agree before after (fun _ => True) (modify change : Walk σ Unit)
      (modify change' : Walk τ Unit) :=
  fun p s q t related => .ok ⟨rfl, trivial, moves p s q t related⟩

theorem Agree.get_bind {next : Progress → Walk σ β} {then' : Progress → Walk τ β}
    (further : ∀ p s q t, before p s q t → Agree before after final (next p) (then' q)) :
    Agree before after final (get >>= next) (get >>= then') :=
  fun p s q t related => further p s q t related p s q t related

theorem Agree.mapM {first : γ → Walk σ α} {second : γ → Walk τ α} (items : List γ)
    (agree : ∀ item, Agree before before (fun _ => True) (first item) (second item)) :
    Agree before before (fun _ => True) (items.mapM first) (items.mapM second) := by
  induction items with
  | nil =>
    rw [List.mapM_nil, List.mapM_nil]
    exact .pure trivial
  | cons item rest ih =>
    rw [List.mapM_cons, List.mapM_cons]
    apply (agree item).bind
    intro value _
    exact ih.bind fun values _ => .pure trivial

theorem Agree.mono {before' after' : Places σ τ} {first : Walk σ α} {second : Walk τ α}
    (agree : Agree before after known first second)
    (narrow : ∀ p s q t, before' p s q t → before p s q t)
    (widen : ∀ p s q t, after p s q t → after' p s q t) :
    Agree before' after' known first second := by
  intro p s q t related
  apply (agree p s q t (narrow p s q t related)).mono
  rintro a s' b t' ⟨same, holds, reached⟩
  exact ⟨same, holds, widen _ _ _ _ reached⟩

/-- A step of the first walk alone whose result is certain. -/
theorem Agree.left {first : Walk σ γ} {next : γ → Walk σ β} {second : Walk τ β} (value : γ)
    (between : Places σ τ)
    (runs : ∀ p s q t, before p s q t → ∃ p' s', Gives first p s value p' s' ∧ between p' s' q t)
    (further : Agree between after final (next value) second) :
    Agree before after final (first >>= next) second := by
  intro p s q t related
  obtain ⟨p', s', ran, middle⟩ := runs p s q t related
  unfold Gives Reading.Gives at ran
  rw [StateT.run_bind, ExceptT.run_bind, StateT.run_bind, ran]
  exact further p' s' q t middle

theorem Agree.right {first : Walk σ β} {second : Walk τ γ} {next : γ → Walk τ β} (value : γ)
    (between : Places σ τ)
    (runs : ∀ p s q t, before p s q t → ∃ q' t', Gives second q t value q' t' ∧ between p s q' t')
    (further : Agree between after final first (next value)) :
    Agree before after final first (second >>= next) := by
  intro p s q t related
  obtain ⟨q', t', ran, middle⟩ := runs p s q t related
  unfold Gives Reading.Gives at ran
  rw [StateT.run_bind, ExceptT.run_bind, StateT.run_bind, ran]
  exact further p s q' t' middle

/-- Two walks that entered the same cells and left out as much.  Only the second may need an
inventory. -/
structure Even (held : Option (List Candidate) → Prop) (first second : Progress) : Prop where
  visited : first.visited = second.visited
  truncated : first.truncated = second.truncated
  skipped : first.skipped = second.skipped
  candidates : held second.candidates

def Abreast (held : Option (List Candidate) → Prop) (states : σ → τ → Prop) : Places σ τ :=
  fun first state second other => Even held first second ∧ states state other

variable {held : Option (List Candidate) → Prop} {states : σ → τ → Prop}

theorem note_agree (more : Bool) :
    Agree (Abreast held states) (Abreast held states) (fun _ => True) (note (σ := σ) more)
      (note (σ := τ) more) := by
  refine .modify fun p s q t related => ?_
  obtain ⟨even, together⟩ := related
  exact ⟨⟨even.visited, by rw [even.truncated], even.skipped, even.candidates⟩, together⟩

theorem gather_agree {limits : Limits} {home home' : String} {addresses others : List String}
    (same : capChildren limits.maxChildren home addresses = capChildren limits.maxChildren home'
      others) :
    Agree (Abreast held states) (Abreast held states) (fun _ => True)
      (gather (σ := σ) limits home addresses) (gather (σ := τ) limits home' others) := by
  unfold gather
  rw [same]
  exact (note_agree _).bind fun _ _ => .pure trivial

theorem noted_agree {first : Walk σ α} {second : Walk τ α}
    (further : Agree (Abreast held states) (Abreast held states) (fun _ => True) first second) :
    Agree (Abreast held states) (Abreast held states)
      (fun _ => True) first (do note false; second) := by
  refine Agree.right () (Abreast held states) (fun p s q t related => ?_) further
  obtain ⟨even, together⟩ := related
  refine ⟨_, t, rfl, ⟨even.visited, ?_, even.skipped, even.candidates⟩, together⟩
  change p.truncated = (q.truncated || false)
  rw [even.truncated, Bool.or_false]

section Visits

variable {source : Source σ} {other : Source τ} {known : Snapshot → Prop} {states' : σ → τ → Prop}

theorem read_agree (cancelled : ∀ s t, states s t → source.cancelled s = other.cancelled t)
    {address : String}
    (reads : Reading.Agree states states' known (source.readCell address)
      (other.readCell address)) :
    Agree (Abreast held states) (Abreast held states') known (Walk.read source address)
      (Walk.read other address) :=
  .lift (reads.guard cancelled)

/-- What is known of an arrival: a cell that was entered in a trace of precedents has a formula. -/
def Arrival.Known (known : Snapshot → Prop) (mode : Mode) : Arrival → Prop
  | .entered snapshot => known snapshot ∧ (mode = .precedents → hasFormula snapshot = true)
  | _ => True

theorem arrive_agree {mode : Mode} {address : String}
    (reads : Agree (Abreast held states) (Abreast held states') known (Walk.read source address)
      (Walk.read other address)) :
    Agree (Abreast held states) (Abreast held states') (Arrival.Known known mode)
      (arrive source mode address) (arrive other mode address) := by
  refine reads.bind fun snapshot holds => .get_bind fun p s q t related => ?_
  rw [related.1.visited]
  by_cases old : snapshot.address ∈ q.visited
  · rw [if_pos old, if_pos old]
    exact .pure trivial
  · rw [if_neg old, if_neg old]
    have entered : Agree (Abreast held states') (Abreast held states') (fun _ => True)
        (modify fun progress => { progress with visited := snapshot.address :: progress.visited } :
          Walk σ Unit)
        (modify fun progress => { progress with visited := snapshot.address :: progress.visited } :
          Walk τ Unit) := by
      refine .modify fun p s q t related => ?_
      obtain ⟨even, together⟩ := related
      exact ⟨⟨by rw [even.visited], even.truncated, even.skipped, even.candidates⟩, together⟩
    apply entered.bind
    intro _ _
    by_cases constant : mode = .precedents ∧ (!hasFormula snapshot) = true
    · rw [if_pos constant, if_pos constant]
      exact .pure trivial
    · rw [if_neg constant, if_neg constant]
      refine .pure ⟨holds, fun direction => ?_⟩
      simpa [direction] using constant

/-- What lies below a cell is the same if the first source has an index that tells of what the
second walk finds without one. -/
theorem below_agree {held' : Option (List Candidate) → Prop} {limits : Limits} {mode : Mode}
    {snapshot : Snapshot} (groups : List (List String))
    (further : Agree (Abreast held states) (Abreast held' states') (fun _ => True)
      (gather limits ((separate snapshot.address).1.getD "") groups.flatten)
      (match mode with
        | .precedents => fromFormula limits ((separate snapshot.address).1.getD "") snapshot.formula
        | .dependents => fromInventory other limits snapshot.address))
    (tells : ∀ p s q t, Abreast held states p s q t → ∃ s' t',
      Gives (indexed source mode snapshot.address) p s (some groups) p s' ∧
        Gives (indexed other mode snapshot.address) q t none q t' ∧ states s' t') :
    Agree (Abreast held states) (Abreast held' states') (fun _ => True)
      (below source limits mode snapshot) (below other limits mode snapshot) := by
  unfold below
  -- The one walk asks its index and notes that it did; the other is told nothing and notes that.
  -- Neither note counts when two walks are compared.
  refine Agree.left (some groups) (fun p s q t => ∃ t', Abreast held states p s q t' ∧
    Gives (indexed other mode snapshot.address) q t none q t') ?_ ?_
  · intro p s q t related
    obtain ⟨s', t', first, second, together⟩ := tells p s q t related
    exact ⟨p, s', first, t', ⟨related.1, together⟩, second⟩
  refine Agree.left () (fun p s q t => ∃ t', Abreast held states p s q t' ∧
    Gives (indexed other mode snapshot.address) q t none q t') ?_ ?_
  · rintro p s q t ⟨t', ⟨even, together⟩, second⟩
    exact ⟨_, s, rfl, t', ⟨⟨even.visited, even.truncated, even.skipped, even.candidates⟩, together⟩,
      second⟩
  refine Agree.right none (Abreast held states) ?_ ?_
  · rintro p s q t ⟨t', related, second⟩
    exact ⟨q, t', second, related⟩
  refine Agree.right () (Abreast held states) ?_ further
  rintro p s q t ⟨even, together⟩
  exact ⟨_, t, rfl, ⟨even.visited, even.truncated, even.skipped, even.candidates⟩, together⟩

theorem leaf_agree {address : String}
    (reads : Agree (Abreast held states) (Abreast held states') known (Walk.read source address)
      (Walk.read other address)) :
    Agree (Abreast held states) (Abreast held states') (fun _ => True) (leaf source address)
      (leaf other address) :=
  reads.bind fun _ _ => .pure trivial

theorem visit_agree_of_descend {states'' : σ → τ → Prop} {held' : Option (List Candidate) → Prop}
    {limits : Limits} {mode : Mode} {depth : Nat} {address : String} {after : Places σ τ}
    (arrived : Agree (Abreast held states) (Abreast held states') (Arrival.Known known mode)
      (arrive source mode address) (arrive other mode address))
    (descended : ∀ snapshot, known snapshot → (mode = .precedents → hasFormula snapshot = true) →
      Agree (Abreast held states') (Abreast held' states'') (fun _ => True)
        (descend source limits mode depth snapshot) (descend other limits mode depth snapshot))
    (early : ∀ p s q t, Abreast held states' p s q t → after p s q t)
    (late : ∀ p s q t, Abreast held' states'' p s q t → after p s q t) :
    Agree (Abreast held states) after (fun _ => True)
      (visit source limits mode depth address) (visit other limits mode depth address) := by
  rw [visit_eq, visit_eq]
  apply arrived.bind
  intro arrival holds
  cases arrival with
  | again snapshot => exact (Agree.pure trivial).mono (fun _ _ _ _ related => related) early
  | constant => exact (Agree.pure trivial).mono (fun _ _ _ _ related => related) early
  | entered snapshot =>
    apply (descended snapshot holds.1 holds.2).bind
    intro children _
    exact (Agree.pure trivial).mono (fun _ _ _ _ related => related) late

theorem descend_succ_agree {held' : Option (List Candidate) → Prop} {limits : Limits} {mode : Mode}
    {depth : Nat} {snapshot : Snapshot}
    (found : Agree (Abreast held states) (Abreast held' states') (fun _ => True)
      (below source limits mode snapshot) (below other limits mode snapshot))
    (inner : ∀ address, Agree (Abreast held' states') (Abreast held' states') (fun _ => True)
      (visit source limits mode depth address) (visit other limits mode depth address))
    (leaves : ∀ address, Agree (Abreast held' states') (Abreast held' states') (fun _ => True)
      (leaf source address) (leaf other address)) :
    Agree (Abreast held states) (Abreast held' states') (fun _ => True)
      (descend source limits mode (depth + 1) snapshot)
        (descend other limits mode (depth + 1) snapshot) := by
  refine found.bind fun addresses _ => .mapM addresses fun address => ?_
  apply (inner address).bind
  intro result _
  cases result with
  | some node => exact .pure trivial
  | none => exact leaves address

theorem visit_agree {limits : Limits} {mode : Mode}
    (reads : ∀ address, Agree (Abreast held states) (Abreast held states) known
      (Walk.read source address) (Walk.read other address))
    (found : ∀ snapshot, known snapshot → (mode = .precedents → hasFormula snapshot = true) →
      Agree (Abreast held states) (Abreast held states) (fun _ => True)
        (below source limits mode snapshot) (below other limits mode snapshot))
    (depth : Nat) (address : String) :
    Agree (Abreast held states) (Abreast held states) (fun _ => True)
      (visit source limits mode depth address) (visit other limits mode depth address) := by
  induction depth generalizing address with
  | zero =>
    refine visit_agree_of_descend (arrive_agree (reads address)) (fun snapshot _ _ => .pure trivial)
      (fun _ _ _ _ related => related) fun _ _ _ _ related => related
  | succ depth ih =>
    refine visit_agree_of_descend (arrive_agree (reads address)) (fun snapshot holds follows => ?_)
      (fun _ _ _ _ related => related) fun _ _ _ _ related => related
    exact descend_succ_agree (found snapshot holds follows) ih fun child => leaf_agree (reads child)

end Visits

end Walk

namespace Trace

def withoutOrigin (trace : Trace) : Trace := { trace with origin := .none }

variable {source : Source σ} {other : Source τ} {limits : Limits} {state : σ} {place : τ}

open Walk

theorem withoutOrigin_ofWalk {mode : Mode} {depth : Int} {root : Option Node}
    {first second : Progress} (even : Even (fun _ => True) first second) :
    (ofWalk mode depth root first).withoutOrigin =
      (ofWalk mode depth root second).withoutOrigin := by
  unfold withoutOrigin ofWalk
  rw [even.truncated, even.skipped]

theorem run_agree {target : Target} {mode : Mode} {asked : Option Int} (before : Places σ τ)
    (start : before {} state {} place)
    (agree : ∀ address, target.address = .ok address →
      Agree before (Abreast (fun _ => True) fun _ _ => True) (fun _ => True)
        (visit source limits mode (limits.boundDepth asked).toNat address)
        (visit other limits mode (limits.boundDepth asked).toNat address)) :
    ((run source limits target mode asked).run.run state).1.map withoutOrigin =
      ((run other limits target mode asked).run.run place).1.map withoutOrigin := by
  apply Alike.map_eq
  unfold run
  have resolves : Alike (fun first s second t =>
        first = second ∧ target.address = .ok first ∧ s = state ∧ t = place)
      ((Reading.ofExcept target.address : Reading σ String).run.run state)
      ((Reading.ofExcept target.address : Reading τ String).run.run place) := by
    cases target.address with
    | error failure => exact .error failure state place
    | ok address => exact .ok ⟨rfl, rfl, rfl, rfl⟩
  apply resolves.bind
  rintro address _ _ _ ⟨rfl, resolved, rfl, rfl⟩
  apply (agree address resolved {} _ {} _ start).bind
  rintro ⟨root, p⟩ s ⟨_, q⟩ t ⟨same, _, even, _⟩
  cases same
  exact .ok (withoutOrigin_ofWalk even)

theorem request_agree {target : Target} {mode : Option String} {depth : Value}
    (agree : ∀ direction asked, Mode.read mode = .ok direction → depth.askedDepth = .ok asked →
      ((run source limits target direction asked).run.run state).1.map withoutOrigin =
        ((run other limits target direction asked).run.run place).1.map withoutOrigin) :
    ((request source limits target mode depth).run.run state).1.map withoutOrigin =
      ((request other limits target mode depth).run.run place).1.map withoutOrigin := by
  unfold request
  cases read : Mode.read mode with
  | error failure => rfl
  | ok direction =>
    cases counted : depth.askedDepth with
    | error failure => rfl
    | ok asked => exact agree direction asked read counted

end Trace

end FormulaTrace
