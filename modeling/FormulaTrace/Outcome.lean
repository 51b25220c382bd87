/-!
Results that may be failures.
-/
namespace FormulaTrace

variable {ε α β : Type}

theorem Except.bind_eq_ok {first : Except ε α} {next : α → Except ε β} {result : β}
    (ends : (first >>= next) = .ok result) :
    ∃ value, first = .ok value ∧ next value = .ok result := by
  cases first with
  | error failure => cases ends
  | ok value => exact ⟨value, rfl, ends⟩

theorem Except.map_eq_ok {first : Except ε α} {next : α → β} {result : β}
    (ends : first.map next = .ok result) :
    ∃ value, first = .ok value ∧ next value = result := by
  cases first with
  | error failure => cases ends
  | ok value => exact ⟨value, rfl, Except.ok.inj ends⟩

theorem Except.map_eq_error {first : Except ε α} {next : α → β} {failure : ε} :
    first.map next = .error failure ↔ first = .error failure := by
  cases first <;> simp [Except.map]

theorem Except.mapError_eq_error {δ : Type} {first : Except ε α} {change : ε → δ} {told : δ} :
    first.mapError change = .error told ↔ ∃ failure, first = .error failure ∧
      change failure = told := by
  constructor
  · intro ends
    cases first with
    | error failure => exact ⟨failure, rfl, Except.error.inj ends⟩
    | ok value => cases ends
  · rintro ⟨failure, rfl, rfl⟩
    rfl

theorem Except.mapError_eq_ok {δ : Type} {first : Except ε α} {change : ε → δ} {value : α} :
    first.mapError change = .ok value ↔ first = .ok value := by
  cases first with
  | error failure => exact ⟨nofun, nofun⟩
  | ok other =>
    exact ⟨fun ends => congrArg _ (Except.ok.inj ends), fun ends => congrArg _ (Except.ok.inj ends)⟩

/-- Of two results that are made into one the failure of the first counts. -/
theorem Except.both_eq_error {γ : Type} {first : Except ε α} {second : Except ε β}
    {join : α → β → γ} {failure : ε} :
    (do
      let one ← first
      let other ← second
      return join one other) = .error failure ↔
      first = .error failure ∨ (∃ value, first = .ok value) ∧ second = .error failure := by
  cases first with
  | error cause => simp [bind, Except.bind]
  | ok one => cases second <;> simp [bind, Except.bind, pure, Except.pure]

theorem Except.exists_ok_iff {result : Except ε α} :
    (∃ value, result = .ok value) ↔ ∀ failure, result ≠ .error failure := by
  cases result <;> simp

theorem Except.toOption_eq_some {first : Except ε α} {value : α}
    (found : first.toOption = some value) :
    first = .ok value := by
  cases first with
  | error failure => cases found
  | ok other => exact congrArg Except.ok (Option.some.inj found)

theorem Except.mapM_ok {step : α → Except ε β} {value : α → β} {items : List α}
    (steps : ∀ item ∈ items, step item = .ok (value item)) :
    items.mapM step = .ok (items.map value) := by
  induction items with
  | nil => rfl
  | cons item rest ih =>
    obtain ⟨here, others⟩ := List.forall_mem_cons.1 steps
    rw [List.mapM_cons, here, ih others]
    rfl

section Firsts

variable {α : Type} {fine fails : α → Prop}

/-- The first of some items that are not fine fails. -/
def FirstFails (fine fails : α → Prop) (items : List α) : Prop :=
  ∃ before item after, items = before ++ item :: after ∧ (∀ earlier ∈ before, fine earlier) ∧
    fails item

theorem not_firstFails_nil : ¬ FirstFails fine fails [] := by
  rintro ⟨_ | _, _, _, same, _⟩ <;> cases same

theorem firstFails_cons {item : α} {rest : List α} :
    FirstFails fine fails (item :: rest) ↔ fails item ∨ fine item ∧ FirstFails fine fails rest := by
  constructor
  · rintro ⟨_ | ⟨first, before⟩, failing, after, same, spared, failed⟩
    · cases same
      exact .inl failed
    · cases same
      obtain ⟨here, others⟩ := List.forall_mem_cons.1 spared
      exact .inr ⟨here, before, failing, after, rfl, others, failed⟩
  · rintro (failed | ⟨here, before, failing, after, rfl, others, failed⟩)
    · exact ⟨[], item, rest, rfl, List.forall_mem_nil _, failed⟩
    · exact ⟨item :: before, failing, after, rfl, List.forall_mem_cons.2 ⟨here, others⟩, failed⟩

theorem firstFails_append {items more : List α} : FirstFails fine fails (items ++ more) ↔
    FirstFails fine fails items ∨ (∀ item ∈ items, fine item) ∧ FirstFails fine fails more := by
  induction items with
  | nil => simp [not_firstFails_nil]
  | cons item rest ih =>
    rw [List.cons_append, firstFails_cons, firstFails_cons, ih, List.forall_mem_cons, and_or_left,
      or_assoc, and_assoc]

theorem firstFails_of_mem {items : List α} (either : ∀ item ∈ items, fine item ∨ fails item)
    {item : α} (inside : item ∈ items) (failed : fails item) : FirstFails fine fails items := by
  induction items with
  | nil => cases inside
  | cons first rest ih =>
    obtain ⟨here, others⟩ := List.forall_mem_cons.1 either
    rw [firstFails_cons]
    rcases here with spared | gone
    · rcases List.mem_cons.1 inside with rfl | later
      · exact .inl failed
      · exact .inr ⟨spared, ih others later⟩
    · exact .inl gone

theorem forall_fine_iff {ε : Type} {fails : ε → α → Prop}
    (spared : ∀ item, fine item ↔ ∀ reason, ¬ fails reason item) (items : List α) :
    (∀ item ∈ items, fine item) ↔
      ∀ reason, ¬ FirstFails fine (fails reason) items := by
  induction items with
  | nil => simp [not_firstFails_nil]
  | cons item rest ih =>
    simp only [List.forall_mem_cons, firstFails_cons, ih, not_or, not_and, forall_and, ← spared]
    exact and_congr_right fun here =>
      ⟨fun others reason _ => others reason, fun others reason => others reason here⟩

end Firsts

end FormulaTrace
