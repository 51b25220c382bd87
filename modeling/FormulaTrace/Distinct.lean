/-!
Lists without the elements whose key came before.
-/
namespace FormulaTrace

variable {α κ : Type} [DecidableEq κ]

/-- The elements whose key is neither among those seen nor that of an earlier element. -/
def firstsAfter (key : α → κ) (seen : List κ) : List α → List α
  | [] => []
  | a :: rest =>
    if key a ∈ seen then firstsAfter key seen rest
    else a :: firstsAfter key (key a :: seen) rest

def firstsBy (key : α → κ) (items : List α) : List α := firstsAfter key [] items

theorem firstsAfter_sublist (key : α → κ) (seen : List κ) (items : List α) :
    (firstsAfter key seen items).Sublist items := by
  induction items generalizing seen with
  | nil => exact .slnil
  | cons a rest ih =>
    simp only [firstsAfter]
    split
    · exact (ih seen).cons a
    · exact (ih _).cons_cons a

theorem key_notMem_of_mem_firstsAfter {key : α → κ} {seen : List κ} {items : List α} {a : α}
    (h : a ∈ firstsAfter key seen items) : key a ∉ seen := by
  induction items generalizing seen with
  | nil => simp [firstsAfter] at h
  | cons b rest ih =>
    simp only [firstsAfter] at h
    split at h
    · exact ih h
    · rename_i fresh
      rcases List.mem_cons.1 h with rfl | later
      · exact fresh
      · exact fun old => ih later (List.mem_cons_of_mem _ old)

theorem firstsAfter_keys_nodup (key : α → κ) (seen : List κ) (items : List α) :
    ((firstsAfter key seen items).map key).Nodup := by
  induction items generalizing seen with
  | nil => simp [firstsAfter]
  | cons a rest ih =>
    simp only [firstsAfter]
    split
    · exact ih seen
    · simp only [List.map_cons, List.nodup_cons, List.mem_map, not_exists, not_and]
      refine ⟨fun b member same => ?_, ih _⟩
      exact key_notMem_of_mem_firstsAfter member (by simp [same])

theorem exists_key_eq_of_mem {key : α → κ} (seen : List κ) {items : List α} {a : α}
    (h : a ∈ items) :
    key a ∈ seen ∨ ∃ b ∈ firstsAfter key seen items, key b = key a := by
  induction items generalizing seen with
  | nil => simp at h
  | cons c rest ih =>
    simp only [firstsAfter]
    rcases List.mem_cons.1 h with rfl | later
    · split
      · exact .inl (by assumption)
      · exact .inr ⟨a, by simp, rfl⟩
    · split
      · exact ih seen later
      · rcases ih (key c :: seen) later with old | ⟨b, member, same⟩
        · rcases List.mem_cons.1 old with same | old
          · exact .inr ⟨c, by simp, same.symm⟩
          · exact .inl old
        · exact .inr ⟨b, by simp [member], same⟩

theorem mem_firstsBy_id {items : List κ} {a : κ} : a ∈ firstsBy id items ↔ a ∈ items := by
  refine ⟨fun member => (firstsAfter_sublist id [] items).mem member, fun member => ?_⟩
  rcases @exists_key_eq_of_mem _ _ _ id [] _ _ member with none | ⟨b, kept, rfl⟩
  · exact absurd none List.not_mem_nil
  · exact kept

theorem firstsAfter_eq_eraseDupsBy (key : α → κ) (seen : List κ) (items : List α) :
    firstsAfter key seen items =
      (items.filter fun a => key a ∉ seen).eraseDupsBy fun a b => key a = key b := by
  induction items generalizing seen with
  | nil => rfl
  | cons a rest ih =>
    by_cases old : key a ∈ seen
    · rw [firstsAfter, if_pos old, ih, List.filter_cons_of_neg (by simpa using old)]
    · rw [firstsAfter, if_neg old, ih, List.filter_cons_of_pos (by simpa using old),
        List.eraseDupsBy_cons, List.filter_filter]
      congr 3
      funext b
      by_cases same : key b = key a <;> simp [same]

theorem firstsBy_eq_eraseDupsBy (key : α → κ) (items : List α) :
    firstsBy key items = items.eraseDupsBy fun a b => key a = key b := by
  have all : (items.filter fun a => key a ∉ []) = items := List.filter_eq_self.2 (by simp)
  rw [firstsBy, firstsAfter_eq_eraseDupsBy, all]

theorem firstsAfter_of_nodup {key : α → κ} {seen : List κ} {items : List α}
    (differ : (items.map key).Nodup) (fresh : ∀ item ∈ items, key item ∉ seen) :
    firstsAfter key seen items = items := by
  induction items generalizing seen with
  | nil => rfl
  | cons item rest ih =>
    obtain ⟨here, others⟩ := List.forall_mem_cons.1 fresh
    obtain ⟨unlike, differ⟩ := List.nodup_cons.1 differ
    rw [firstsAfter, if_neg here, ih differ]
    intro other member
    apply List.not_mem_cons_of_ne_of_not_mem _ (others other member)
    intro same
    exact unlike (List.mem_map.2 ⟨other, member, same⟩)

theorem firstsBy_of_nodup {key : α → κ} {items : List α} (differ : (items.map key).Nodup) :
    firstsBy key items = items :=
  firstsAfter_of_nodup differ fun _ _ => List.not_mem_nil

end FormulaTrace
