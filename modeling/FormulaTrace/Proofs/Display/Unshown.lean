import FormulaTrace.Lineage.Rendering
import FormulaTrace.Proofs.Display.Largest

/-! Values that have no text.
Apart from whole numbers that are too large these are lists, records and objects with something in
them that cannot be written.  A tree of cells has no text because of the first of its nodes whose
value has none. -/
namespace FormulaTrace

open Text

namespace Value

def Writes (field : Value × Value) : Prop :=
  (∃ name, field.1.keyText = .ok name) ∧ ∃ document, field.2.document = .ok document

/-- A value cannot be written because of the first thing in it that cannot. -/
inductive Lacks : Value → Failure → Prop
  | int {n : Int} (long : 10 ^ maxDigits ≤ n.natAbs) :
      Lacks (.int n) (.badValue (limitMessage ++ limitAdvice))
  | object (kind : String) (formula : Option String) (failure : Failure) :
      Lacks (.object kind formula (.error failure)) failure
  | item {before after : List Value} {item : Value} {failure : Failure}
      (fine : ∀ earlier ∈ before, ∃ document, earlier.document = .ok document)
        (lacks : Lacks item failure) :
      Lacks (.list (before ++ item :: after)) failure
  | key {before after : List (Value × Value)} {key value : Value} {failure : Failure}
      (fine : ∀ earlier ∈ before, Writes earlier) (unnamed : key.keyText = .error failure) :
      Lacks (.record (before ++ (key, value) :: after)) failure
  | field {before after : List (Value × Value)} {key value : Value} {failure : Failure}
      (fine : ∀ earlier ∈ before, Writes earlier) (named : ∃ name, key.keyText = .ok name)
      (lacks : Lacks value failure) : Lacks (.record (before ++ (key, value) :: after)) failure

variable {failure : Failure}

theorem integerText_eq_error {n : Int} : integerText n = .error failure ↔
    10 ^ maxDigits ≤ n.natAbs ∧ failure = .badValue (limitMessage ++ limitAdvice) := by
  rw [integerText, Except.mapError_eq_error]
  simp only [writeInteger, Nat.pow_eq]
  split
  next short => simp [Nat.not_le.2 short]
  next long => simp [Nat.not_lt.1 long, eq_comm]

theorem lacks_int {n : Int} : Lacks (.int n) failure ↔ integerText n = .error failure := by
  rw [integerText_eq_error]
  constructor
  · rintro ⟨long⟩
    exact ⟨long, rfl⟩
  · rintro ⟨long, rfl⟩
    exact .int long

theorem lacks_list {items : List Value} : Lacks (.list items) failure ↔
    FirstFails (fun item => ∃ document, item.document = .ok document) (·.Lacks failure) items := by
  constructor
  · intro lacks
    cases lacks with
    | item fine lacks => exact ⟨_, _, _, rfl, fine, lacks⟩
  · rintro ⟨_, _, _, rfl, fine, lacks⟩
    exact .item fine lacks

theorem lacks_record {fields : List (Value × Value)} : Lacks (.record fields) failure ↔
    FirstFails Writes (fun field => field.1.keyText = .error failure ∨
      (∃ name, field.1.keyText = .ok name) ∧ field.2.Lacks failure) fields := by
  constructor
  · intro lacks
    cases lacks with
    | key fine unnamed => exact ⟨_, _, _, rfl, fine, .inl unnamed⟩
    | field fine named lacks => exact ⟨_, _, _, rfl, fine, .inr ⟨named, lacks⟩⟩
  · rintro ⟨_, _, _, rfl, fine, unnamed | ⟨named, lacks⟩⟩
    · exact .key fine unnamed
    · exact .field fine named lacks

mutual

/-- A value has no document just if there is something in it that cannot be written. -/
theorem document_eq_error :
    (value : Value) → (value.document = .error failure ↔ value.Lacks failure)
  | .blank => ⟨nofun, nofun⟩
  | .bool _ => ⟨nofun, nofun⟩
  | .int n => by rw [document, Except.map_eq_error, lacks_int]
  | .real _ => ⟨nofun, nofun⟩
  | .text _ => ⟨nofun, nofun⟩
  | .moment _ => ⟨nofun, nofun⟩
  | .object kind formula shown => by
    rw [document, Except.map_eq_error]
    constructor
    · rintro rfl
      exact .object kind formula failure
    · rintro ⟨⟩
      rfl
  | .list items => by rw [document, Except.map_eq_error, lacks_list, documents_eq_error items]
  | .record fields => by
      rw [document, Except.map_eq_error, lacks_record, fieldDocuments_eq_error fields]

theorem documents_eq_error : (items : List Value) → (documents items = .error failure ↔
    FirstFails (fun item => ∃ document, item.document = .ok document) (·.Lacks failure) items)
  | [] => ⟨nofun, fun first => absurd first not_firstFails_nil⟩
  | item :: rest => by
    rw [documents, Except.both_eq_error, firstFails_cons, document_eq_error item,
      documents_eq_error rest]

theorem fieldDocuments_eq_error :
    (fields : List (Value × Value)) → (fieldDocuments fields = .error failure ↔
    FirstFails Writes (fun field => field.1.keyText = .error failure ∨
      (∃ name, field.1.keyText = .ok name) ∧ field.2.Lacks failure) fields)
  | [] => ⟨nofun, fun first => absurd first not_firstFails_nil⟩
  | (key, value) :: rest => by
    rw [fieldDocuments, firstFails_cons, ← fieldDocuments_eq_error rest, ← document_eq_error value]
    unfold Writes
    cases key.keyText with
    | error cause => simp [bind, Except.bind]
    | ok name =>
      refine (Except.both_eq_error : _ ↔ value.document = .error failure ∨ _ ∧
        fieldDocuments rest = _).trans ?_
      simp

end

/-- A value that has no text under a number format, and the failure to show it. -/
inductive Unshown (format : Option String) : Value → Failure → Prop
  | large {n : Int} (beyond : Binary64.beyond ≤ n.natAbs * shownTimes format) :
      Unshown format (.int n) DisplayError.tooLarge.failure
  | object (kind : String) (formula : Option String) (failure : Failure) :
      Unshown format (.object kind formula (.error failure)) failure
  | list {items : List Value} {failure : Failure} (lacks : Lacks (.list items) failure) :
      Unshown format (.list items) failure
  | record {fields : List (Value × Value)} {failure : Failure}
      (lacks : Lacks (.record fields) failure) :
      Unshown format (.record fields) failure

theorem display_eq_error (value : Value) (format : Option String) :
    value.display format = .error failure ↔ value.Unshown format failure := by
  cases value with
  | blank => constructor <;> rintro ⟨⟩
  | bool _ => constructor <;> rintro ⟨⟩
  | text _ => constructor <;> rintro ⟨⟩
  | moment _ => constructor <;> rintro ⟨⟩
  | int n =>
    have large := Numeric.toBinary64_whole (n * shownTimes format)
    rw [Int.natAbs_mul, Int.natAbs_natCast] at large
    unfold display
    rw [Numeric.shown_eq_error, Numeric.times, large]
    constructor
    · rintro ⟨beyond, rfl⟩
      exact .large beyond
    · intro unshown
      cases unshown with
      | large beyond => exact ⟨beyond, rfl⟩
  | real x =>
    unfold display
    rw [Numeric.shown_eq_error]
    constructor
    · rintro ⟨⟨⟩, _⟩
    · rintro ⟨⟩
  | object kind formula shown =>
    unfold display
    rw [Except.map_eq_error, document_eq_error]
    constructor
    · rintro ⟨⟩
      exact .object kind formula failure
    · rintro ⟨⟩
      exact .object kind formula failure
  | list items =>
    unfold display
    rw [Except.map_eq_error, document_eq_error]
    refine ⟨.list, fun unshown => ?_⟩
    cases unshown with
    | list lacks => exact lacks
  | record fields =>
    unfold display
    rw [Except.map_eq_error, document_eq_error]
    refine ⟨.record, fun unshown => ?_⟩
    cases unshown with
    | record lacks => exact lacks

end Value

namespace Node

variable {failure : Failure}

def Unshown (node : Node) (failure : Failure) : Prop := node.value.Unshown node.numberFormat failure

def IsShown (node : Node) : Prop := ∀ failure, ¬ node.Unshown failure

theorem label_eq_error (node : Node) : node.label = .error failure ↔ node.Unshown failure :=
  Except.map_eq_error.trans (node.value.display_eq_error node.numberFormat)

theorem exists_label (node : Node) : (∃ label, node.label = .ok label) ↔ node.IsShown := by
  simp only [Except.exists_ok_iff, ne_eq, label_eq_error]
  rfl

theorem forall_isShown_iff (nodes : List Node) :
    (∀ node ∈ nodes, node.IsShown) ↔ ∀ failure, ¬ FirstFails IsShown (·.Unshown failure) nodes :=
  forall_fine_iff (fun _ => Iff.rfl) nodes

mutual

/-- The lines of a tree fail because of its first node that has no text. -/
theorem lines_eq_error (lead : String) (last : Bool) : (node : Node) → ∀ failure,
    (lines lead last node = .error failure ↔ FirstFails IsShown (·.Unshown failure) (preorder node))
  | cell address value numberFormat formula children, failure => by
    unfold lines preorder
    rw [Except.both_eq_error, label_eq_error, exists_label, childLines_eq_error, firstFails_cons]

theorem childLines_eq_error (lead : String) : (nodes : List Node) → ∀ failure,
    (childLines lead nodes = .error failure ↔ FirstFails IsShown (·.Unshown failure)
      (preorderAll nodes))
  | [], _ => by
    unfold childLines preorderAll
    exact ⟨nofun, fun first => absurd first not_firstFails_nil⟩
  | node :: rest, failure => by
    unfold childLines preorderAll
    rw [Except.both_eq_error, Except.exists_ok_iff, childLines_eq_error, firstFails_append,
      forall_isShown_iff]
    simp only [ne_eq, lines_eq_error]

end

theorem render_eq_error (heading : Option String) (root : Node) :
    root.render heading = .error failure ↔ FirstFails IsShown (·.Unshown failure) root.preorder :=
  Except.map_eq_error.trans (lines_eq_error "" true root failure)

end Node

end FormulaTrace
