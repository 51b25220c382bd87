/-!
Occurrences of a pattern in a text: leftmost first, and none inside another.
-/
namespace FormulaTrace.Text

/-- A character outside of every occurrence, or an occurrence. -/
inductive Piece (α : Type) where
  | plain (c : Char)
  | found (value : α)

/-- What is read at a position, given the character before it and the text from there on: a value
and the text left over. -/
abbrev Rule (α : Type) := Option Char → List Char → Option (α × List Char)

namespace Piece

variable {α : Type}

def value? : Piece α → Option α
  | plain _ => none
  | found value => some value

def fill (replacement : List Char) : Piece α → List Char
  | plain c => [c]
  | found _ => replacement

/-- The pieces of a text of which the first `skip` characters belong to an occurrence already read
and `before` is the character in front. -/
def scan (rule : Rule α) : Nat → Option Char → List Char → List (Piece α)
  | _, _, [] => []
  | skip + 1, _, c :: rest => scan rule skip (some c) rest
  | 0, before, c :: rest =>
    match rule before (c :: rest) with
    | some (value, after) => found value :: scan rule (rest.length - after.length) (some c) rest
    | none => plain c :: scan rule 0 (some c) rest

theorem scan_skip (rule : Rule α) (before : Option Char) (read after : List Char) :
    scan rule read.length before (read ++ after) = scan rule 0 (read.getLast?.or before) after := by
  induction read generalizing before with
  | nil => cases after <;> simp
  | cons c rest ih =>
    simp only [List.length_cons, List.cons_append, scan]
    rw [ih]
    cases rest <;> simp [List.getLast?_cons]

theorem scan_found {rule : Rule α} {before : Option Char} {c : Char} {read after : List Char}
    {value : α} (h : rule before (c :: (read ++ after)) = some (value, after)) :
    scan rule 0 before (c :: (read ++ after)) =
      found value :: scan rule 0 ((c :: read).getLast?) after := by
  have size : (read ++ after).length - after.length = read.length := by simp
  simp only [scan, h, size, scan_skip]
  cases read with
  | nil => simp
  | cons d rest => simp [List.getLast?_cons]

theorem scan_plain {rule : Rule α} {before : Option Char} {c : Char} {rest : List Char}
    (h : rule before (c :: rest) = none) :
    scan rule 0 before (c :: rest) = plain c :: scan rule 0 (some c) rest := by
  simp [scan, h]

end Piece

variable {α : Type}

def pieces (rule : Rule α) (text : List Char) : List (Piece α) := Piece.scan rule 0 none text

def occurrences (rule : Rule α) (text : List Char) : List α :=
  (pieces rule text).filterMap Piece.value?

def replaceOccurrences (rule : Rule α) (replacement text : List Char) : List Char :=
  (pieces rule text).flatMap (Piece.fill replacement)

end FormulaTrace.Text
