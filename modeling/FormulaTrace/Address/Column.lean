/-!
Column names: letters in bijective base 26, so that `Z` is followed by `AA`.
-/
namespace FormulaTrace

/-- The letters of the column with a number from one up; zero has no letters. -/
def columnLetters (number : Nat) : List Char :=
  if number = 0 then []
  else columnLetters ((number - 1) / 26) ++ [Char.ofNat (65 + (number - 1) % 26)]

def columnNumber (letters : List Char) : Nat :=
  letters.foldl (fun number c => number * 26 + (c.toUpper.toNat - 64)) 0

/-- The last column that has a name of three letters, `ZZZ`. -/
def lastNamedColumn : Nat := 18278

@[simp] theorem columnLetters_zero : columnLetters 0 = [] := by simp [columnLetters]

theorem columnLetters_succ (number : Nat) :
    columnLetters (number + 1) = columnLetters (number / 26) ++
      [Char.ofNat (65 + number % 26)] := by
  rw [columnLetters]
  simp

theorem columnNumber_append_singleton (letters : List Char) (c : Char) :
    columnNumber (letters ++ [c]) = columnNumber letters * 26 + (c.toUpper.toNat - 64) := by
  simp [columnNumber]

end FormulaTrace
