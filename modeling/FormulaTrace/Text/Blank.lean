import FormulaTrace.Text.CodeRanges

/-!
White space, and text without the white space at its ends.
-/
namespace FormulaTrace.Text

/-- White space beyond ASCII: the separators of lines, paragraphs and words, and the next-line
control. -/
def wideBlanks : CodeRanges := [
    (0x85, 0x85), (0xA0, 0xA0), (0x1680, 0x1680), (0x2000, 0x200A), (0x2028, 0x2029),
    (0x202F, 0x202F), (0x205F, 0x205F), (0x3000, 0x3000)]

/-- White space: tabs and line breaks, the four information separators, the space, and the wide
blanks. -/
def isBlank (c : Char) : Bool :=
  if c.toNat < 128 then
    (9 ≤ c.toNat && c.toNat ≤ 13) || (28 ≤ c.toNat && c.toNat ≤ 32)
  else wideBlanks.contains c.toNat

def trimStart (text : List Char) : List Char := text.dropWhile isBlank

def trimEnd (text : List Char) : List Char := (text.reverse.dropWhile isBlank).reverse

def trim (text : List Char) : List Char := trimEnd (trimStart text)

end FormulaTrace.Text
