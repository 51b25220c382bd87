/-!
Structured documents and their text: on one line, or one element a line.

All text outside of ASCII is escaped, by pairs of units where a code point needs two.
-/
namespace FormulaTrace.Text

inductive Document where
  | null
  | bool (value : Bool)
  | number (text : String)
  | string (value : String)
  | array (items : List Document)
  | object (fields : List (String × Document))

namespace Document

def escapeUnit (unit : Nat) : List Char :=
  let digits := Nat.toDigits 16 unit
  '\\' :: 'u' :: (List.replicate (4 - digits.length) '0' ++ digits)

def escapeChar (c : Char) : List Char :=
  if c = '"' || c = '\\' then ['\\', c]
  else if c = '\n' then ['\\', 'n']
  else if c = '\r' then ['\\', 'r']
  else if c = '\t' then ['\\', 't']
  else if c.toNat = 8 then ['\\', 'b']
  else if c.toNat = 12 then ['\\', 'f']
  else if 32 ≤ c.toNat ∧ c.toNat < 127 then [c]
  else if c.toNat < 0x10000 then escapeUnit c.toNat
  else
    let offset := c.toNat - 0x10000
    escapeUnit (0xD800 + offset / 0x400) ++ escapeUnit (0xDC00 + offset % 0x400)

def quoted (value : String) : List Char := '"' :: (value.toList.flatMap escapeChar ++ ['"'])

def boolText (value : Bool) : List Char := if value then "true".toList else "false".toList

mutual

def inline : Document → List Char
  | null => "null".toList
  | bool value => boolText value
  | number text => text.toList
  | string value => quoted value
  | array items => '[' :: (inlineItems items ++ [']'])
  | object fields => '{' :: (inlineFields fields ++ ['}'])

def inlineItems : List Document → List Char
  | [] => []
  | [item] => inline item
  | item :: rest => inline item ++ ',' :: ' ' :: inlineItems rest

def inlineFields : List (String × Document) → List Char
  | [] => []
  | [(key, item)] => quoted key ++ ':' :: ' ' :: inline item
  | (key, item) :: rest =>
    quoted key ++ ':' :: ' ' :: inline item ++ ',' :: ' ' :: inlineFields rest

end

/-- A new line at a depth, two spaces a level. -/
def lineAt (depth : Nat) : List Char := '\n' :: List.replicate (2 * depth) ' '

mutual

/-- The document with one element a line. -/
def spread (depth : Nat) : Document → List Char
  | null => "null".toList
  | bool value => boolText value
  | number text => text.toList
  | string value => quoted value
  | array [] => ['[', ']']
  | array (item :: rest) => '[' :: (spreadItems (depth + 1) (item :: rest) ++ lineAt depth ++ [']'])
  | object [] => ['{', '}']
  | object (field :: rest) =>
    '{' :: (spreadFields (depth + 1) (field :: rest) ++ lineAt depth ++ ['}'])

def spreadItems (depth : Nat) : List Document → List Char
  | [] => []
  | [item] => lineAt depth ++ spread depth item
  | item :: rest => lineAt depth ++ spread depth item ++ ',' :: spreadItems depth rest

def spreadFields (depth : Nat) : List (String × Document) → List Char
  | [] => []
  | [(key, item)] => lineAt depth ++ quoted key ++ ':' :: ' ' :: spread depth item
  | (key, item) :: rest =>
    lineAt depth ++ quoted key ++ ':' :: ' ' :: spread depth item ++ ',' :: spreadFields depth rest

end

def inlineText (document : Document) : String := String.ofList document.inline

def spreadText (document : Document) : String := String.ofList (document.spread 0)

end Document

end FormulaTrace.Text
