import FormulaTrace.Text.Blank
import FormulaTrace.Text.Break
import FormulaTrace.Text.Occurrence

/-!
Files of assignments: on each line a name, an equals sign and a value.

A value in quotes may run over several lines.  A value may ask for the text of another name.  Lines
that cannot be understood are passed over.
-/
namespace FormulaTrace

open Text

/-- Names and the texts assigned to them; of equal names the first counts. -/
abbrev Assignments := List (String × String)

namespace Assignments

/-- A name in a file; without an equals sign it takes back what was assigned to the name above. -/
structure Entry where
  name : List Char
  value : Option (List Char)

/-- Line breaks of every kind become line feeds. -/
def unifyBreaks : List Char → List Char
  | [] => []
  | '\r' :: '\n' :: rest => '\n' :: unifyBreaks rest
  | '\r' :: rest => '\n' :: unifyBreaks rest
  | c :: rest => c :: unifyBreaks rest

/-- White space that does not end a line. -/
def isLineBlank (c : Char) : Bool := isBlank c && c ≠ '\n'

def isNameCharacter (c : Char) : Bool := !isBlank c && c ≠ '=' && c ≠ '#'

def dropLine (text : List Char) : List Char := (text.dropWhile (· ≠ '\n')).drop 1

/-- Text up to a closing quote, and the text after it; a character behind a backslash closes
nothing. -/
def readQuoted (quote : Char) : List Char → Option (List Char × List Char)
  | [] => none
  | '\\' :: c :: rest => (readQuoted quote rest).map fun (text, after) => ('\\' :: c :: text, after)
  | c :: rest =>
    if c = quote then some ([], rest)
    else (readQuoted quote rest).map fun (text, after) => (c :: text, after)

/-- What a character behind a backslash stands for, between quotes of a kind. -/
def escapes (quote : Char) : List (Char × Char) :=
  [('\\', '\\'), ('\'', '\'')] ++
    if quote = '"' then
      [('"', '"'), ('a', '\x07'), ('b', '\x08'), ('f', '\x0c'), ('n', '\n'), ('r', '\r'),
        ('t', '\t'), ('v', '\x0b')]
    else []

def unescape (escapes : List (Char × Char)) : List Char → List Char
  | [] => []
  | [c] => [c]
  | c :: d :: rest =>
    if c = '\\' then
      match escapes.lookup d with
      | some meant => meant :: unescape escapes rest
      | none => c :: unescape escapes (d :: rest)
    else c :: unescape escapes (d :: rest)

def dropComment : List Char → List Char
  | [] => []
  | c :: rest => if isBlank c && rest.head? = some '#' then [] else c :: dropComment rest

/-- Reading ends with a result, or with the text that stopped it. -/
abbrev Read := Except (List Char)

def readQuotedValue (quote : Char) (text : List Char) : Read (List Char × List Char) :=
  match readQuoted quote text with
  | some (value, after) => .ok (unescape (escapes quote) value, after)
  | none => .error (quote :: text)

def readValue (text : List Char) : Read (List Char × List Char) :=
  match text.dropWhile isLineBlank with
  | '\'' :: rest => readQuotedValue '\'' rest
  | '"' :: rest => readQuotedValue '"' rest
  | _ => .ok (trim (dropComment (text.takeWhile (· ≠ '\n'))), text.dropWhile (· ≠ '\n'))

def readName : List Char → Read (Option (List Char) × List Char)
  | '#' :: rest => .ok (none, '#' :: rest)
  | '\'' :: rest =>
    match breakFirst '\'' rest with
    | (c :: name, some after) => .ok (some (c :: name), after)
    | _ => .error ('\'' :: rest)
  | text =>
    if text.head?.any isNameCharacter then
      .ok (some (text.takeWhile isNameCharacter), text.dropWhile isNameCharacter)
    else .error text

def skipExport (text : List Char) : List Char :=
  let rest := text.drop 6
  if text.take 6 = "export".toList ∧ rest.head?.any isLineBlank then rest.dropWhile isLineBlank
    else text

/-- The text after the end of a line, before which only a comment may stand. -/
def readEnd (text : List Char) : Read (List Char) :=
  match text.dropWhile isLineBlank with
  | [] => .ok []
  | '\n' :: rest => .ok rest
  | '#' :: rest => .ok (dropLine rest)
  | _ => .error text

def readEntry (text : List Char) : Read (Option Entry × List Char) := do
  let (name, after) ← readName (skipExport text)
  let (value, after) ←
    match after.dropWhile isLineBlank with
    | '=' :: rest => do
      let (value, after) ← readValue rest
      pure (some value, after)
    | after => pure (none, after)
  return (name.map fun name => ⟨name, value⟩, ← readEnd after)

/-- The entries of a text in order; from an entry that stops the reading it goes on with the next
line. -/
def entries (text : List Char) : List Entry :=
  let start := trimStart text
  if start = [] then []
  else
    let (entry, after) :=
      match readEntry start with
      | .ok (entry, after) => (entry, after)
      | .error stopped => (none, dropLine stopped)
    if after.length < text.length then entry.toList ++ entries after else entry.toList
termination_by text.length

/-- A place in a value where the text of a name is asked for, and the text to take in its
absence. -/
structure Demand where
  name : List Char
  fallback : List Char

/-- A dollar sign and, in braces, a name and perhaps a text behind a colon and a hyphen. -/
def demandRule : Rule Demand
  | _, '$' :: '\x7b' :: rest =>
    let isInner (c : Char) : Bool := c ≠ '\x7d' && c ≠ ':'
    match rest.dropWhile isInner with
    | '\x7d' :: after => some (⟨rest.takeWhile isInner, []⟩, after)
    | ':' :: '-' :: more =>
      match breakFirst '\x7d' more with
      | (fallback, some after) => some (⟨rest.takeWhile isInner, fallback⟩, after)
      | (_, none) => none
    | _ => none
  | _, _ => none

def expand (known : List (String × Option String)) (value : List Char) : String :=
  let parts := (pieces demandRule value).map fun
    | .plain c => [c]
    | .found demand =>
      match known.lookup (String.ofList demand.name) with
      | some text => (text.getD "").toList
      | none => demand.fallback
  String.ofList parts.flatten

/-- Names with what was said about them last, in the order in which they were first named. -/
def put (name : String) (text : Option String) :
    List (String × Option String) → List (String × Option String)
  | [] => [(name, text)]
  | (other, old) :: rest =>
    if other = name then (name, text) :: rest else (other, old) :: put name text rest

/-- What the entries of a file say about names, one by one. -/
def resolve (environment : Assignments) (entries : List Entry) : List (String × Option String) :=
  let outside := environment.map fun (name, text) => (name, some text)
  entries.foldl
    (fun known entry => put (String.ofList entry.name) (entry.value.map (expand (known ++ outside)))
      known)
    []

/-- Why a text cannot be assigned to a name. -/
inductive Error where
  | nullCharacter
  | equalsSign

def Error.message : Error → String
  | nullCharacter => "embedded null byte"
  | equalsSign => "illegal environment variable name"

def check (assignments : Assignments) : Except Error Assignments :=
  assignments.mapM fun (name, text) =>
    if name.toList.contains '\x00' || text.toList.contains '\x00' then .error .nullCharacter
    else if name.toList.contains '=' then .error .equalsSign
    else .ok (name, text)

/-- The assignments in a text, in which a mark of the byte order may come first. -/
def ofText (environment : Assignments) (text : String) : Assignments :=
  let body := match text.toList with
    | '\ufeff' :: rest => rest
    | whole => whole
  (resolve environment (entries (unifyBreaks body))).filterMap fun (name, text) =>
    text.map (name, ·)

def withFile (environment : Assignments) (text : String) : Except Error Assignments :=
  (check (ofText environment text)).map (· ++ environment)

end Assignments

end FormulaTrace
