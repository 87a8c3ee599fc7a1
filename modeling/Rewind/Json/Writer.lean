import Rewind.Json.Basic
import Rewind.SortedMap
import Rewind.Text.Integer

/-!
# Writing JSON

Two written forms, both in ASCII.  The canonical form (`Json.canonical?`) has no blanks and sorts the
fields of every object by name, so it is one text for all orders of the fields.  A value with an
integer that has too many digits has no such form.  The indented form (`Json.indented`) keeps the
order of the fields and puts every item on a line of its own.
-/

namespace Rewind.Json

/-! ## Text -/

/-- Four hexadecimal digits in lower case. -/
def hexUnit (u : Nat) : List Char :=
  [Nat.digitChar (u / 4096 % 16), Nat.digitChar (u / 256 % 16), Nat.digitChar (u / 16 % 16),
    Nat.digitChar (u % 16)]

/-- The escape of a 16-bit unit. -/
def unitEscape (u : Nat) : List Char := '\\' :: 'u' :: hexUnit u

/-- A character inside a text: printable ASCII as it is, a few by a letter, the others by their
16-bit units. -/
def escapeChar (c : Char) : List Char :=
  if c = '"' then ['\\', '"']
  else if c = '\\' then ['\\', '\\']
  else if ' ' ≤ c ∧ c ≤ '~' then [c]
  else if c = '\n' then ['\\', 'n']
  else if c = '\r' then ['\\', 'r']
  else if c = '\t' then ['\\', 't']
  else if c = '\x0c' then ['\\', 'f']
  else if c = '\x08' then ['\\', 'b']
  else
    let n := c.toNat
    if n < 0x10000 then unitEscape n
    else unitEscape (0xD800 + (n - 0x10000) / 0x400) ++ unitEscape (0xDC00 + (n - 0x10000) % 0x400)

/-- A code point inside a text; a half is a 16-bit unit of its own. -/
def escapePoint : CodePoint → List Char
  | .char c => escapeChar c
  | .half n => unitEscape (CodePoint.half n).toNat

/-- The code points of a text inside its quotes. -/
def escapePoints : List CodePoint → List Char
  | [] => []
  | c :: rest => escapePoint c ++ escapePoints rest

/-- A text between its quotes. -/
def quoted (t : Text) : List Char := '"' :: escapePoints t.points ++ ['"']

/-! ## Numbers -/

/-- An integer in decimal. -/
def integerChars (n : Int) : List Char :=
  if n < 0 then '-' :: Nat.toDigits 10 n.natAbs else Nat.toDigits 10 n.natAbs

/-- A floating point number: the shortest digits, or a word. -/
def floatChars : Binary64 → List Char
  | .nan => "NaN".toList
  | .infinite s => if s then "-Infinity".toList else "Infinity".toList
  | x => x.text.toList

/-! ## The canonical form -/

/-- The parts with a separator between each two. -/
def joinWith (separator : List Char) : List (List Char) → List Char
  | [] => []
  | [part] => part
  | part :: rest => part ++ separator ++ joinWith separator rest

/-- A field from its name and its written value. -/
def fieldChars (colon : List Char) (f : Text × List Char) : List Char := quoted f.1 ++ colon ++ f.2

mutual

/-- The characters of the canonical form. -/
def canonicalChars : Json → List Char
  | null => "null".toList
  | bool b => if b then "true".toList else "false".toList
  | int n => integerChars n
  | float x => floatChars x
  | text s => quoted s
  | list items => '[' :: joinWith [','] (canonicalItems items) ++ [']']
  | object fields =>
    let sorted := (SortedMap.ofList (canonicalFields fields)).entries
    '\x7b' :: joinWith [','] (sorted.map (fieldChars [':'])) ++ ['\x7d']

/-- The canonical forms of the items. -/
def canonicalItems : List Json → List (List Char)
  | [] => []
  | v :: rest => canonicalChars v :: canonicalItems rest

/-- The names with the canonical forms of their values. -/
def canonicalFields : List (Text × Json) → List (Text × List Char)
  | [] => []
  | (name, v) :: rest => (name, canonicalChars v) :: canonicalFields rest

end

mutual

/-- Whether no integer in a value has more digits than are written. -/
def isWritable : Json → Bool
  | int n => Integer.isWritable n
  | list items => itemsWritable items
  | object fields => fieldsWritable fields
  | _ => true

/-- Whether no integer in the items has more digits than are written. -/
def itemsWritable : List Json → Bool
  | [] => true
  | v :: rest => v.isWritable && itemsWritable rest

/-- Whether no integer in the values of the fields has more digits than are written. -/
def fieldsWritable : List (Text × Json) → Bool
  | [] => true
  | (_, v) :: rest => v.isWritable && fieldsWritable rest

end

/-- The text without blanks, fields sorted by name; none if an integer cannot be written. -/
def canonical? (v : Json) : Option String :=
  if v.isWritable then some (String.ofList v.canonicalChars) else none

/-! ## The indented form -/

/-- A new line indented to a depth. -/
def newLine (depth : Nat) : List Char := '\n' :: List.replicate (2 * depth) ' '

/-- Written parts between brackets, each on its own line one level deeper. -/
def block (depth : Nat) (opening closing : Char) (parts : List (List Char)) : List Char :=
  if parts.isEmpty then [opening, closing]
  else
    opening :: newLine (depth + 1) ++ joinWith (',' :: newLine (depth + 1)) parts
      ++ newLine depth ++ [closing]

mutual

/-- The characters of the indented form at a depth. -/
def indentedChars (depth : Nat) : Json → List Char
  | null => "null".toList
  | bool b => if b then "true".toList else "false".toList
  | int n => integerChars n
  | float x => floatChars x
  | text s => quoted s
  | list items => block depth '[' ']' (indentedItems (depth + 1) items)
  | object fields => block depth '\x7b' '\x7d' (indentedFields (depth + 1) fields)

/-- The indented forms of the items. -/
def indentedItems (depth : Nat) : List Json → List (List Char)
  | [] => []
  | v :: rest => indentedChars depth v :: indentedItems depth rest

/-- The fields with the indented forms of their values. -/
def indentedFields (depth : Nat) : List (Text × Json) → List (List Char)
  | [] => []
  | (name, v) :: rest =>
    fieldChars [':', ' '] (name, indentedChars depth v) :: indentedFields depth rest

end

/-- The text with two blanks of indentation for each level.  Whether the integers can be written is
left to the caller, who knows them. -/
def indented (v : Json) : String := String.ofList (indentedChars 0 v)

end Rewind.Json
