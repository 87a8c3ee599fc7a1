import Rewind.Json.Basic
import Rewind.Json.Mistake
import Rewind.Text.Hex

/-!
# Reading JSON

`Json.ofText` reads a whole text.  The parts below it work on what is left of the text and hand back
what they leave; a mistake is placed by how much is left at it, which `ofText` turns into an offset.
Numbers take the longest match of the grammar, and what follows is judged by the next rule.
-/

namespace Rewind.Json

/-- Why reading stopped, placed by the number of characters left. -/
inductive Halt where
  | mistake (reason : Reason) (unread : Nat)
  | oversizedInteger
  | tooDeep
  deriving DecidableEq, Repr

/-- The mistake at the start of what is left. -/
def haltAt {α : Type} (reason : Reason) (rest : List Char) : Except Halt α :=
  .error (.mistake reason rest.length)

/-- The characters that may stand between two parts of JSON. -/
def isBlank (c : Char) : Bool := c = ' ' || c = '\t' || c = '\n' || c = '\r'

/-- What is left after blanks. -/
def skipBlanks (s : List Char) : List Char := s.dropWhile isBlank

/-! ## Text -/

/-- The value of four hexadecimal digits. -/
def hexUnit? (a b c d : Char) : Option Nat := do
  let a ← hexDigit? a
  let b ← hexDigit? b
  let c ← hexDigit? c
  let d ← hexDigit? d
  return ((a * 16 + b) * 16 + c) * 16 + d

/-- The character of an escape of one letter. -/
def unescape? : Char → Option Char
  | '"' => some '"'
  | '\\' => some '\\'
  | '/' => some '/'
  | 'b' => some '\x08'
  | 'f' => some '\x0c'
  | 'n' => some '\n'
  | 'r' => some '\r'
  | 't' => some '\t'
  | _ => none

/-- Puts a code point in front of those that have been read. -/
def prepend (c : CodePoint) :
    Except Halt (List CodePoint × List Char) → Except Halt (List CodePoint × List Char)
  | .ok (t, rest) => .ok (c :: t, rest)
  | .error e => .error e

/-- Reads the code points of a text after its opening quote, where `unread` characters were left at
that quote. -/
def readChars (unread : Nat) : List Char → Except Halt (List CodePoint × List Char)
  | [] => .error (.mistake .unterminatedText unread)
  | c :: rest =>
    if c = '"' then .ok ([], rest)
    else if c = '\\' then
      match rest with
      | [] => .error (.mistake .unterminatedText unread)
      | 'u' :: rest' =>
        match rest' with
        | a :: b :: c :: d :: next :: rest'' =>
          match hexUnit? a b c d with
          | some u => prepend (.ofNat u) (readChars unread (next :: rest''))
          | none => .error (.mistake .badUnicodeEscape (rest'.length + 1))
        | _ => .error (.mistake .badUnicodeEscape (rest'.length + 1))
      | e :: rest' =>
        match unescape? e with
        | some c => prepend c (readChars unread rest')
        | none => .error (.mistake .badEscape (rest'.length + 2))
    else if c < ' ' then .error (.mistake .controlCharacter (rest.length + 1))
    else prepend c (readChars unread rest)

/-- Reads a text after its opening quote.  Only escapes write halves, and two of them that make a
pair write its character. -/
def readText (rest : List Char) : Except Halt (Text × List Char) :=
  match readChars (rest.length + 1) rest with
  | .ok (points, rest) => .ok (⟨joinPairs points⟩, rest)
  | .error e => .error e

/-! ## Numbers -/

/-- The parts of a number as written. -/
structure Numeral where
  negative : Bool
  whole : List Char
  /-- The digits after the point; none if there is no point. -/
  fraction : List Char
  /-- The sign and the digits of the exponent, if there is one. -/
  exponent : Option (Bool × List Char)

/-- The whole part: a zero, or digits that start with another one. -/
def wholePart? : List Char → Option (List Char × List Char)
  | '0' :: rest => some (['0'], rest)
  | s =>
    let digits := s.takeWhile Char.isDigit
    if digits.isEmpty then none else some (digits, s.dropWhile Char.isDigit)

/-- The digits after a point, if a point with digits follows. -/
def fractionPart : List Char → List Char × List Char
  | '.' :: rest =>
    let digits := rest.takeWhile Char.isDigit
    if digits.isEmpty then ([], '.' :: rest) else (digits, rest.dropWhile Char.isDigit)
  | s => ([], s)

/-- The sign in front of an exponent's digits. -/
def exponentSign : List Char → Bool × List Char
  | '-' :: rest => (true, rest)
  | '+' :: rest => (false, rest)
  | s => (false, s)

/-- The exponent, if a whole one follows. -/
def exponentPart (s : List Char) : Option (Bool × List Char) × List Char :=
  match s with
  | c :: rest =>
    if c = 'e' ∨ c = 'E' then
      let (negative, rest) := exponentSign rest
      let digits := rest.takeWhile Char.isDigit
      if digits.isEmpty then (none, s) else (some (negative, digits), rest.dropWhile Char.isDigit)
    else (none, s)
  | [] => (none, s)

/-- The longest number at the start of the text. -/
def numeral? (s : List Char) : Option (Numeral × List Char) := do
  let negative := s.head? = some '-'
  let (whole, rest) ← wholePart? (if negative then s.tail else s)
  let (fraction, rest) := fractionPart rest
  let (exponent, rest) := exponentPart rest
  return ({ negative, whole, fraction, exponent }, rest)

/-- The most digits an integer may have. -/
def integerDigits : Nat := 4300

/-- The natural number that decimal digits write. -/
def decimal (digits : List Char) : Nat := Nat.ofDigitChars 10 digits 0

/-- The value of a number: an integer if it is written without point and exponent. -/
def Numeral.value (n : Numeral) : Except Halt Json :=
  if n.fraction.isEmpty && n.exponent.isNone then
    if n.whole.length > integerDigits then .error .oversizedInteger
    else
      let m : Int := decimal n.whole
      .ok (.int (if n.negative then -m else m))
  else
    let power : Int := match n.exponent with
      | none => 0
      | some (negative, digits) => if negative then -(decimal digits : Int) else decimal digits
    .ok (.float
      (.ofDecimal n.negative (decimal (n.whole ++ n.fraction)) (power - n.fraction.length)))

/-- Reads a number or one of the words for an infinite or undefined number. -/
def readNumber (s : List Char) : Except Halt (Json × List Char) :=
  match numeral? s with
  | none => haltAt .expectedValue s
  | some (n, rest) =>
    match n.value with
    | .ok v => .ok (v, rest)
    | .error e => .error e

/-! ## Values -/

/-- The words that stand for a value. -/
def words : List (List Char × Json) :=
  [("null".toList, .null), ("true".toList, .bool true), ("false".toList, .bool false),
   ("NaN".toList, .float .nan), ("Infinity".toList, .float (.infinite false)),
   ("-Infinity".toList, .float (.infinite true))]

/-- The word at the start of the text. -/
def word? (s : List Char) : Option (Json × List Char) :=
  (words.find? fun w => w.1.isPrefixOf s).map fun w => (w.2, s.drop w.1.length)

mutual

/-- Reads the value at the start of what is left, with lists and objects in it down to a depth. -/
def readValue (depth : Nat) : Nat → List Char → Except Halt (Json × List Char)
  | 0, s => haltAt .expectedValue s
  | fuel + 1, s =>
    match s with
    | '"' :: rest =>
      match readText rest with
      | .ok (t, rest) => .ok (.text t, rest)
      | .error e => .error e
    | '[' :: rest =>
      if depth = 0 then .error .tooDeep else
      match skipBlanks rest with
      | ']' :: rest => .ok (.list [], rest)
      | rest =>
        match readItems (depth - 1) fuel rest with
        | .ok (items, rest) => .ok (.list items, rest)
        | .error e => .error e
    | '\x7b' :: rest =>
      if depth = 0 then .error .tooDeep else
      match skipBlanks rest with
      | '\x7d' :: rest => .ok (.object [], rest)
      | rest =>
        match readFields (depth - 1) fuel rest with
        | .ok (fields, rest) => .ok (ofFields fields, rest)
        | .error e => .error e
    | s =>
      match word? s with
      | some r => .ok r
      | none => readNumber s

/-- Reads the items of a list up to its closing bracket. -/
def readItems (depth : Nat) : Nat → List Char → Except Halt (List Json × List Char)
  | 0, s => haltAt .expectedValue s
  | fuel + 1, s =>
    match readValue depth fuel s with
    | .error e => .error e
    | .ok (v, rest) =>
      match skipBlanks rest with
      | ']' :: rest => .ok ([v], rest)
      | ',' :: rest =>
        match readItems depth fuel (skipBlanks rest) with
        | .ok (items, rest) => .ok (v :: items, rest)
        | .error e => .error e
      | rest => haltAt .expectedComma rest

/-- Reads the fields of an object up to its closing brace. -/
def readFields (depth : Nat) : Nat → List Char → Except Halt (List (Text × Json) × List Char)
  | 0, s => haltAt .expectedName s
  | fuel + 1, s =>
    match s with
    | '"' :: rest =>
      match readText rest with
      | .error e => .error e
      | .ok (name, rest) =>
        match skipBlanks rest with
        | ':' :: rest =>
          match readValue depth fuel (skipBlanks rest) with
          | .error e => .error e
          | .ok (v, rest) =>
            match skipBlanks rest with
            | '\x7d' :: rest => .ok ([(name, v)], rest)
            | ',' :: rest =>
              match readFields depth fuel (skipBlanks rest) with
              | .ok (fields, rest) => .ok ((name, v) :: fields, rest)
              | .error e => .error e
            | rest => haltAt .expectedComma rest
        | rest => haltAt .expectedColon rest
    | s => haltAt .expectedName s

end

/-- Reads a text that holds one value and blanks around it. -/
def readWhole (depth : Nat) (s : List Char) : Except Halt Json :=
  if s.head? = some '\uFEFF' then haltAt .byteOrderMark s
  else
    match readValue depth (2 * s.length + 2) (skipBlanks s) with
    | .error e => .error e
    | .ok (v, rest) =>
      match skipBlanks rest with
      | [] => .ok v
      | rest => haltAt .extraData rest

/-- The JSON value that a text writes, with lists and objects inside of each other down to a depth,
or why there is none. -/
def ofText (depth : Nat) (text : String) : Except Failure Json :=
  let s := text.toList
  match readWhole depth s with
  | .ok v => .ok v
  | .error (.mistake reason unread) => .error (.mistake (.ofUnread reason s unread))
  | .error .oversizedInteger => .error .oversizedInteger
  | .error .tooDeep => .error .tooDeep

end Rewind.Json
