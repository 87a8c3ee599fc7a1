import Rewind.Text.Digit
import Rewind.Text.Hex
import Rewind.Text.Integer
import Rewind.Text.Lines

/-!
# Literals

Which texts write a plain value: numbers, texts, bytes, the words for truth and nothing, and tuples,
maps and sets of them.  Nothing is said about which value it is.  `Literal.accepts` first makes
tokens of a text and then reads them; what matters of a part is its `Shape`.
-/

namespace Rewind.Console.Literal

/-! ## Tokens -/

/-- A token of a literal. -/
inductive Token where
  | number (imaginary : Bool)
  | text (isBytes : Bool)
  /-- A word for truth or nothing, or the three dots. -/
  | constant
  /-- The word that makes a set without members. -/
  | setWord
  | sign
  | comma
  | colon
  | openParen
  | closeParen
  | openBrace
  | closeBrace
  deriving DecidableEq, Repr

/-- What was read, and what follows it. -/
abbrev Read (α : Type) : Type := Option (α × List Char)

/-- A character that goes on with a name. -/
def isNameChar (c : Char) : Bool := c.isAlphanum || c = '_' || 128 ≤ c.toNat

/-- Digits with single underscores between them, or no digits at all. -/
def digitRun? (isDigit : Char → Bool) (cs : List Char) : Read (List Char) :=
  let run := cs.takeWhile fun c => isDigit c || c = '_'
  if run.isEmpty then some ([], cs)
  else (Integer.dropUnderscores? run).map fun digits => (digits, cs.drop run.length)

/-- Whether a number ends where some characters follow it. -/
def endsNumber (cs : List Char) : Bool := !cs.head?.any isNameChar

/-- A number in a base behind the letter for it. -/
def based? (isDigit : Char → Bool) (cs : List Char) : Read Token :=
  let cs := match cs with
    | '_' :: rest => rest
    | cs => cs
  match digitRun? isDigit cs with
  | some (_ :: _, rest) => if endsNumber rest then some (.number false, rest) else none
  | _ => none

/-- An exponent, if there is one; whether there is. -/
def exponent? (cs : List Char) : Read Bool :=
  match cs with
  | [] => some (false, [])
  | c :: rest =>
    if c = 'e' ∨ c = 'E' then
      match digitRun? Char.isDigit (Integer.splitSign rest).2 with
      | some (_ :: _, rest) => some (true, rest)
      | _ => none
    else some (false, cs)

/-- A fraction, if there is one: its digits. -/
def fraction? (cs : List Char) : Read (Option (List Char)) :=
  match cs with
  | '.' :: rest => (digitRun? Char.isDigit rest).map fun (ds, rest) => (some ds, rest)
  | cs => some (none, cs)

/-- A whole number has no leading zeros, unless it is zero, and no more digits than are read. -/
def isWhole (digits : List Char) : Bool :=
  digits.length ≤ Integer.maxDigits && (digits.head? ≠ some '0' || digits.all (· = '0'))

/-- A decimal number. -/
def decimal? (cs : List Char) : Option (Token × List Char) := do
  let (digits, rest) ← digitRun? Char.isDigit cs
  let (fraction, rest) ← fraction? rest
  if digits.isEmpty && (fraction.getD []).isEmpty then none
  let (hasExponent, rest) ← exponent? rest
  let imaginary := rest.head? = some 'j' || rest.head? = some 'J'
  let rest := if imaginary then rest.tail else rest
  if !endsNumber rest then none
  if fraction.isSome || hasExponent || imaginary || isWhole digits then
    return (.number imaginary, rest)
  none

/-- A number. -/
def number? (cs : List Char) : Read Token :=
  match cs with
  | '0' :: c :: rest =>
    if c = 'x' ∨ c = 'X' then based? (fun c => (hexDigit? c).isSome) rest
    else if c = 'o' ∨ c = 'O' then based? (fun c => '0' ≤ c && c ≤ '7') rest
    else if c = 'b' ∨ c = 'B' then based? (fun c => c = '0' || c = '1') rest
    else decimal? cs
  | cs => decimal? cs

/-- How the characters between quotes are read. -/
structure Quoting where
  quote : Char
  /-- Whether there are three quotes at either end. -/
  isTriple : Bool
  isRaw : Bool
  isBytes : Bool

/-- The number of hexadecimal digits that an escape wants. -/
def escapeDigits (q : Quoting) (c : Char) : Nat :=
  if c = 'x' then 2 else if q.isBytes then 0 else if c = 'u' then 4 else if c = 'U' then 8 else 0

/-- Whether what follows a backslash is an escape.  Characters by name are not known. -/
def isEscape (q : Quoting) (c : Char) (rest : List Char) : Bool :=
  let count := escapeDigits q c
  let digits := (rest.take count).filterMap hexDigit?
  q.isRaw ||
    ((q.isBytes || c ≠ 'N') && digits.length = count
      && digits.foldl (fun n d => n * 16 + d) 0 ≤ 0x10FFFF)

/-- What follows the quotes at the end. -/
def afterQuotes? (q : Quoting) : List Char → Option (List Char)
  | '\\' :: c :: rest =>
    if isEscape q c rest && (!q.isBytes || c.toNat < 128) then afterQuotes? q rest else none
  | c :: rest =>
    if c = q.quote then
      if !q.isTriple then some rest
      else
        match rest with
        | d :: e :: rest' => if d = c ∧ e = c then some rest' else afterQuotes? q rest
        | _ => none
    else if (c = '\n' ∧ !q.isTriple) ∨ (q.isBytes ∧ 128 ≤ c.toNat) then none
    else afterQuotes? q rest
  | [] => none

/-- A text or bytes behind the letters in front of the quotes. -/
def quoted? (letters : List Char) (cs : List Char) : Read Token :=
  let letters := letters.map Char.toLower
  let isBytes := 'b' ∈ letters
  let isRaw := 'r' ∈ letters
  if letters ∉ [[], ['r'], ['b'], ['u'], ['b', 'r'], ['r', 'b']] then none
  else
    match cs with
    | c :: d :: e :: rest =>
      if d = c ∧ e = c then (afterQuotes? ⟨c, true, isRaw, isBytes⟩ rest).map (.text isBytes, ·)
      else (afterQuotes? ⟨c, false, isRaw, isBytes⟩ (d :: e :: rest)).map (.text isBytes, ·)
    | c :: rest => (afterQuotes? ⟨c, false, isRaw, isBytes⟩ rest).map (.text isBytes, ·)
    | [] => none

/-- A word, or a text with letters in front of it. -/
def word? (cs : List Char) : Read Token :=
  let name := cs.takeWhile isNameChar
  let rest := cs.drop name.length
  if rest.head? = some '"' ∨ rest.head? = some '\'' then quoted? name rest
  else if name ∈ ["True".toList, "False".toList, "None".toList] then some (.constant, rest)
  else if name = "set".toList then some (.setWord, rest)
  else none

/-- The sign that a character is. -/
def mark? : Char → Option Token
  | '+' | '-' => some .sign
  | ',' => some .comma
  | ':' => some .colon
  | '(' => some .openParen
  | ')' => some .closeParen
  | '\x7b' => some .openBrace
  | '\x7d' => some .closeBrace
  | _ => none

/-- The token in front of a text. -/
def token? (cs : List Char) : Read Token :=
  match cs with
  | [] => none
  | '.' :: '.' :: '.' :: rest => some (.constant, rest)
  | c :: rest =>
    if c.isDigit ∨ c = '.' then number? cs
    else if c = '"' ∨ c = '\'' then quoted? [] cs
    else if isNameChar c then word? cs
    else (mark? c).map (·, rest)

/-- The most brackets that stand open. -/
def maxDepth : Nat := 200

/-- How many brackets stand open behind a token. -/
def depthAfter (depth : Nat) : Token → Nat
  | .openParen | .openBrace => depth + 1
  | .closeParen | .closeBrace => depth - 1
  | _ => depth

/-- Whether there are only blanks, lines without anything and comments. -/
def isIdle (inComment : Bool) : List Char → Bool
  | [] => true
  | c :: rest =>
    if c = '\n' then isIdle false rest
    else if inComment then isIdle true rest
    else if c = '#' then isIdle true rest
    else (c = ' ' || c = '\t' || c = '\x0c') && isIdle false rest

/-- The tokens of a text at a depth of open brackets.  A line ends it where no bracket is open. -/
def tokensFrom? : Nat → Nat → List Char → Option (List Token)
  | 0, _, _ => none
  | _, _, [] => some []
  | fuel + 1, depth, c :: rest =>
    if c = ' ' ∨ c = '\t' ∨ c = '\x0c' then tokensFrom? fuel depth rest
    else if c = '#' then tokensFrom? fuel depth (rest.dropWhile (· ≠ '\n'))
    else if c = '\n' then
      if depth = 0 then if isIdle false rest then some [] else none
      else tokensFrom? fuel depth rest
    else if c = '\\' then if rest.head? = some '\n' then tokensFrom? fuel depth rest.tail else none
    else
      match token? (c :: rest) with
      | some (t, rest) =>
        if maxDepth < depthAfter depth t then none
        else (tokensFrom? fuel (depthAfter depth t) rest).map (t :: ·)
      | none => none

/-- A text without the idle lines in front; the first other line has no blank in front. -/
def dropIdleLines? (cs : List Char) : Option (List Char) :=
  let lines := (cs.splitOn '\n').dropWhile fun line => line = ['\\'] || isIdle false line
  match lines with
  | (c :: _) :: _ => if c = ' ' ∨ c = '\t' then none else some (['\n'].intercalate lines)
  | _ => none

/-- The tokens of a text. -/
def tokens? (cs : List Char) : Option (List Token) :=
  if '\x00' ∈ cs then none
  else (dropIdleLines? (unixLines cs)).bind fun cs => tokensFrom? (cs.length + 1) 0 cs

/-! ## Shapes -/

/-- What matters of a part of a literal. -/
inductive Shape where
  /-- A number without a sign. -/
  | real
  /-- An imaginary number without a sign. -/
  | imaginary
  | signedReal
  /-- Anything else that may be a key. -/
  | key
  /-- What may not be a key: a map, a set, or a tuple with one of them. -/
  | other
  deriving DecidableEq, Repr

/-- The shape of a tuple. -/
def tuple (shapes : List Shape) : Shape := if .other ∈ shapes then .other else .key

/-- Other texts, or other bytes, behind a first one are part of it. -/
def dropTexts? (isBytes : Bool) : List Token → Option (List Token)
  | .text b :: rest => if b = isBytes then dropTexts? isBytes rest else none
  | ts => some ts

/-- The shape of a number behind a sign. -/
def Shape.signed? : Shape → Option Shape
  | real => some signedReal
  | imaginary => some key
  | _ => none

mutual

/-- A literal: a part of one, with a sign or without, and an imaginary number added to it or not. -/
def sum? : Nat → List Token → Option (Shape × List Token)
  | 0, _ => none
  | fuel + 1, ts => do
    let (left, rest) ←
      match ts with
      | .sign :: rest => do
        let (s, rest) ← atom? fuel rest
        pure (← s.signed?, rest)
      | ts => atom? fuel ts
    match rest with
    | .sign :: rest =>
      if left = .real ∨ left = .signedReal then
        match ← atom? fuel rest with
        | (.imaginary, rest) => return (.key, rest)
        | _ => none
      else none
    | rest => return (left, rest)

/-- A part of a literal that no sign parts. -/
def atom? : Nat → List Token → Option (Shape × List Token)
  | 0, _ => none
  | fuel + 1, ts =>
    match ts with
    | .number imaginary :: rest => some (if imaginary then .imaginary else .real, rest)
    | .text isBytes :: rest => (dropTexts? isBytes rest).map (.key, ·)
    | .constant :: rest => some (.key, rest)
    | .setWord :: .openParen :: .closeParen :: rest => some (.other, rest)
    | .openParen :: .closeParen :: rest => some (.key, rest)
    | .openParen :: rest => do
      let (first, rest) ← sum? fuel rest
      if rest.head? = some .closeParen then return (first, rest.tail)
      let (more, rest) ← items? fuel .closeParen rest
      return (tuple (first :: more), rest)
    | .openBrace :: .closeBrace :: rest => some (.other, rest)
    | .openBrace :: rest => do
      let (first, rest) ← sum? fuel rest
      if first = .other then none
      match rest with
      | .colon :: rest => do
        let (_, rest) ← sum? fuel rest
        return (.other, ← entries? fuel rest)
      | rest => do
        let (more, rest) ← items? fuel .closeBrace rest
        if .other ∈ more then none else return (.other, rest)
    | _ => none

/-- The literals behind a first one, with commas in front of them, up to a bracket. -/
def items? : Nat → Token → List Token → Option (List Shape × List Token)
  | 0, _, _ => none
  | fuel + 1, closing, ts =>
    match ts with
    | .comma :: t :: rest =>
      if t = closing then some ([], rest)
      else do
        let (s, rest) ← sum? fuel (t :: rest)
        let (more, rest) ← items? fuel closing rest
        return (s :: more, rest)
    | t :: rest => if t = closing then some ([], rest) else none
    | [] => none

/-- The entries of a map behind a first one, up to its bracket. -/
def entries? : Nat → List Token → Option (List Token)
  | 0, _ => none
  | fuel + 1, ts =>
    match ts with
    | .closeBrace :: rest | .comma :: .closeBrace :: rest => some rest
    | .comma :: rest => do
      let (k, rest) ← sum? fuel rest
      match k, rest with
      | .other, _ => none
      | _, .colon :: rest => do
        let (_, rest) ← sum? fuel rest
        entries? fuel rest
      | _, _ => none
    | _ => none

end

/-- Whether a text writes a plain value; a tuple needs no brackets around it. -/
def accepts (cs : List Char) : Bool :=
  match tokens? cs with
  | none => false
  | some ts =>
    let fuel := 4 * ts.length + 8
    match sum? fuel ts with
    | none => false
    | some (_, []) => true
    | some (_, rest) => (items? fuel .closeParen (rest ++ [.closeParen])).any fun r => r.2.isEmpty

end Rewind.Console.Literal
