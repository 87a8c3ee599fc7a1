import Rewind.Yaml.Error

/-!
# Points in YAML text

A point is a place in the text together with what is left of it.  Line breaks are the line feed, the
carriage return, and three characters beyond ASCII; the first of them and its kin are read as a line
feed.  A byte order mark takes no column.
-/

namespace Rewind.Yaml

/-- Whether a character ends a line. -/
def isBreak (c : Char) : Bool :=
  c = '\n' || c = '\r' || c = '\u0085' || c = '\u2028' || c = '\u2029'

/-- Whether a character is a blank, a tab or ends a line. -/
def isSpace (c : Char) : Bool := c = ' ' || c = '\t' || isBreak c

/-- Whether a word ends here: at a space or at the end of the text. -/
def endsWord (next : Option Char) : Bool := next.all isSpace

/-- Whether only a blank, a line break or the end of the text is here. -/
def endsField (next : Option Char) : Bool := next.all fun c => c = ' ' || isBreak c

/-- Whether the line ends here. -/
def endsLine (next : Option Char) : Bool := next.all isBreak

/-- Whether a character may stand in YAML text at all. -/
def isPrintable (c : Char) : Bool :=
  let n := c.toNat
  c = '\t' || c = '\n' || c = '\r' || (0x20 ≤ n && n ≤ 0x7E) || n = 0x85 ||
    (0xA0 ≤ n && n ≤ 0xD7FF) || (0xE000 ≤ n && n ≤ 0xFFFD) || 0x10000 ≤ n

/-- A place in the text and what is left there. -/
structure Point where
  rest : List Char
  /-- The number of characters of the whole text. -/
  size : Nat
  index : Nat := 0
  line : Nat := 0
  column : Nat := 0

namespace Point

/-- The start of a text. -/
def ofText (text : List Char) : Point := { rest := text, size := text.length }

/-- The next character. -/
def next (p : Point) : Option Char := p.rest.head?

/-- The character after the next one. -/
def second (p : Point) : Option Char := p.rest.tail.head?

/-- Whether the next character is the given one. -/
def startsWith (p : Point) (c : Char) : Bool := p.next = some c

/-- The point after the next character. -/
def step (p : Point) : Point :=
  match p.rest with
  | [] => p
  | c :: rest =>
    if isBreak c && !(c = '\r' && rest.head? = some '\n') then
      { p with rest, index := p.index + 1, line := p.line + 1, column := 0 }
    else
      { p with
        rest
        index := p.index + 1
        column := if c = '\uFEFF' then p.column else p.column + 1 }

/-- The point after some characters. -/
def forward (p : Point) : Nat → Point
  | 0 => p
  | n + 1 => p.step.forward n

/-- The longest run of characters of a class, and the point after it. -/
def span (p : Point) (f : Char → Bool) : List Char × Point :=
  let run := p.rest.takeWhile f
  (run, p.forward run.length)

/-- The point after blanks. -/
def skipBlanks (p : Point) : Point := (p.span (· = ' ')).2

/-- The point at the end of the line. -/
def skipLine (p : Point) : Point := (p.span fun c => !isBreak c).2

/-- Skips a comment, if one starts here. -/
def skipComment (p : Point) : Point := if p.startsWith '#' then p.skipLine else p

/-- The text of a line break and the point after it; no text if there is no line break here. -/
def lineBreak (p : Point) : List Char × Point :=
  match p.next with
  | none => ([], p)
  | some c =>
    if c = '\r' then (['\n'], if p.second = some '\n' then p.forward 2 else p.step)
    else if c = '\n' || c = '\u0085' then (['\n'], p.step)
    else if isBreak c then ([c], p.step)
    else ([], p)

/-- Whether three characters stand here as a word of their own. -/
def atMark (p : Point) (c : Char) : Bool :=
  [c, c, c].isPrefixOf p.rest && endsWord (p.rest.drop 3).head?

/-- Whether the mark of the start or the end of a document stands here. -/
def atSeparator (p : Point) : Bool := p.atMark '-' || p.atMark '.'

/-- A bound for how often anything can be read from here on: one more than the characters left. -/
def fuel (p : Point) : Nat := p.size - p.index + 1

end Point

end Rewind.Yaml
