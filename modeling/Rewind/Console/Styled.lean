import Rewind.Console.Grapheme
import Rewind.Text.Blank

/-!
# Text with styles

A text and the styles over parts of it.  No style shows, but they count: what stays together is only
looked for within a stretch of one style, so the ends of the styles decide how wide a line is
(`segments`), and a style may be one that cannot be read.
-/

namespace Rewind.Console

/-- A style over a part of a text. -/
structure Span where
  start : Nat
  stop : Nat
  /-- Whether the style has a color that cannot be read. -/
  faulty : Bool
  deriving DecidableEq, Repr

/-- A text with the styles over it. -/
structure Styled where
  chars : List CodePoint
  spans : List Span
  deriving DecidableEq, Repr

namespace Span

/-- What a span covers of the characters from a place on, if it covers any of them. -/
def within? (place count : Nat) (s : Span) : Option Span :=
  let start := s.start - place
  let stop := min (s.stop - place) count
  if start < stop then some { s with start, stop } else none

/-- What a span covers of the first characters. -/
def cut? (count : Nat) (s : Span) : Option Span :=
  if s.start < count then some { s with stop := min s.stop count } else none

/-- A span further behind. -/
def shift (n : Nat) (s : Span) : Span := { s with start := s.start + n, stop := s.stop + n }

end Span

namespace Styled

/-! ## Parts -/

/-- The part with some characters that stand at a place. -/
def part (t : Styled) (place : Nat) (cs : List CodePoint) : Styled :=
  ⟨cs, t.spans.filterMap (Span.within? place cs.length)⟩

/-- The parts from a place on between some later places. -/
def divideFrom (t : Styled) (place : Nat) (cs : List CodePoint) : List Nat → List Styled
  | [] => [t.part place cs]
  | next :: rest =>
    t.part place (cs.take (next - place)) :: divideFrom t next (cs.drop (next - place)) rest

/-- The parts between some places; with none of them, the whole as it is. -/
def divide (t : Styled) (places : List Nat) : List Styled :=
  if places.isEmpty then [t] else t.divideFrom 0 t.chars places

/-- The parts with some characters each, from a place on, and one more character behind each. -/
def partsFrom (t : Styled) (place : Nat) : List (List CodePoint) → List Styled
  | [] => []
  | cs :: rest => t.part place cs :: partsFrom t (place + cs.length + 1) rest

/-- The lines of a text; a text of one line, as it is. -/
def lines (t : Styled) : List Styled :=
  if .char '\n' ∈ t.chars then t.partsFrom 0 (t.chars.splitOn (.char '\n')) else [t]

/-- Texts one behind the other. -/
def join : List Styled → Styled
  | [] => ⟨[], []⟩
  | t :: rest =>
    let u := join rest
    ⟨t.chars ++ u.chars, t.spans ++ u.spans.map (Span.shift t.chars.length)⟩

/-! ## Tabs -/

/-- A part in front of a tab that ends at a column, with blanks for the tab. -/
def fillTab (t : Styled) (fill : Nat) : Styled where
  chars := t.chars ++ List.replicate fill (.char ' ')
  spans := t.spans.map fun s =>
    if s.stop < t.chars.length then s else { s with stop := s.stop + fill }

/-- The parts of a line between its tabs, with blanks for each tab up to a column that is a multiple
of eight; one of them there always is. -/
def expandFrom (t : Styled) (place column : Nat) : List (List CodePoint) → List Styled
  | [] => []
  | [cs] => if cs.isEmpty then [] else [t.part place cs]
  | cs :: rest =>
    let column := column + width (cs ++ [.char ' '])
    let fill := (8 - column % 8) % 8
    fillTab { t.part place (cs ++ [.char '\t']) with chars := cs ++ [.char ' '] } fill
      :: expandFrom t (place + cs.length + 1) (column + fill) rest

/-- A line with blanks for its tabs. -/
def expandTabs (t : Styled) : Styled :=
  if .char '\t' ∈ t.chars then join (t.expandFrom 0 0 (t.chars.splitOn (.char '\t'))) else t

/-! ## Ends -/

/-- Other characters under the same styles, as far as there are characters. -/
def withChars (t : Styled) (cs : List CodePoint) : Styled where
  chars := cs
  spans := if cs.length < t.chars.length then t.spans.filterMap (Span.cut? cs.length) else t.spans

/-- A text without the gaps at its end. -/
def trimEnd (t : Styled) : Styled := t.withChars (Rewind.trimEnd t.chars)

/-- A text without the gaps at its end by which it has more characters than a number. -/
def trimEndTo (count : Nat) (t : Styled) : Styled :=
  let gaps := t.chars.length - (Rewind.trimEnd t.chars).length
  t.withChars (t.chars.take (t.chars.length - min gaps (t.chars.length - count)))

/-- A text with blanks in front. -/
def indent (n : Nat) (t : Styled) : Styled :=
  ⟨List.replicate n (.char ' ') ++ t.chars, t.spans.map (Span.shift n)⟩

/-! ## Stretches of one style -/

/-- The characters from a place on, split at some later places. -/
def splitFrom (place : Nat) (cs : List CodePoint) : List Nat → List (List CodePoint)
  | [] => [cs]
  | next :: rest => cs.take (next - place) :: splitFrom next (cs.drop (next - place)) rest

/-- The stretches between the ends of styles. -/
def segments (t : Styled) : List (List CodePoint) :=
  let ends := (t.spans.flatMap fun s => [s.start, s.stop]).mergeSort
  (splitFrom 0 t.chars ends).filter (!·.isEmpty)

/-- Whether a style over the text cannot be read. -/
def isFaulty (t : Styled) : Bool := t.spans.any Span.faulty

end Styled

/-! ## Lines of stretches -/

/-- The columns of a line of stretches. -/
def lineWidth (line : List (List CodePoint)) : Nat := line.foldl (fun n cs => n + width cs) 0

/-- A line of stretches cut off at a width. -/
def cropLine : Nat → List (List CodePoint) → List (List CodePoint)
  | _, [] => []
  | n, cs :: rest => if width cs < n then cs :: cropLine (n - width cs) rest else [fit n cs]

/-- A line of stretches that is cut off if it is wider than the room for it. -/
def limitLine (n : Nat) (line : List (List CodePoint)) : List (List CodePoint) :=
  if n < lineWidth line then cropLine n line else line

/-- A line of stretches cut off at a width, or filled up to it with blanks. -/
def fitLine (n : Nat) (line : List (List CodePoint)) : List (List CodePoint) :=
  if n < lineWidth line then cropLine n line
  else line ++ [List.replicate (n - lineWidth line) (.char ' ')]

end Rewind.Console
