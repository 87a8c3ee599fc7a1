import Rewind.Console.Line
import Rewind.Text.Lines

/-!
# Tables

A table with two columns in a box with a heavy head.  The cells of the first column start at its
left, those of the second end at its right.  A table that is wider than the console makes its
columns narrower, the wider one first, and lays their cells out in several lines.
-/

namespace Rewind.Console

/-- A table with two columns. -/
structure Table where
  left : Text
  right : Text
  rows : List (Text × Text)

namespace Table

/-! ## Widths -/

/-- The columns for the cells of both columns with a blank at either side of each. -/
def maxWidth : Nat := consoleWidth - 3

/-- The columns of a text whose lines are as long as they are. -/
def naturalWidth (t : Styled) : Nat := ((t.chars.splitOnP isBreak).map width).foldl max 0

/-- The columns of a column with some cells and the blanks beside them, up to a limit. -/
def columnWidth (limit : Nat) (cells : List Styled) : Nat :=
  min ((cells.map naturalWidth).foldl max 0 + 2) limit

/-- Half of a number; a half that is left over goes to the even neighbour. -/
def half (n : Nat) : Nat := if n % 4 = 3 then n / 2 + 1 else n / 2

/-- The widths of two columns within a limit.  The wider one gives way until both are the same, and
then both do. -/
def share (limit a b : Nat) : Nat × Nat :=
  if a + b ≤ limit then (a, b)
  else if 2 * min a b ≤ limit then if a ≤ b then (a, limit - a) else (limit - b, b)
  else
    let excess := 2 * min a b - limit
    (min a b - half excess, min a b - (excess - half excess))

/-- The widths of two columns with some cells. -/
def widths (left right : List Styled) : Nat × Nat :=
  let shared := share maxWidth (columnWidth maxWidth left) (columnWidth maxWidth right)
  (columnWidth shared.1 left, columnWidth shared.2 right)

/-! ## Cells -/

/-- The lines of a cell at a side of its column, with a blank at either side. -/
def cellLines (side : Side) (total : Nat) (t : Styled) :
    Except MarkupMistake (List (List CodePoint)) := do
  let lines ← t.layOut ⟨total - 2, false, some side⟩
  return lines.map fun l =>
    (fitLine total ([.char ' '] :: fitLine (total - 2) l ++ [[.char ' ']])).flatten

/-- The lines of two cells side by side between bars; a cell with fewer lines than the other is
filled up. -/
def joinCells (bar : CodePoint) (a b : Nat) (left right : List (List CodePoint)) : List CodePoint :=
  (List.range (max left.length right.length)).flatMap fun i =>
    bar :: left.getD i (List.replicate a (.char ' '))
      ++ bar :: right.getD i (List.replicate b (.char ' ')) ++ [bar, .char '\n']

/-- The lines of a row between bars. -/
def rowLines (bar : CodePoint) (a b : Nat) (row : Styled × Styled) :
    Except MarkupMistake (List CodePoint) := do
  return joinCells bar a b (← cellLines .left a row.1) (← cellLines .right b row.2)

/-- A horizontal rule: its left end, its filling, its crossing and its right end. -/
def rule (left fill cross right : CodePoint) (a b : Nat) : List CodePoint :=
  left :: List.replicate a fill ++ cross :: List.replicate b fill ++ [right, .char '\n']

/-! ## The table -/

/-- The written table. -/
def draw (head : Styled × Styled) (rows : List (Styled × Styled)) :
    Except MarkupMistake (List CodePoint) := do
  let all := head :: rows
  let (a, b) := widths (all.map Prod.fst) (all.map Prod.snd)
  let headLines ← rowLines '┃' a b head
  let lines ← rows.mapM (rowLines '│' a b)
  return rule '┏' '━' '┳' '┓' a b ++ headLines ++ rule '┡' '━' '╇' '┩' a b ++ lines.flatten
    ++ rule '└' '─' '┴' '┘' a b

/-- The cells of a row. -/
def readRow (cells : Text × Text) : Except MarkupMistake (Styled × Styled) := do
  return (← Markup.read cells.1, ← Markup.read cells.2)

/-- What the console shows for a table. -/
def render (t : Table) : Except MarkupMistake Text := do
  let head ← readRow (t.left, t.right)
  return ⟨← draw head (← t.rows.mapM readRow)⟩

end Table

end Rewind.Console
