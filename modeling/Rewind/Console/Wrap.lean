import Rewind.Console.Styled

/-!
# Lines of a width

How a text is laid out in the columns that there are for it.  Words stay whole where they can: a
line ends in front of the first word that does not fit into it.  A word wider than any line is
chopped, or cut off behind an ellipsis, as the room says.
-/

namespace Rewind.Console

/-- The side at which lines are lined up. -/
inductive Side where
  | left
  | right
  deriving DecidableEq, Repr

/-- The room for a text. -/
structure Room where
  width : Nat
  /-- Whether a word that is wider is chopped; otherwise it ends with an ellipsis. -/
  chops : Bool
  /-- The side at which lines are lined up, and filled up to the width at the other one. -/
  side : Option Side

/-! ## Words -/

/-- The words of a text, each with the gaps behind it and the first with those in front as well;
`word` is read in reverse, and `inWord` says whether it is more than gaps. -/
def paddedWordsFrom (word : List CodePoint) (inWord : Bool) : List CodePoint → List (List CodePoint)
  | [] => if inWord then [word.reverse] else []
  | c :: rest =>
    if isGap c then paddedWordsFrom (c :: word) inWord rest
    else if inWord && word.head?.any isGap then word.reverse :: paddedWordsFrom [c] true rest
    else paddedWordsFrom (c :: word) true rest

/-- The words of a text, with all gaps; none if there are only gaps. -/
def paddedWords (cs : List CodePoint) : List (List CodePoint) := paddedWordsFrom [] false cs

/-! ## Ends of lines -/

/-- How far a text is laid out. -/
structure Layout where
  /-- The places in front of which lines end, the last first. -/
  breaks : List Nat
  /-- The place behind the last word. -/
  place : Nat
  /-- The columns taken in the last line. -/
  column : Nat

namespace Layout

/-- Ends a line in front of a place, but not in front of the text. -/
def breakAt (l : Layout) (place : Nat) : Layout :=
  if place = 0 then l else { l with breaks := place :: l.breaks }

/-- Lays out the lines of a chopped word. -/
def addLines (l : Layout) (place : Nat) : List (List CodePoint) → Layout
  | [] => l
  | [line] => { l.breakAt place with column := width line }
  | line :: rest => addLines (l.breakAt place) (place + line.length) rest

/-- Lays out a word. -/
def addWord (room : Room) (l : Layout) (word : List CodePoint) : Layout :=
  let needed := width (trimEnd word)
  let l' := { l with place := l.place + word.length }
  if l.column + needed ≤ room.width then { l' with column := l.column + width word }
  else if room.width < needed ∧ room.chops then l'.addLines l.place (chop room.width word)
  else if room.width < needed ∨ l.column ≠ 0 then { l'.breakAt l.place with column := width word }
  else l'

end Layout

/-- The places in front of which the lines of a text end. -/
def lineBreaks (room : Room) (cs : List CodePoint) : List Nat :=
  ((paddedWords cs).foldl (Layout.addWord room) ⟨[], 0, 0⟩).breaks.reverse

/-! ## Lines -/

/-- A line that is cut off where the room ends. -/
def Styled.truncate (room : Room) (t : Styled) : Styled :=
  if width t.chars ≤ room.width then t
  else if room.chops then t.withChars (fit room.width t.chars)
  else t.withChars (fit (room.width - 1) t.chars ++ [.char '…'])

/-- A line at its side of the room. -/
def Styled.align (room : Room) (t : Styled) : Styled :=
  match room.side with
  | none => t.truncate room
  | some .left =>
    let t := t.truncate room
    { t with chars := t.chars ++ List.replicate (room.width - width t.chars) (.char ' ') }
  | some .right =>
    let t := t.trimEnd.truncate room
    t.indent (room.width - width t.chars)

/-- The lines of a text in a room. -/
def Styled.wrap (room : Room) (t : Styled) : List Styled :=
  t.lines.flatMap fun line =>
    let line := line.expandTabs
    (line.divide (lineBreaks room line.chars)).map fun part =>
      (part.trimEndTo room.width).align room

end Rewind.Console
