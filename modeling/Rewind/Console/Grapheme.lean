import Rewind.Console.Width

/-!
# Characters that stay together

A console never parts a mark from the character in front of it, nor the characters that a joiner
joins. `graphemes` splits a text into what stays together; `chop` makes lines of it, and `fit` gives
it a width.
-/

namespace Rewind.Console

/-- Characters that stay together, with the columns that they take. -/
structure Grapheme where
  chars : List CodePoint
  width : Nat
  deriving DecidableEq, Repr

/-- Adds characters that take no columns of their own. -/
def Grapheme.add (g : Grapheme) (cs : List CodePoint) : Grapheme :=
  { g with chars := g.chars ++ cs }

/-- What stays together in a text behind a first part of it; `last` is the character that a picture
sign would be for. -/
def graphemesFrom (g : Grapheme) (last : Option CodePoint) : List CodePoint → List Grapheme
  | [] => [g]
  | [c] =>
    if c = pictureSign then [⟨g.chars ++ [c], g.width + widening last⟩]
    else if charWidth c = 0 then [g.add [c]]
    else [g, ⟨[c], charWidth c⟩]
  | c :: d :: rest =>
    if c = joiner then graphemesFrom (g.add [c, d]) last rest
    else if c = pictureSign then
      graphemesFrom ⟨g.chars ++ [c], g.width + widening last⟩ none (d :: rest)
    else if charWidth c = 0 then graphemesFrom (g.add [c]) last (d :: rest)
    else g :: graphemesFrom ⟨[c], charWidth c⟩ (some c) (d :: rest)

/-- What stays together in a text. -/
def graphemes : List CodePoint → List Grapheme
  | [] => []
  | c :: rest => graphemesFrom ⟨[c], charWidth c⟩ (if charWidth c = 0 then none else some c) rest

/-! ## Lines of a width -/

/-- Lines of a width behind the start of the first one and its width. -/
def chopFrom (total : Nat) (line : List CodePoint) (size : Nat) :
    List Grapheme → List (List CodePoint)
  | [] => if size = 0 then [] else [line]
  | g :: rest =>
    if total < size + g.width then line :: chopFrom total g.chars g.width rest
    else chopFrom total (line ++ g.chars) (size + g.width) rest

/-- The lines of a width that a text fills. -/
def chop (total : Nat) (cs : List CodePoint) : List (List CodePoint) :=
  chopFrom total [] 0 (graphemes cs)

/-- The start of a text that takes a number of columns.  A blank stands for half of what is wide. -/
def takeWidth : Nat → List Grapheme → List CodePoint
  | 0, _ => []
  | _, [] => []
  | n, g :: rest => if g.width ≤ n then g.chars ++ takeWidth (n - g.width) rest else [.char ' ']

/-- A text cut off at a width, or filled up to it with blanks. -/
def fit (total : Nat) (cs : List CodePoint) : List CodePoint :=
  let size := width cs
  if size ≤ total then cs ++ List.replicate (total - size) (.char ' ')
  else takeWidth total (graphemes cs)

end Rewind.Console
