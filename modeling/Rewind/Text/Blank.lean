import Rewind.Text.Basic

/-!
# Blanks and gaps

The characters with the Unicode property `White_Space`, and the text without those at its two ends.
Gaps, which part the words of a console, are these and the four separators of records among the
controls.
-/

namespace Rewind

/-- Whether a character has the property `White_Space`. -/
def isBlank (c : Char) : Bool :=
  let n := c.toNat
  (9 ≤ n && n ≤ 13) || n = 0x20 || n = 0x85 || n = 0xA0 || n = 0x1680 ||
    (0x2000 ≤ n && n ≤ 0x200A) || n = 0x2028 || n = 0x2029 || n = 0x202F || n = 0x205F || n = 0x3000

/-- The characters without the blanks at the two ends. -/
def trimBlanks (cs : List Char) : List Char :=
  ((cs.dropWhile isBlank).reverse.dropWhile isBlank).reverse

/-- Whether a code point parts words. -/
def isGap (c : CodePoint) : Bool := c.isIn fun c => isBlank c || (0x1C ≤ c.toNat && c.toNat ≤ 0x1F)

/-- The code points without the gaps at their end. -/
def trimEnd (cs : List CodePoint) : List CodePoint := (cs.reverse.dropWhile isGap).reverse

/-- The code points without the gaps at the two ends. -/
def trimGaps (cs : List CodePoint) : List CodePoint := trimEnd (cs.dropWhile isGap)

/-- The words between the gaps, where `word` is read in reverse. -/
def wordsFrom (word : List CodePoint) : List CodePoint → List (List CodePoint)
  | [] => if word.isEmpty then [] else [word.reverse]
  | c :: rest =>
    if isGap c then if word.isEmpty then wordsFrom [] rest else word.reverse :: wordsFrom [] rest
    else wordsFrom (c :: word) rest

/-- The words between the gaps. -/
def words (cs : List CodePoint) : List (List CodePoint) := wordsFrom [] cs

/-- The words of a string without halves. -/
def stringWords (s : String) : List String :=
  (words (pointsOf s)).filterMap fun word => (Text.mk word).string?

end Rewind
