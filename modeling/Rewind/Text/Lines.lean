import Rewind.Text.Basic

/-!
# Breaks of lines

A line ends with a line feed, a carriage return, or both.  `unixLines` writes all of these as line
feeds; `isBreak` also knows the other characters that end a line of shown text.
-/

namespace Rewind

/-- Breaks of lines of all kinds as line feeds. -/
def unixLines : List Char → List Char
  | [] => []
  | '\r' :: '\n' :: rest => '\n' :: unixLines rest
  | '\r' :: rest => '\n' :: unixLines rest
  | c :: rest => c :: unixLines rest

/-- Whether a code point ends a line of shown text. -/
def isBreak (c : CodePoint) : Bool :=
  let n := c.toNat
  (0xA ≤ n && n ≤ 0xD) || (0x1C ≤ n && n ≤ 0x1E) || n = 0x85 || n = 0x2028 || n = 0x2029

end Rewind
