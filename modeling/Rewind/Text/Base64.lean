/-!
# Base 64

Bytes from text in base 64.  Characters outside of the alphabet are skipped; the padding that
completes a group of four ends the text.
-/

namespace Rewind

/-- The six bits of a character of the alphabet. -/
def sextet? (c : Char) : Option Nat :=
  if 'A' ≤ c ∧ c ≤ 'Z' then some (c.toNat - 65)
  else if 'a' ≤ c ∧ c ≤ 'z' then some (c.toNat - 71)
  else if c.isDigit then some (c.toNat + 4)
  else if c = '+' then some 62
  else if c = '/' then some 63
  else none

/-- The bytes of what follows `count` characters of a group, of which the bits `held` are still to
be used, and after them `pads` signs of padding. -/
def base64From (count held pads : Nat) : List Char → Option (List UInt8)
  | [] => if count = 0 then some [] else none
  | c :: rest =>
    if c = '=' then
      if count < 2 then base64From count held pads rest
      else if count + pads + 1 ≥ 4 then some []
      else base64From count held (pads + 1) rest
    else
      match sextet? c with
      | none => base64From count held pads rest
      | some d =>
        if count = 0 then base64From 1 d 0 rest
        else
          let byte := held * Nat.pow 4 count + d / Nat.pow 4 (3 - count)
          (base64From ((count + 1) % 4) (d % Nat.pow 4 (3 - count)) 0 rest).map (UInt8.ofNat byte :: ·)

/-- The bytes that a text in base 64 stands for; none if its last group is not complete. -/
def decodeBase64? (cs : List Char) : Option (List UInt8) := base64From 0 0 0 cs

example : decodeBase64? "AQ=\n=x".toList = some [1] ∧ decodeBase64? "QUJD".toList = some [65, 66, 67] ∧
    decodeBase64? "AQ=".toList = none := by decide

end Rewind
