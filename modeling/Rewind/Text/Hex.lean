/-!
# Hexadecimal digits

The ASCII digits of base sixteen, read in upper or lower case and written in lower case.
-/

namespace Rewind

/-- The value of a hexadecimal digit. -/
def hexDigit? (c : Char) : Option Nat :=
  if '0' ≤ c ∧ c ≤ '9' then some (c.toNat - 48)
  else if 'a' ≤ c ∧ c ≤ 'f' then some (c.toNat - 87)
  else if 'A' ≤ c ∧ c ≤ 'F' then some (c.toNat - 55)
  else none

/-- A number with at least `width` digits. -/
def hexDigits (width n : Nat) : List Char :=
  let ds := Nat.toDigits 16 n
  List.replicate (width - ds.length) '0' ++ ds

example : hexDigits 2 11 = ['0', 'b'] ∧ hexDigit? 'b' = some 11 ∧ hexDigit? 'g' = none := by decide

end Rewind
