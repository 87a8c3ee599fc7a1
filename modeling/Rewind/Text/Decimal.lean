import Rewind.Binary64
import Rewind.Text.Integer

/-!
# Decimal numbers as text

`Binary64.ofText?` reads a number with an optional point and an optional exponent, or one of the
words for what is not finite.  Blanks around it and digits of any script are let pass.
-/

namespace Rewind.Binary64

/-- The digits in front and what follows them. -/
def leadingDigits (cs : List Char) : List Nat × List Char :=
  (cs.takeWhile (decimalDigit? · |>.isSome) |>.filterMap decimalDigit?,
    cs.dropWhile (decimalDigit? · |>.isSome))

/-- The digits behind a point, if there is one. -/
def fractionDigits : List Char → List Nat × List Char
  | '.' :: rest => leadingDigits rest
  | cs => ([], cs)

/-- The exponent that ends a number; a number that just ends has the exponent zero. -/
def exponent? : List Char → Option Int
  | [] => some 0
  | c :: rest =>
    if c = 'e' ∨ c = 'E' then
      let (negative, rest) := Integer.splitSign rest
      match leadingDigits rest with
      | ([], _) => none
      | (ds, []) => some (Integer.signed negative (Integer.ofDigits 10 ds))
      | _ => none
    else none

/-- A number without its sign. -/
def unsigned? (negative : Bool) (cs : List Char) : Option Binary64 :=
  let word := String.ofList (cs.map Char.toLower)
  if word = "inf" ∨ word = "infinity" then some (.infinite negative)
  else if word = "nan" then some .nan
  else
    let (whole, rest) := leadingDigits cs
    let (fraction, rest) := fractionDigits rest
    if whole.isEmpty && fraction.isEmpty then none
    else
      (exponent? rest).map fun e =>
        ofDecimal negative (Integer.ofDigits 10 (whole ++ fraction)) (e - fraction.length)

/-- The number that a text writes. -/
def ofText? (cs : List Char) : Option Binary64 :=
  let (negative, rest) := Integer.splitSign (trimBlanks cs)
  unsigned? negative rest

end Rewind.Binary64
