import Rewind.Text.Blank
import Rewind.Text.Digit

/-!
# Integers as text

Which integers are written, and two grammars for an integer in text.  `Integer.ofBase?` is the one
of scalars in a base: blanks around, a sign, digits of any script with single underscores between
them.  `Integer.ofField` is the one of data fields and of typed-in arguments: ASCII digits, and a
fraction of zeros is let pass.
-/

namespace Rewind.Integer

/-- The most digits that are read, and written. -/
def maxDigits : Nat := 4300

/-- The least number with more digits than are written. -/
def writtenBound : Nat := Nat.pow 10 maxDigits

/-- Whether an integer has no more digits than are written.  It is left to the kernel to compare with
a number of this size. -/
@[irreducible] def isWritable (n : Int) : Bool := n.natAbs < writtenBound

/-- A sign in front and what follows it. -/
def splitSign : List Char → Bool × List Char
  | '-' :: rest => (true, rest)
  | '+' :: rest => (false, rest)
  | cs => (false, cs)

/-- The number with the given sign. -/
def signed (negative : Bool) (n : Nat) : Int := if negative then -n else n

/-! ## Numbers in a base -/

/-- The values of digits with single underscores between them; `afterDigit` says that a digit has
just been read. -/
def digitValues? (digit? : Char → Option Nat) (afterDigit : Bool) : List Char → Option (List Nat)
  | [] => if afterDigit then some [] else none
  | c :: rest =>
    if c = '_' then
      if afterDigit then digitValues? digit? false rest else none
    else
      match digit? c with
      | some d => (digitValues? digit? true rest).map (d :: ·)
      | none => none

/-- The number with the given digits. -/
def ofDigits (base : Nat) (ds : List Nat) : Nat := ds.foldl (fun n d => n * base + d) 0

/-- The letters that may follow a leading zero to name the base. -/
def baseLetters : Nat → List Char
  | 2 => ['b', 'B']
  | 8 => ['o', 'O']
  | 16 => ['x', 'X']
  | _ => []

/-- What follows the name of the base, if the digits start with one. -/
def dropBase (base : Nat) : List Char → List Char
  | '0' :: c :: rest =>
    if c ∈ baseLetters base then
      match rest with
      | '_' :: rest => rest
      | rest => rest
    else '0' :: c :: rest
  | cs => cs

/-- The integer that a text writes in a base.  In a base that is no power of two, more than
`maxDigits` digits are refused. -/
def ofBase? (base : Nat) (cs : List Char) : Option Int := do
  let (negative, rest) := splitSign (trimBlanks cs)
  let ds ← digitValues? (basedDigit? base) false (dropBase base rest)
  if base = 10 ∧ ds.length > maxDigits then none
  return signed negative (ofDigits base ds)

/-! ## Fields -/

/-- Why the text of a field is no integer. -/
inductive FieldMistake where
  | malformed
  | tooLong
  deriving DecidableEq, Repr

/-- The value of an ASCII digit. -/
def asciiDigit? (c : Char) : Option Nat := if c.isDigit then some (c.toNat - 48) else none

/-- A minus sign in front and what follows it. -/
def splitMinus : List Char → Bool × List Char
  | '-' :: rest => (true, rest)
  | cs => (false, cs)

/-- The integer in its plain form: a minus sign or none, and ASCII digits that start with a zero
only if it is the only one.  More than `maxDigits` digits are too many, whatever follows them. -/
def ofPlain (cs : List Char) : Except FieldMistake Int :=
  let (negative, rest) := splitMinus cs
  let ds := rest.takeWhile Char.isDigit
  match ds with
  | [] => .error .malformed
  | d :: more =>
    if d = '0' ∧ !more.isEmpty then .error .malformed
    else if maxDigits < ds.length then .error .tooLong
    else if ds.length < rest.length then .error .malformed
    else .ok (signed negative (ofDigits 10 (ds.filterMap asciiDigit?)))

/-- What is left of a number after its leading zeros, with underscores among them: the last of them
before a point or the end, and nothing before any other character. -/
def dropZerosAfter (last : Char) : List Char → List Char
  | [] => [last]
  | c :: rest =>
    if c = '0' ∨ c = '_' then dropZerosAfter c rest
    else if c = '.' then last :: c :: rest
    else c :: rest

/-- A number without its leading zeros; none if it does not start with a digit. -/
def dropZeros? : List Char → Option (List Char)
  | [] => none
  | c :: rest =>
    if c = '0' then some (dropZerosAfter c rest) else if c.isDigit then some (c :: rest) else none

/-- What stands in front of a fraction of zeros, or everything if no such fraction is at the end. -/
def dropFraction (cs : List Char) : List Char :=
  match cs.dropWhile (· ≠ '.') with
  | [] => cs
  | _ :: zeros =>
    if !zeros.isEmpty && zeros.all (· = '0') then cs.takeWhile (· ≠ '.') else cs

/-- Whether two underscores stand side by side. -/
def hasDoubleUnderscore : List Char → Bool
  | '_' :: '_' :: _ => true
  | _ :: rest => hasDoubleUnderscore rest
  | [] => false

/-- The characters without underscores, which may stand alone and not at an end. -/
def dropUnderscores? (cs : List Char) : Option (List Char) :=
  if cs.head? = some '_' ∨ cs.getLast? = some '_' ∨ hasDoubleUnderscore cs then none
  else some (cs.filter (· ≠ '_'))

/-- The plain form of a number in its free form: blanks around it, a sign, leading zeros, single
underscores and a fraction of zeros go.  A minus sign behind leading zeros still counts. -/
def toPlain? (cs : List Char) : Option (List Char) :=
  let (negative, rest) := splitSign (trimBlanks cs)
  ((dropZeros? rest).bind fun number => dropUnderscores? (dropFraction number)).map fun number =>
    if negative then '-' :: number else number

/-- The integer that the text of a field writes, in plain or in free form. -/
def ofField (s : String) : Except FieldMistake Int :=
  match ofPlain s.toList with
  | .error .malformed =>
    match (toPlain? s.toList).map ofPlain with
    | some (.ok n) => .ok n
    | _ => .error .malformed
  | result => result

/-- The integer that a typed-in argument writes, if it does.  The command line reads arguments as
data fields are read, so `1.0` is an integer and a digit of another script is none. -/
def ofArgument? (s : String) : Option Int := (ofField s).toOption

example : ofArgument? " +1_0.0" = some 10 ∧ ofArgument? "１" = none := by decide

end Rewind.Integer
