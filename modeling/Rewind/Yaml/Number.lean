import Rewind.Text.Decimal
import Rewind.Yaml.Error

/-!
# Numbers in YAML

The numbers that scalars write.  Underscores do not count.  Integers have bases by their first
digits, and both sorts of numbers may be written in base sixty with colons.
-/

namespace Rewind.Yaml

/-- What stands between colons. -/
def colonParts (cs : List Char) : List (List Char) := cs.splitOn ':'

/-- A reading that must succeed. -/
def orBad {α : Type} : Option α → Except Error α
  | some a => .ok a
  | none => .error .badScalar

/-- An integer without its sign. -/
def integerDigits (cs : List Char) : Except Error Int :=
  match cs with
  | [] => .error .emptyNumber
  | ['0'] => .ok 0
  | '0' :: 'b' :: rest => orBad (Integer.ofBase? 2 rest)
  | '0' :: 'x' :: rest => orBad (Integer.ofBase? 16 rest)
  | '0' :: _ => orBad (Integer.ofBase? 8 cs)
  | cs =>
    if ':' ∈ cs then
      (orBad ((colonParts cs).mapM (Integer.ofBase? 10))).map fun parts =>
        parts.foldl (fun n d => n * 60 + d) 0
    else orBad (Integer.ofBase? 10 cs)

/-- The integer that a scalar writes. -/
def integer (text : String) : Except Error Int :=
  match text.toList.filter (· ≠ '_') with
  | '-' :: rest => (integerDigits rest).map (- ·)
  | '+' :: rest => integerDigits rest
  | cs => integerDigits cs

/-- The sum of parts in base sixty, added up from the last part on. -/
def sexagesimal (parts : List Binary64) : Binary64 :=
  (parts.reverse.foldl
    (fun (sum, base) part => (sum + part * Binary64.ofInt base, base * 60))
    (Binary64.zero false, (1 : Int))).1

/-- Whether a scalar is the word for what is no number, with or without a sign. -/
def isNanWord (text : String) : Bool :=
  match (text.toList.filter (· ≠ '_')).map Char.toLower with
  | c :: rest => (if c = '+' ∨ c = '-' then rest else c :: rest) = ['.', 'n', 'a', 'n']
  | [] => false

/-- A number without its sign. -/
def floatDigits (cs : List Char) : Except Error Binary64 :=
  if cs = ['.', 'i', 'n', 'f'] then .ok (.infinite false)
  else if cs = ['.', 'n', 'a', 'n'] then .ok .nan
  else if ':' ∈ cs then (orBad ((colonParts cs).mapM Binary64.ofText?)).map sexagesimal
  else orBad (Binary64.ofText? cs)

/-- The floating point number that a scalar writes. -/
def float (text : String) : Except Error Binary64 :=
  match (text.toList.filter (· ≠ '_')).map Char.toLower with
  | [] => .error .emptyNumber
  | '-' :: rest => (floatDigits rest).map (- ·)
  | '+' :: rest => floatDigits rest
  | cs => floatDigits cs

end Rewind.Yaml
