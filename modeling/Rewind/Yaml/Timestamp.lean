import Rewind.Moment
import Rewind.Yaml.Error

/-!
# Moments in YAML

A moment is written as a date, and perhaps a time of day with a fraction and a zone.
-/

namespace Rewind.Yaml

/-- The digits in front, at least `least` and at most `most` of them, as a number, and the rest. -/
def numberOf (least most : Nat) (cs : List Char) : Option (Nat × List Char) :=
  let ds := (cs.take most).takeWhile Char.isDigit
  if ds.length < least then none
  else some (ds.foldl (fun n c => n * 10 + (c.toNat - 48)) 0, cs.drop ds.length)

/-- The rest behind a sign that must be there. -/
def afterSign (c : Char) : List Char → Option (List Char)
  | [] => none
  | c' :: rest => if c' = c then some rest else none

/-- A blank or a tab. -/
def isGap (c : Char) : Bool := c = ' ' || c = '\t'

/-- The rest behind what separates a date from a time. -/
def afterDate : List Char → Option (List Char)
  | [] => none
  | c :: rest =>
    if c = 'T' ∨ c = 't' then some rest
    else if isGap c then some (rest.dropWhile isGap)
    else none

/-- The microseconds of a fraction, which keeps six digits, and the rest. -/
def microseconds : List Char → Nat × List Char
  | '.' :: rest =>
    let ds := rest.takeWhile Char.isDigit
    let six := (ds ++ List.replicate 6 '0').take 6
    (six.foldl (fun n c => n * 10 + (c.toNat - 48)) 0, rest.drop ds.length)
  | cs => (0, cs)

/-- The zone at the end of a moment, in seconds, if one is given. -/
def zone? (cs : List Char) : Option (Option Int) :=
  match cs with
  | [] => some none
  | cs =>
    match cs.dropWhile isGap with
    | ['Z'] => some (some 0)
    | c :: rest =>
      if c = '+' ∨ c = '-' then do
        let (hours, rest) ← numberOf 1 2 rest
        let (minutes, rest) ←
          if rest.isEmpty then some (0, []) else (afterSign ':' rest).bind (numberOf 2 2)
        let seconds : Int := hours * 3600 + minutes * 60
        if rest.isEmpty then some (some (if c = '-' then -seconds else seconds)) else none
      else none
    | [] => none

/-- The time of day at the end of a moment. -/
def timeOfDay? (cs : List Char) : Option TimeOfDay := do
  let (hour, rest) ← numberOf 1 2 cs
  let (minute, rest) ← (afterSign ':' rest).bind (numberOf 2 2)
  let (second, rest) ← (afterSign ':' rest).bind (numberOf 2 2)
  let (microsecond, rest) := microseconds rest
  let zone ← zone? rest
  return ⟨hour, minute, second, microsecond, zone⟩

/-- The parts of a written moment, whether or not it exists. -/
def momentParts? (cs : List Char) : Option Moment := do
  let (year, rest) ← numberOf 4 4 cs
  let (month, rest) ← (afterSign '-' rest).bind (numberOf 1 2)
  let (day, rest) ← (afterSign '-' rest).bind (numberOf 1 2)
  if rest.isEmpty then return ⟨year, month, day, none⟩
  let time ← (afterDate rest).bind timeOfDay?
  return ⟨year, month, day, some time⟩

/-- The text without a line feed at its end. -/
def withoutFinalBreak (cs : List Char) : List Char :=
  if cs.getLast? = some '\n' then cs.dropLast else cs

/-- The moment that a scalar writes. -/
def moment (text : String) : Except Error Moment :=
  match momentParts? (withoutFinalBreak text.toList) with
  | none => .error .shapelessMoment
  | some m =>
    match Moment.mk? m.year m.month m.day m.time with
    | some m => .ok m
    | none => .error .badScalar

end Rewind.Yaml
