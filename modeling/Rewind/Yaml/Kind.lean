import Rewind.Text.Basic
import Rewind.Yaml.Timestamp

/-!
# Kinds of nodes

What kind of data a node stands for.  A kind comes from the tag of the node, or from the form of a
plain scalar (`Kind.ofForm`).
-/

namespace Rewind.Yaml

/-- What kind of data a node stands for. -/
inductive Kind where
  | null
  | truth
  | integer
  | float
  | bytes
  | moment
  | text
  | list
  | map
  /-- A map of which only the keys count. -/
  | set
  /-- A list of maps with one entry each. -/
  | pairs
  /-- The key that merges other maps into its own. -/
  | merge
  /-- The key of what a map stands for where a scalar is expected. -/
  | value
  | unknown
  deriving DecidableEq, Repr

namespace Kind

/-- What the tags of the language itself start with. -/
def tagStart : String := "tag:yaml.org,2002:"

/-- The kinds with a tag of their own. -/
def names : List (String × Kind) :=
  [("null", null), ("bool", truth), ("int", integer), ("float", float), ("binary", bytes),
   ("timestamp", moment), ("str", text), ("seq", list), ("map", map), ("set", set), ("omap", pairs),
   ("pairs", pairs), ("merge", merge), ("value", value)]

/-- The kind that a tag names. -/
def ofTag (tag : String) : Kind :=
  ((names.find? fun n => tagStart ++ n.1 = tag).map Prod.snd).getD unknown

/-! ## The forms of plain scalars -/

/-- Digits and underscores. -/
def isDigitOrBar (c : Char) : Bool := c.isDigit || c = '_'

/-- The characters without a sign in front. -/
def withoutSign : List Char → List Char
  | '+' :: cs => cs
  | '-' :: cs => cs
  | cs => cs

/-- The plain scalars that name a truth value. -/
def truthWords : List String :=
  ["yes", "Yes", "YES", "no", "No", "NO", "true", "True", "TRUE", "false", "False", "FALSE",
   "on", "On", "ON", "off", "Off", "OFF"]

/-- The truth value that a word names, in upper or lower case. -/
def truthOf? (word : String) : Option Bool :=
  let word := String.ofList (word.toList.map Char.toLower)
  if word ∈ ["yes", "true", "on"] then some true
  else if word ∈ ["no", "false", "off"] then some false
  else none

/-- Whether a part between colons has at most two digits and stays below sixty. -/
def isSixtieth : List Char → Bool
  | [c] => c.isDigit
  | [c, d] => '0' ≤ c && c ≤ '5' && d.isDigit
  | _ => false

/-- Whether there are characters and all of them are of a class. -/
def isRun (f : Char → Bool) (cs : List Char) : Bool := !cs.isEmpty && cs.all f

/-- Digits with underscores, the first of them a digit. -/
def isNumeral (cs : List Char) : Bool := cs.head?.any Char.isDigit && cs.all isDigitOrBar

/-- Whether characters have the form of an integer without its sign. -/
def isInteger (cs : List Char) : Bool :=
  match cs.splitOn ':' with
  | ['0' :: rest] =>
    match rest with
    | [] => true
    | 'b' :: bits => isRun (fun c => c = '0' || c = '1' || c = '_') bits
    | 'x' :: digits =>
      isRun (fun c => c.isDigit || c = '_' || ('a' ≤ c && c ≤ 'f') || ('A' ≤ c && c ≤ 'F')) digits
    | digits => digits.all fun c => c = '_' || ('0' ≤ c && c ≤ '7')
  | whole :: sixtieths =>
    isNumeral whole && whole.head? ≠ some '0' && sixtieths.all isSixtieth
  | [] => false

/-- Whether the rest of a number is an exponent with its sign, or nothing. -/
def isExponent : List Char → Bool
  | [] => true
  | c :: sign :: digits =>
    (c = 'e' || c = 'E') && (sign = '+' || sign = '-') && isRun Char.isDigit digits
  | _ => false

/-- Whether characters have the form of a number with a point. -/
def isFloat (cs : List Char) : Bool :=
  let bare := withoutSign cs
  let whole := bare.takeWhile (· ≠ '.')
  match bare.dropWhile (· ≠ '.') with
  | [] => false
  | _ :: rest =>
    let fraction := rest.takeWhile isDigitOrBar
    let exponent := rest.dropWhile isDigitOrBar
    match whole.splitOn ':' with
    | [[]] =>
      String.ofList rest ∈ ["inf", "Inf", "INF"] ||
        (bare = cs && (String.ofList rest ∈ ["nan", "NaN", "NAN"] ||
          (isNumeral fraction && isExponent exponent)))
    | [whole] => isNumeral whole && isExponent exponent
    | whole :: sixtieths => isNumeral whole && sixtieths.all isSixtieth && exponent.isEmpty
    | [] => false

/-- Whether characters have the form of a moment; a date alone has two digits for month and day. -/
def isMoment (cs : List Char) : Bool :=
  (momentParts? cs).any fun m => m.time.isSome || cs.length = 10

/-- The kind of a plain scalar without halves, by its form.  A line feed at the end does not count,
but a line feed alone is text. -/
def ofString (text : String) : Kind :=
  let cs := withoutFinalBreak text.toList
  let word := String.ofList cs
  if word ∈ truthWords then truth
  else if isFloat cs then float
  else if isInteger (withoutSign cs) then integer
  else if word = "<<" then merge
  else if text = "" ∨ word ∈ ["~", "null", "Null", "NULL"] then null
  else if isMoment cs then moment
  else if word = "=" then value
  else if word ∈ ["!", "&", "*"] then unknown
  else .text

/-- The kind of a plain scalar, by its form; no form has a half in it. -/
def ofForm (text : Text) : Kind := (text.string?.map ofString).getD .text

end Kind

end Rewind.Yaml
