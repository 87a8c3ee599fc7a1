import Rewind.Console.Emoji.Flags
import Rewind.Console.Emoji.Names
import Rewind.Console.Width
import Rewind.Text.Blank
import Rewind.Text.Hex
import Rewind.Text.Lower

/-!
# Pictures by name

Small pictures that a text asks for by their names between two colons, as in `:bug:`.  A name may
end with a word that asks for the form of the picture; a name that is not known is left as it is.
-/

namespace Rewind.Console

namespace Emoji

/-! ## Tables -/

/-- The number that hexadecimal digits write; other characters count for nothing. -/
def ofHex (cs : List Char) : Nat := (cs.filterMap hexDigit?).foldl (fun n d => n * 16 + d) 0

/-- The picture with the code points that are written with dashes between them. -/
def ofCodes (cs : List Char) : List Char := (cs.splitOn '-').map fun code => Char.ofNat (ofHex code)

/-- A flag is shown by two signs for the letters of its region. -/
def ofRegion (cs : List Char) : List Char :=
  cs.map fun c => Char.ofNat (c.toNat - 'A'.toNat + 0x1F1E6)

/-- Words in pairs. -/
def pairs : List String → List (String × List Char)
  | name :: shown :: rest => (name, shown.toList) :: pairs rest
  | _ => []

/-- The flags of a table. -/
def flagsOf (table : String) : List (String × List Char) :=
  (pairs (stringWords table)).map fun (name, region) => (name, ofRegion region)

/-- The pictures by their names, and whether they come in the colors of a skin. -/
def pictures : List (String × List Char × Bool) :=
  (pairs (stringWords emojiTable)).map fun (name, codes) =>
    (name, ofCodes (codes.filter (· ≠ '+')), codes.getLast? = some '+')

/-- The flags that their names stand for alone. -/
def flags : List (String × List Char) := flagsOf flagTable ++ flagsOf plainFlagTable

/-- The flags that their names stand for behind the words that ask for one. -/
def askedFlags : List (String × List Char) := flagsOf flagTable ++ flagsOf askedFlagTable

/-- The signs for the colors of a skin, by what their names end with. -/
def tones : List (List Char × Char) :=
  [("_light_skin_tone", 0x1F3FB), ("_medium-light_skin_tone", 0x1F3FC),
    ("_medium_skin_tone", 0x1F3FD), ("_medium-dark_skin_tone", 0x1F3FE),
    ("_dark_skin_tone", 0x1F3FF)].map fun (ending, sign) => (ending.toList, Char.ofNat sign)

/-! ## Names -/

/-- What a text starts with in front of an ending, if it has that ending. -/
def dropEnding? {α : Type} [BEq α] (ending cs : List α) : Option (List α) :=
  if ending.isSuffixOf cs then some (cs.take (cs.length - ending.length)) else none

/-- A picture in the color of a skin, which the sign behind its first character says.  That
character is a picture then without a sign for it. -/
def withTone (tone : Char) : List Char → List Char
  | [] => []
  | [c] => [c, tone]
  | c :: d :: rest => if .char d = pictureSign then c :: tone :: rest else c :: tone :: d :: rest

/-- The picture in a color of a skin that a name stands for. -/
def toned? (name : List Char) : Option (List Char) :=
  tones.findSome? fun (ending, tone) => do
    let (picture, hasTones) ← pictures.lookup (String.ofList (← dropEnding? ending name))
    if hasTones then some (withTone tone picture) else none

/-- The flag that a name asks for. -/
def askedFlag? (name : List Char) : Option (List Char) :=
  let words := "flag_for_".toList
  if words.isPrefixOf name then askedFlags.lookup (String.ofList (name.drop words.length)) else none

/-- The picture that a name in lower case stands for. -/
def named? (name : List Char) : Option (List Char) :=
  ((pictures.lookup (String.ofList name)).map Prod.fst) <|> flags.lookup (String.ofList name)
    <|> toned? name <|> askedFlag? name

/-- The name between two colons without the word for a form, and the sign for the form. -/
def splitForm (cs : List CodePoint) : List CodePoint × List CodePoint :=
  match dropEnding? (pointsOf "-emoji") cs, dropEnding? (pointsOf "-text") cs with
  | some name, _ => (name, [pictureSign])
  | none, some name => (name, [.char '\ufe0e'])
  | none, none => (cs, [])

/-- What stands between two colons shows a picture; no picture has a half in its name. -/
def shown? (cs : List CodePoint) : Option (List CodePoint) :=
  let (name, form) := splitForm cs
  ((Text.mk (lowerCase name)).string?.bind fun name => named? name.toList).map fun picture =>
    picture.map .char ++ form

/-! ## Texts -/

/-- What stands in front of the next colon, if no gap does. -/
def code? (cs : List CodePoint) : Option (List CodePoint) :=
  let name := cs.takeWhile fun c => c ≠ .char ':' && !isGap c
  if (cs.drop name.length).head? = some (.char ':') then some name else none

/-- Shows the pictures in a text behind some code points that are passed over. -/
def replaceFrom : Nat → List CodePoint → List CodePoint
  | _, [] => []
  | passed + 1, _ :: rest => replaceFrom passed rest
  | 0, c :: rest =>
    match if c = .char ':' then code? rest else none with
    | some name =>
      (shown? name).getD (.char ':' :: name ++ [.char ':']) ++ replaceFrom (name.length + 1) rest
    | none => c :: replaceFrom 0 rest

/-- Shows the pictures that a text asks for. -/
def replace (cs : List CodePoint) : List CodePoint := replaceFrom 0 cs

end Emoji

end Rewind.Console
