import Rewind.Console.Emoji
import Rewind.Console.Literal
import Rewind.Console.Style
import Rewind.Console.Styled
import Rewind.Text.Word

/-!
# Markup

Text with tags between square brackets, which name styles of the console.  `read` takes the tags
out, shows pictures that are named, and leaves the text with its styles; a tag that closes what is
not open is a mistake.  `escape` writes text so that nothing in it is a tag.
-/

namespace Rewind.Console

/-- What is wrong with text that is taken for markup. -/
inductive MarkupMistake where
  /-- A closing tag without the tag that it closes. -/
  | unmatchedClosing
  /-- What a tag says about an action is no literal. -/
  | badAction
  /-- A color with a part that is no number. -/
  | badColor
  deriving DecidableEq, Repr

namespace Markup

/-! ## Tags -/

/-- A code point with which a tag may start. -/
def startsTag (c : CodePoint) : Bool :=
  c.isIn fun c => ('a' ≤ c && c ≤ 'z') || c = '#' || c = '/' || c = '@'

/-- The inside of the tag in front of a text. -/
def tag? : List CodePoint → Option (List CodePoint)
  | .char '[' :: c :: rest =>
    if startsTag c then
      let body := rest.takeWhile fun c => c ≠ .char '[' && c ≠ .char ']'
      if (rest.drop body.length).head? = some (.char ']') then some (c :: body) else none
    else none
  | _ => none

/-- The backslashes in front of a text that a tag follows, and the inside of the tag. -/
def slashedTag? (cs : List CodePoint) : Option (Nat × List CodePoint) :=
  let slashes := cs.takeWhile (· = .char '\\')
  (tag? (cs.drop slashes.length)).map fun body => (slashes.length, body)

/-- A tag with its brackets. -/
def bracketed (body : List CodePoint) : List CodePoint := .char '[' :: body ++ [.char ']']

/-- A part of text with markup. -/
inductive Part where
  | text (cs : List CodePoint)
  | tag (body : List CodePoint)
  deriving DecidableEq, Repr

namespace Part

/-- Text without a backslash in front of each bracket. -/
def dropSlashes : List CodePoint → List CodePoint
  | .char '\\' :: .char '[' :: rest => .char '[' :: dropSlashes rest
  | c :: rest => c :: dropSlashes rest
  | [] => []

/-- Text between tags: pictures are shown, and one backslash in front of a bracket goes. -/
def ofText (cs : List CodePoint) : Part := text (Emoji.replace (dropSlashes cs))

/-- The parts that a tag behind backslashes is.  Of two backslashes one is shown, and one without
another makes text of the tag. -/
def ofTag (slashes : Nat) (body : List CodePoint) : List Part :=
  [text (List.replicate (slashes / 2) (.char '\\')),
   if slashes % 2 = 1 then ofText (bracketed body) else tag body]

end Part

/-- The parts of a text behind the text `plain`, in reverse, and some characters that are passed
over. -/
def partsFrom (plain : List CodePoint) : Nat → List CodePoint → List Part
  | _, [] => [.ofText plain.reverse]
  | passed + 1, _ :: rest => partsFrom plain passed rest
  | 0, c :: rest =>
    match slashedTag? (c :: rest) with
    | some (slashes, body) =>
      .ofText plain.reverse :: Part.ofTag slashes body
        ++ partsFrom [] (slashes + body.length + 1) rest
    | none => partsFrom (c :: plain) 0 rest

/-- The parts of a text. -/
def parts (cs : List CodePoint) : List Part := partsFrom [] 0 cs

/-! ## Styles -/

/-- A tag that is not closed yet. -/
structure Opened where
  /-- The place in the text where the tag stands. -/
  place : Nat
  /-- The normal form of the name. -/
  name : Text
  /-- What follows an equals sign. -/
  argument : Option (List CodePoint)

namespace Opened

/-- The name of the style, which the argument is part of. -/
def style (o : Opened) : List CodePoint :=
  match o.argument with
  | some cs => o.name.points ++ .char ' ' :: cs
  | none => o.name.points

/-- Whether the tag is no style but an action. -/
def isAction (o : Opened) : Bool := o.name.points.head? = some (.char '@')

/-- The literal that the argument of an action is: what stands between round brackets behind a name,
or the whole if it has another form. -/
def literal (argument : List CodePoint) : List CodePoint :=
  let rest := argument.dropWhile fun c => isWordChar c || c = .char '.'
  match rest with
  | [] => pointsOf "()"
  | _ =>
    if rest.head? = some (.char '(') ∧ rest.getLast? = some (.char ')') ∧ .char '\n' ∉ rest then rest
    else argument

/-- Whether a text writes a plain value, which none with a half in it does. -/
def isLiteral (cs : List CodePoint) : Bool :=
  (Text.mk cs).string?.any fun s => Literal.accepts s.toList

/-- The span of a tag up to a place. -/
def span (o : Opened) (stop : Nat) : Except MarkupMistake Span :=
  let argument := o.argument.getD []
  if !o.isAction then .ok ⟨o.place, stop, Style.isFaulty o.style⟩
  else if argument.isEmpty || isLiteral (literal (trimGaps argument)) then
    .ok ⟨o.place, stop, false⟩
  else .error .badAction

end Opened

/-- How far text with markup is read. -/
structure Reading where
  /-- The text without its tags, in reverse. -/
  chars : List CodePoint := []
  /-- How many characters that is. -/
  size : Nat := 0
  /-- The tags that are open, the innermost first. -/
  opened : List Opened := []
  spans : List Span := []

namespace Reading

/-- Whether a code point reaches the console; the signs that move its cursor do not. -/
def isShown (c : CodePoint) : Bool := c ∉ pointsOf "\x07\x08\x0b\x0c\r"

/-- The normal form of the name of a style. -/
def normalName (cs : List CodePoint) : Except MarkupMistake Text :=
  (Style.normalName cs).mapError fun _ => .badColor

/-- Closes the innermost tag with a name, or the innermost of all. -/
def close (r : Reading) (name : Option Text) : Except MarkupMistake Reading :=
  match r.opened.find? fun o => name.all (· = o.name) with
  | none => .error .unmatchedClosing
  | some o =>
    (o.span r.size).map fun s =>
      { r with opened := r.opened.eraseP fun o => name.all (· = o.name), spans := s :: r.spans }

/-- Reads a part. -/
def add (r : Reading) : Part → Except MarkupMistake Reading
  | .text cs =>
    let cs := cs.filter isShown
    .ok { r with chars := cs.reverse ++ r.chars, size := r.size + cs.length }
  | .tag body => do
    let name := body.takeWhile (· ≠ .char '=')
    match name with
    | .char '/' :: name =>
      let name := trimGaps name
      if name.isEmpty then r.close none else r.close (some (← normalName name))
    | name =>
      let argument := (body.drop name.length).tail?
      return { r with opened := ⟨r.size, ← normalName name, argument⟩ :: r.opened }

/-- The text that was read.  Tags that are not closed reach to its end. -/
def text (r : Reading) : Styled where
  chars := r.chars.reverse
  spans := r.opened.map (fun o => ⟨o.place, r.size, Style.isFaulty o.style⟩) ++ r.spans

end Reading

/-- The text without its tags, with its styles. -/
def read (text : Text) : Except MarkupMistake Styled :=
  ((parts text.points).foldlM Reading.add {}).map Reading.text

/-! ## Escaping -/

/-- Text in which every tag is taken for text, behind some characters that are left as they are. -/
def escapeFrom : Nat → List CodePoint → List CodePoint
  | _, [] => []
  | kept + 1, c :: rest => c :: escapeFrom kept rest
  | 0, c :: rest =>
    match slashedTag? (c :: rest) with
    | some (slashes, body) =>
      List.replicate (slashes + 1) (.char '\\') ++ c :: escapeFrom (slashes + body.length + 1) rest
    | none => c :: escapeFrom 0 rest

/-- Text in which every tag is taken for text, and a single backslash at the end as well. -/
def escape (text : Text) : Text :=
  let cs := escapeFrom 0 text.points
  let slash : CodePoint := '\\'
  ⟨if cs.getLast? = some slash ∧ cs.dropLast.getLast? ≠ some slash then cs ++ [slash] else cs⟩

end Markup

end Rewind.Console
