import Rewind.Console.Color

/-!
# Styles

Styles of text, as words say them: attributes, which may be denied, a color, a color of the ground
and a link.  `Style.text` says a style in one way, whatever words said it before, so two names of
the same style have one normal form (`Style.normalName`).
-/

namespace Rewind.Console

/-- What a style may say or deny. -/
inductive Attribute where
  | bold
  | dim
  | italic
  | underline
  | blink
  | fastBlink
  | reverse
  | conceal
  | strike
  | doubleUnderline
  | frame
  | encircle
  | overline
  deriving DecidableEq, Repr

namespace Attribute

/-- All attributes, in the order in which a style says them. -/
def all : List Attribute :=
  [bold, dim, italic, underline, blink, fastBlink, reverse, conceal, strike, doubleUnderline, frame,
   encircle, overline]

/-- The word for an attribute. -/
def name : Attribute → String
  | bold => "bold"
  | dim => "dim"
  | italic => "italic"
  | underline => "underline"
  | blink => "blink"
  | fastBlink => "blink2"
  | reverse => "reverse"
  | conceal => "conceal"
  | strike => "strike"
  | doubleUnderline => "underline2"
  | frame => "frame"
  | encircle => "encircle"
  | overline => "overline"

/-- The short words for attributes. -/
def shortNames : List (String × Attribute) :=
  [("b", bold), ("c", conceal), ("d", dim), ("i", italic), ("o", overline), ("r", reverse),
   ("s", strike), ("u", underline), ("uu", doubleUnderline)]

/-- The attribute with a name. -/
def ofName? (name : String) : Option Attribute :=
  (all.find? fun a => a.name = name) <|> shortNames.lookup name

/-- The attribute that a word stands for. -/
def ofWord? (word : List CodePoint) : Option Attribute := (Text.mk word).string?.bind ofName?

end Attribute

/-- A style of text. -/
structure Style where
  /-- The attributes that are said or denied, the last first. -/
  attributes : List (Attribute × Bool) := []
  color : Option String := none
  ground : Option String := none
  link : Option Text := none
  deriving DecidableEq, Repr

namespace Style

/-- The style that words say on top of another one. -/
def ofWords (s : Style) : List (List CodePoint) → Except StyleMistake Style
  | [] => .ok s
  | [word] => addWord s word
  | word :: next :: rest =>
    match (Text.mk (lowerCase word)).string? with
    | some "on" => (Color.ofWord next).bind fun color => ofWords { s with ground := some color } rest
    | some "not" =>
      match Attribute.ofWord? next with
      | some a => ofWords { s with attributes := (a, false) :: s.attributes } rest
      | none => .error .unknown
    | some "link" => ofWords { s with link := some ⟨next⟩ } rest
    | _ => (addWord s word).bind fun s => ofWords s (next :: rest)
where
  /-- The style with a word that wants no other one behind it. -/
  addWord (s : Style) (word : List CodePoint) : Except StyleMistake Style :=
    match Attribute.ofWord? (lowerCase word) with
    | some a => .ok { s with attributes := (a, true) :: s.attributes }
    | none => (Color.ofWord word).map fun color => { s with color := some color }

/-- The style that a text says. -/
def ofText (cs : List CodePoint) : Except StyleMistake Style :=
  if trimGaps cs = pointsOf "none" then .ok {} else ofWords {} (words cs)

/-- The words for a style. -/
def wording (s : Style) : List Text :=
  (Attribute.all.filterMap fun a =>
      (s.attributes.lookup a).map fun said =>
        Text.ofString (if said then a.name else "not " ++ a.name))
    ++ s.color.toList.map Text.ofString
    ++ (s.ground.map fun color => Text.ofString ("on " ++ color)).toList
    ++ (s.link.map fun link => Text.ofString "link " ++ link).toList

/-- The text for a style. -/
def text (s : Style) : Text :=
  match s.wording with
  | [] => "none"
  | said => ⟨(pointsOf " ").intercalate (said.map Text.points)⟩

/-- The normal form of the name of a style.  Of a name that says no style it is the lower case. -/
def normalName (cs : List CodePoint) : Except StyleMistake Text :=
  match ofText cs with
  | .ok s => .ok s.text
  | .error .unknown => .ok ⟨lowerCase (trimGaps cs)⟩
  | .error .badNumber => .error .badNumber

/-- Whether a name has a color that cannot be read. -/
def isFaulty (cs : List CodePoint) : Bool :=
  match ofText cs with
  | .error .badNumber => true
  | _ => false

end Style

end Rewind.Console
