import Rewind.Text.Integer
import Rewind.Text.Utf8
import Rewind.Yaml.ScalarText
import Rewind.Yaml.Token

/-!
# Anchors, tags and directives

The words that stand in front of nodes and documents: the names of anchors and aliases, tags with
their handles, and the lines that start with a percent sign.
-/

namespace Rewind.Yaml

/-- A character of a name. -/
def isNameChar (c : Char) : Bool := c.isAlphanum || c = '-' || c = '_'

/-- A name of at least one character. -/
def name (p : Point) : Read String :=
  match p.span isNameChar with
  | ([], _) => .error .malformed
  | (cs, p) => .ok (String.ofList cs, p)

/-! ## Anchors and aliases -/

/-- Whether a name may end in front of a character. -/
def endsName (next : Option Char) : Bool :=
  endsWord next || next.any (· ∈ ['?', ':', ',', ']', '\x7d', '%', '@', '\x60'])

/-- The name of an anchor or alias after its sign. -/
def anchorName (p : Point) : Read String :=
  match name p with
  | .ok (s, p) => if endsName p.next then .ok (s, p) else .error .malformed
  | .error e => .error e

/-! ## Tags -/

/-- A character that a tag may hold as it is. -/
def isTagChar (c : Char) : Bool :=
  c.isAlphanum || c ∈ ['-', ';', '/', '?', ':', '@', '&', '=', '+', '$', ',', '_', '.', '!', '~', '*',
    '\'', '(', ')', '[', ']']

/-- The bytes of a run of escapes, each a percent sign and two hexadecimal digits. -/
def escapedBytes (p : Point) : Nat → Read (List UInt8)
  | 0 => .ok ([], p)
  | fuel + 1 =>
    if p.startsWith '%' then
      match hexNumber? 2 p.step.rest with
      | none => .error .malformed
      | some n => (escapedBytes (p.forward 3) fuel).map fun r => (UInt8.ofNat n :: r.1, r.2)
    else .ok ([], p)

/-- The characters of a tag. -/
def tagChars (p : Point) : Nat → Read (List Char)
  | 0 => .ok ([], p)
  | fuel + 1 =>
    if p.startsWith '%' then
      match escapedBytes p p.fuel with
      | .error e => .error e
      | .ok (bytes, p) =>
        match decodeUtf8? bytes with
        | none => .error .malformed
        | some cs => (tagChars p fuel).map fun r => (cs ++ r.1, r.2)
    else
      match p.span isTagChar with
      | ([], p) => .ok ([], p)
      | (cs, p) => (tagChars p fuel).map fun r => (cs ++ r.1, r.2)

/-- A part of a tag with at least one character. -/
def tagText (p : Point) : Read String :=
  match tagChars p p.fuel with
  | .error e => .error e
  | .ok ([], _) => .error .malformed
  | .ok (cs, p) => .ok (String.ofList cs, p)

/-- A handle from its exclamation mark on: a name between two of them, or one alone. -/
def tagHandle (p : Point) : Read String :=
  if p.startsWith '!' then
    if p.second = some ' ' then .ok ("!", p.step)
    else
      let (cs, p) := p.step.span isNameChar
      if p.startsWith '!' then .ok (String.ofList ('!' :: cs ++ ['!']), p.step) else .error .malformed
  else .error .malformed

/-- What a reader returns if a field ends behind it. -/
def fieldEnd {α : Type} (r : Read α) : Read α :=
  match r with
  | .ok (a, p) => if endsField p.next then .ok (a, p) else .error .malformed
  | .error e => .error e

/-- A tag between angle brackets, after the opening one. -/
def verbatimTag (p : Point) : Read Token :=
  match tagText p with
  | .error e => .error e
  | .ok (suffix, p) =>
    if p.startsWith '>' then .ok (.tag none suffix, p.step) else .error .malformed

/-- A tag with a handle; a single exclamation mark is one if no other follows in the word. -/
def shortTag (p : Point) : Read Token :=
  let word := p.step.rest.takeWhile fun c => !endsField (some c)
  match if '!' ∈ word then tagHandle p else .ok ("!", p.step) with
  | .error e => .error e
  | .ok (handle, p) => (tagText p).map fun r => (.tag (some handle) r.1, r.2)

/-- A tag from its exclamation mark on. -/
def tag (p : Point) : Read Token :=
  fieldEnd <|
    if p.second = some '<' then verbatimTag (p.forward 2)
    else if endsWord p.second then .ok (.tag none "!", p.step)
    else shortTag p

/-! ## Directives -/

/-- A run of digits, no more of them than an integer may have. -/
def versionNumber (p : Point) : Read Nat :=
  match p.span Char.isDigit with
  | ([], _) => .error .malformed
  | (cs, p) =>
    if Integer.maxDigits < cs.length then .error .badScalar
    else .ok (cs.foldl (fun n c => n * 10 + (c.toNat - 48)) 0, p)

/-- The version of the language: two numbers with a point between them. -/
def versionDirective (p : Point) : Read Token :=
  match versionNumber p with
  | .error e => .error e
  | .ok (major, p) =>
    if p.startsWith '.' then fieldEnd ((versionNumber p.step).map fun r => (.version major, r.2))
    else .error .malformed

/-- A handle and its meaning. -/
def handleDirective (p : Point) : Read Token :=
  match tagHandle p with
  | .error e => .error e
  | .ok (handle, p) =>
    if p.startsWith ' ' then
      fieldEnd ((tagText p.skipBlanks).map fun r => (.handle handle r.1, r.2))
    else .error .malformed

/-- A directive from its percent sign on, with its line. -/
def directive (p : Point) : Read Token :=
  match fieldEnd (name p.step) with
  | .error e => .error e
  | .ok (word, p) =>
    let body :=
      if word = "YAML" then versionDirective p.skipBlanks
      else if word = "TAG" then handleDirective p.skipBlanks
      else .ok (.directive, p.skipLine)
    match body with
    | .error e => .error e
    | .ok (token, p) => (ignoredLine p).map fun r => (token, r.2)

end Rewind.Yaml
