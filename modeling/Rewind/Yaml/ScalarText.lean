import Rewind.Text.Basic
import Rewind.Text.Hex
import Rewind.Yaml.Point

/-!
# The text of scalars

The four written forms of a scalar: between single or double quotes, plain, and as a block.  Each
reader starts at a point and hands back the text and the point behind it.  Line breaks inside are
folded: one alone becomes a blank, and of several all but the first are kept.
-/

namespace Rewind.Yaml

/-- What a reader returns: a value and the point behind it. -/
abbrev Read (α : Type) : Type := Except Error (α × Point)

/-- A line break that is followed by others, folded. -/
def folded (lineBreak others : List Char) : List Char :=
  if lineBreak ≠ ['\n'] then lineBreak ++ others else if others.isEmpty then [' '] else others

/-! ## Between quotes -/

/-- The character of an escape of one letter. -/
def escape? : Char → Option Char
  | '0' => some '\x00'
  | 'a' => some '\x07'
  | 'b' => some '\x08'
  | 't' => some '\t'
  | '\t' => some '\t'
  | 'n' => some '\n'
  | 'v' => some '\x0b'
  | 'f' => some '\x0c'
  | 'r' => some '\r'
  | 'e' => some '\x1b'
  | ' ' => some ' '
  | '"' => some '"'
  | '\\' => some '\\'
  | '/' => some '/'
  | 'N' => some '\u0085'
  | '_' => some '\u00a0'
  | 'L' => some '\u2028'
  | 'P' => some '\u2029'
  | _ => none

/-- How many hexadecimal digits follow an escape letter. -/
def escapeDigits? : Char → Option Nat
  | 'x' => some 2
  | 'u' => some 4
  | 'U' => some 8
  | _ => none

/-- The number that exactly `count` hexadecimal digits write. -/
def hexNumber? (count : Nat) (cs : List Char) : Option Nat := do
  let ds ← (cs.take count).mapM hexDigit?
  if ds.length < count then none
  return ds.foldl (fun n d => n * 16 + d) 0

/-- The code point with a number. -/
def codePoint (n : Nat) : Except Error CodePoint :=
  if n ≥ 0x80000000 then .error .oversizedCharacter
  else if n ≥ 0x110000 then .error .badScalar
  else .ok (.ofNat n)

/-- The further line breaks of a fold between quotes, with the blanks in front of them. -/
def quotedBreaks (p : Point) : Nat → Read (List Char)
  | 0 => .ok ([], p)
  | fuel + 1 =>
    if p.atSeparator then .error .malformed
    else
      let p := (p.span fun c => c = ' ' || c = '\t').2
      match p.lineBreak with
      | ([], p) => .ok ([], p)
      | (text, p) => (quotedBreaks p fuel).map fun r => (text ++ r.1, r.2)

/-- An escape after its backslash. -/
def quotedEscape (p : Point) : Read (List CodePoint) :=
  match p.next with
  | none => .error .malformed
  | some c =>
    match escape? c, escapeDigits? c with
    | some ch, _ => .ok ([.char ch], p.step)
    | none, some count =>
      match hexNumber? count p.step.rest with
      | none => .error .malformed
      | some n => (codePoint n).map fun ch => ([ch], p.step.forward count)
    | none, none =>
      if isBreak c then
        let p := p.lineBreak.2
        (quotedBreaks p p.fuel).map fun r => (r.1.map .char, r.2)
      else .error .malformed

/-- What follows up to the closing quote, which is left to the caller. -/
def quotedPoints (double : Bool) (p : Point) : Nat → Read (List CodePoint)
  | 0 => .error .malformed
  | fuel + 1 =>
    let andThen (cs : List CodePoint) (p : Point) : Read (List CodePoint) :=
      (quotedPoints double p fuel).map fun r => (cs ++ r.1, r.2)
    match p.next with
    | none => .error .malformed
    | some c =>
      if c = '\'' && !double then
        if p.second = some '\'' then andThen [.char '\''] (p.forward 2) else .ok ([], p)
      else if c = '"' && double then .ok ([], p)
      else if c = '\\' && double then
        match quotedEscape p.step with
        | .error e => .error e
        | .ok (cs, p) => andThen cs p
      else if c = ' ' || c = '\t' || isBreak c then
        let (blanks, p) := p.span fun c => c = ' ' || c = '\t'
        match p.next with
        | none => .error .malformed
        | some _ =>
          match p.lineBreak with
          | ([], p) => andThen (blanks.map .char) p
          | (text, p) =>
            match quotedBreaks p p.fuel with
            | .error e => .error e
            | .ok (others, p) => andThen ((folded text others).map .char) p
      else
        let (cs, p) := p.span fun c => !(c = '\'' || c = '"' || c = '\\' || isSpace c)
        if cs.isEmpty then andThen [.char c] p.step else andThen (cs.map .char) p

/-- A quoted scalar from its opening quote on. -/
def quotedScalar (double : Bool) (p : Point) : Read (List CodePoint) :=
  (quotedPoints double p.step p.fuel).map fun r => (r.1, r.2.step)

/-! ## Plain -/

/-- The punctuation of flow lists and maps. -/
def flowMarks : List Char := [',', '[', ']', '\x7b', '\x7d']

/-- The word of a plain scalar at the start of the text.  Inside of a flow list or map, its
punctuation ends a word. -/
def plainWord (flow : Bool) : List Char → List Char
  | [] => []
  | c :: rest =>
    if isSpace c then []
    else if c = ':' && (endsWord rest.head? || (flow && rest.head?.any (· ∈ flowMarks))) then []
    else if flow && (c = '?' || c ∈ flowMarks) then []
    else c :: plainWord flow rest

/-- The line breaks and blanks of a fold in a plain scalar; none if a document ends there. -/
def plainBreaks (p : Point) : Nat → Option (List Char) × Point
  | 0 => (some [], p)
  | fuel + 1 =>
    if p.startsWith ' ' then plainBreaks p.step fuel
    else
      match p.lineBreak with
      | ([], p) => (some [], p)
      | (text, p) =>
        if p.atSeparator then (none, p)
        else
          let (others, p) := plainBreaks p fuel
          (others.map (text ++ ·), p)

/-- The space between two words of a plain scalar, empty if none follows, and whether a line break
is in it. -/
def plainSpace (p : Point) : List Char × Bool × Point :=
  let (blanks, p) := p.span (· = ' ')
  match p.lineBreak with
  | ([], p) => (blanks, false, p)
  | (text, p) =>
    if p.atSeparator then ([], true, p)
    else
      match plainBreaks p p.fuel with
      | (none, p) => ([], true, p)
      | (some others, p) => (folded text others, true, p)

/-- The words of a plain scalar after some space.  The last part says whether the space behind the
last word holds a line break; it is empty if there is no word at all. -/
def plainWords (flow : Bool) (indent : Int) (space : List Char) (p : Point) :
    Nat → List Char × Option Bool × Point
  | 0 => ([], none, p)
  | fuel + 1 =>
    if p.startsWith '#' then ([], none, p)
    else
      match plainWord flow p.rest with
      | [] => ([], none, p)
      | word =>
        let (next, broken, p) := plainSpace (p.forward word.length)
        if next.isEmpty || p.startsWith '#' || (!flow && (p.column : Int) < indent) then
          (space ++ word, some broken, p)
        else
          let (more, last, p) := plainWords flow indent next p fuel
          (space ++ word ++ more, some (last.getD broken), p)

/-- A plain scalar inside of blocks of an indentation, and whether a line break is behind it. -/
def plainScalar (flow : Bool) (indent : Int) (p : Point) : List Char × Bool × Point :=
  let (text, broken, p) := plainWords flow (indent + 1) [] p p.fuel
  (text, broken.getD false, p)

/-! ## Blocks -/

/-- What happens to the line breaks at the end of a block scalar. -/
inductive Chomp where
  | strip
  | clip
  | keep
  deriving DecidableEq

/-- The sign for the end of a block scalar. -/
def chompSign? : Char → Option Chomp
  | '+' => some .keep
  | '-' => some .strip
  | _ => none

/-- The digit for the indentation of a block scalar. -/
def indentDigit? (p : Point) : Option Nat :=
  p.next.bind fun c => if c.isDigit then some (c.toNat - 48) else none

/-- The two signs in the head of a block scalar, in any order. -/
def blockHead (p : Point) : Read (Chomp × Option Nat) :=
  let (chomp, digit, p) : Chomp × Option Nat × Point :=
    match p.next.bind chompSign? with
    | some chomp =>
      match indentDigit? p.step with
      | some d => (chomp, some d, p.step.step)
      | none => (chomp, none, p.step)
    | none =>
      match indentDigit? p with
      | some d =>
        match p.step.next.bind chompSign? with
        | some chomp => (chomp, some d, p.step.step)
        | none => (Chomp.clip, some d, p.step)
      | none => (Chomp.clip, none, p)
  if digit = some 0 || !endsField p.next then .error .malformed
  else .ok ((chomp, digit), p)

/-- The rest of a line that may hold only blanks and a comment, and its end. -/
def ignoredLine (p : Point) : Read Unit :=
  let p := p.skipBlanks.skipComment
  if endsLine p.next then .ok ((), p.lineBreak.2) else .error .malformed

/-- The empty lines at the start of a block scalar, and the deepest column in them. -/
def leadingLines (deepest : Nat) (p : Point) : Nat → List Char × Nat × Point
  | 0 => ([], deepest, p)
  | fuel + 1 =>
    if p.startsWith ' ' then leadingLines (max deepest p.step.column) p.step fuel
    else
      match p.lineBreak with
      | ([], p) => ([], deepest, p)
      | (text, p) =>
        let (others, deepest, p) := leadingLines deepest p fuel
        (text ++ others, deepest, p)

/-- The point after at most the blanks of an indentation. -/
def indented (indent : Nat) (p : Point) : Nat → Point
  | 0 => p
  | fuel + 1 => if p.column < indent && p.startsWith ' ' then indented indent p.step fuel else p

/-- The empty lines inside of a block scalar with an indentation. -/
def emptyLines (indent : Nat) (p : Point) : Nat → List Char × Point
  | 0 => ([], p)
  | fuel + 1 =>
    let p := indented indent p indent
    match p.lineBreak with
    | ([], p) => ([], p)
    | (text, p) =>
      let (others, p) := emptyLines indent p fuel
      (text ++ others, p)

/-- Whether a line of a block scalar starts with a blank, which keeps the line breaks around it. -/
def startsBlank (p : Point) : Bool := p.next.any fun c => c = ' ' || c = '\t'

/-- The lines of a block scalar after some empty lines: the text, the last line break, and the empty
lines behind it. -/
def blockLines (fold : Bool) (indent : Nat) (breaks : List Char) (p : Point) :
    Nat → List Char × List Char × List Char × Point
  | 0 => ([], [], breaks, p)
  | fuel + 1 =>
    if p.column = indent && p.next.isSome then
      let shifted := startsBlank p
      let (line, p) := p.span fun c => !isBreak c
      let (lineBreak, p) := p.lineBreak
      let (others, p) := emptyLines indent p p.fuel
      if p.column = indent && p.next.isSome then
        let join :=
          if fold && lineBreak = ['\n'] && !shifted && !startsBlank p then
            if others.isEmpty then [' '] else []
          else lineBreak
        let (more, last, tail, p) := blockLines fold indent others p fuel
        (breaks ++ line ++ join ++ more, last, tail, p)
      else (breaks ++ line, lineBreak, others, p)
    else ([], [], breaks, p)

/-- The empty lines in front of a block scalar, and the column of its lines: the one that its head
asks for, or the deepest one that the empty lines reach, but at least `least`. -/
def blockDepth (least : Nat) (digit : Option Nat) (p : Point) : List Char × Nat × Point :=
  match digit with
  | some d =>
    let (breaks, p) := emptyLines (least + d - 1) p p.fuel
    (breaks, least + d - 1, p)
  | none =>
    let (breaks, deepest, p) := leadingLines 0 p p.fuel
    (breaks, max least deepest, p)

/-- The end of a block scalar from its last line break and the empty lines behind it. -/
def Chomp.ending (last tail : List Char) : Chomp → List Char
  | strip => []
  | clip => last
  | keep => last ++ tail

/-- A block scalar from its sign on, inside of blocks of an indentation. -/
def blockScalar (fold : Bool) (indent : Int) (p : Point) : Read (List Char) :=
  match blockHead p.step with
  | .error e => .error e
  | .ok ((chomp, digit), p) =>
    (ignoredLine p).map fun r =>
      let least := (max (indent + 1) 1).toNat
      let (breaks, depth, p) := blockDepth least digit r.2
      let (text, last, tail, p) := blockLines fold depth breaks p p.fuel
      (text ++ chomp.ending last tail, p)

end Rewind.Yaml
