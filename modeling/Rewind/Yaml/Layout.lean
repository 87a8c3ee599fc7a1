import Rewind.Yaml.Property

/-!
# Layout

Tokens from text.  Outside of flow lists and maps the columns open and close blocks: `Layout` keeps
the column of the innermost block and those around it.  Whether a node is a key is only seen at the
colon behind it, so the place of a node that may turn out to be one is kept as a `Candidate`, at
most one for each level of flow lists and maps; it goes stale at the end of its line.
-/

namespace Rewind.Yaml

/-- The place of a node that may turn out to be a key. -/
structure Candidate where
  /-- How many tokens stand in front of the node. -/
  number : Nat
  /-- Whether the node cannot be anything else, as it starts a line of a block map. -/
  required : Bool
  place : Point

/-- How far text has been read into tokens. -/
structure Layout where
  point : Point
  /-- The tokens so far, the last first. -/
  tokens : List Token := []
  /-- How many tokens there are. -/
  count : Nat := 0
  /-- How many flow lists and maps are open. -/
  flow : Nat := 0
  /-- The column of the innermost block. -/
  indent : Int := -1
  /-- The columns of the blocks around it. -/
  outer : List Int := []
  /-- Whether a node that starts here may be a key. -/
  keyAllowed : Bool := true
  /-- The candidates, by level. -/
  candidates : List (Nat × Candidate) := []
  finished : Bool := false

namespace Layout

/-- Adds a token and goes on behind it. -/
def push (s : Layout) (t : Token) (p : Point) : Layout :=
  { s with tokens := t :: s.tokens, count := s.count + 1, point := p }

/-- Puts a token behind the first `number` of them. -/
def insert (s : Layout) (t : Token) (number : Nat) : Layout :=
  { s with tokens := s.tokens.insertIdx (s.count - number) t, count := s.count + 1 }

/-- Whether the point is inside of a flow list or map. -/
def inFlow (s : Layout) : Bool := 0 < s.flow

/-! ## Candidates -/

/-- Keeps the place as the candidate of its level. -/
def keepCandidate (s : Layout) (c : Candidate) : Layout :=
  { s with candidates := (s.flow, c) :: s.candidates.filter (·.1 ≠ s.flow) }

/-- The candidate of the level. -/
def candidate? (s : Layout) : Option Candidate := s.candidates.lookup s.flow

/-- Gives up the candidate of the level, which must not be a required key. -/
def dropCandidate (s : Layout) : Except Error Layout :=
  if s.candidate?.any (·.required) then .error .malformed
  else .ok { s with candidates := s.candidates.filter (·.1 ≠ s.flow) }

/-- Whether the point has left the line of a candidate, or gone more than 1024 characters beyond it.
-/
def isStale (p : Point) (c : Candidate) : Bool :=
  c.place.line ≠ p.line || p.index - c.place.index > 1024

/-- Gives up the stale candidates of all levels. -/
def dropStale (s : Layout) : Except Error Layout :=
  if s.candidates.any fun c => isStale s.point c.2 && c.2.required then .error .malformed
  else .ok { s with candidates := s.candidates.filter fun c => !isStale s.point c.2 }

/-- Makes the point a candidate, where a key is allowed. -/
def saveCandidate (s : Layout) : Except Error Layout :=
  if s.keyAllowed then
    s.dropCandidate.map fun s =>
      s.keepCandidate ⟨s.count, !s.inFlow && s.indent = s.point.column, s.point⟩
  else .ok s

/-! ## Blocks -/

/-- How many blocks end in front of a column, and the columns that are left. -/
def blocksBeyond (column indent : Int) : List Int → Nat × Int × List Int
  | [] => (0, indent, [])
  | o :: outer =>
    if column < indent then
      let (n, indent, outer) := blocksBeyond column o outer
      (n + 1, indent, outer)
    else (0, indent, o :: outer)

/-- Ends the blocks that lie beyond a column. -/
def unwind (s : Layout) (column : Int) : Layout :=
  if s.inFlow then s
  else
    let (n, indent, outer) := blocksBeyond column s.indent s.outer
    { s with tokens := List.replicate n .blockEnd ++ s.tokens, count := s.count + n, indent, outer }

/-- Starts a block in front of a token, unless the innermost one starts at the column already. -/
def openBlock (s : Layout) (start : Token) (column number : Nat) : Layout :=
  if s.indent < column then
    { s.insert start number with indent := column, outer := s.indent :: s.outer }
  else s

/-- Adds the sign of an item or key, which may start a block outside of flow lists and maps. -/
def pushSign (s : Layout) (start sign : Token) (keyAllowed : Bool) : Except Error Layout := do
  if !s.inFlow && !s.keyAllowed then .error .malformed
  let s := if s.inFlow then s else s.openBlock start s.point.column s.count
  let s ← s.dropCandidate
  return { s with keyAllowed }.push sign s.point.step

/-- Adds the colon of a value; the candidate of the level now is its key. -/
def pushValue (s : Layout) : Except Error Layout :=
  match s.candidate? with
  | none => s.pushSign .blockMapStart .value !s.inFlow
  | some c =>
    let s := { s.insert .key c.number with
      keyAllowed := false, candidates := s.candidates.filter (·.1 ≠ s.flow) }
    let s := if s.inFlow then s else s.openBlock .blockMapStart c.place.column c.number
    .ok (s.push .value s.point.step)

/-! ## Other tokens -/

/-- Adds a node that may be a key. -/
def pushNode (s : Layout) (node : Read Token) : Except Error Layout := do
  let s ← s.saveCandidate
  let (token, p) ← node
  return { s with keyAllowed := false }.push token p

/-- Adds a plain scalar; a line break behind it allows a key there. -/
def pushPlain (s : Layout) : Except Error Layout :=
  s.saveCandidate.map fun s =>
    let (text, broken, p) := plainScalar s.inFlow s.indent s.point
    { s with keyAllowed := broken }.push (.scalar (String.ofList text) true) p

/-- Adds a block scalar. -/
def pushBlockScalar (s : Layout) (fold : Bool) : Except Error Layout := do
  let s ← s.dropCandidate
  let (text, p) ← blockScalar fold s.indent s.point
  return { s with keyAllowed := true }.push (.scalar (String.ofList text) false) p

/-- Adds what ends all blocks: a directive or the mark of a document. -/
def pushBoundary (s : Layout) (token : Read Token) : Except Error Layout := do
  let s ← (s.unwind (-1)).dropCandidate
  let (token, p) ← token
  return { s with keyAllowed := false }.push token p

/-- Adds the start of a flow list or map. -/
def pushOpening (s : Layout) (t : Token) : Except Error Layout :=
  s.saveCandidate.map fun s =>
    { s with flow := s.flow + 1, keyAllowed := true }.push t s.point.step

/-- Adds the end of a flow list or map. -/
def pushClosing (s : Layout) (t : Token) : Except Error Layout :=
  s.dropCandidate.map fun s =>
    { s with flow := s.flow - 1, keyAllowed := false }.push t s.point.step

/-- Adds a comma. -/
def pushComma (s : Layout) : Except Error Layout :=
  s.dropCandidate.map fun s => { s with keyAllowed := true }.push .comma s.point.step

/-- Adds the end of the text. -/
def pushFinish (s : Layout) : Except Error Layout :=
  (s.unwind (-1)).dropCandidate.map fun s => { s.push .finish s.point with finished := true }

/-- The characters that cannot start a plain scalar just so. -/
def indicators : List Char :=
  ['-', '?', ':', ',', '[', ']', '\x7b', '\x7d', '#', '&', '*', '!', '|', '>', '\'', '"', '%', '@',
   '\x60']

/-- Whether a plain scalar starts here. -/
def startsPlain (flow : Bool) (p : Point) : Bool :=
  match p.next with
  | none => false
  | some c =>
    !(isSpace c || c ∈ indicators) ||
      (!endsWord p.second && (c = '-' || (!flow && (c = '?' || c = ':'))))

/-- A quoted scalar as a token. -/
def quotedToken (double : Bool) (p : Point) : Read Token :=
  (quotedScalar double p).map fun r => (.scalar ⟨r.1⟩ false, r.2)

/-- A named token from its sign on. -/
def namedToken (make : String → Token) (p : Point) : Read Token :=
  (anchorName p.step).map fun r => (make r.1, r.2)

/-- The next point with something other than blanks, comments and line breaks, and whether a line
break stands in front of it. -/
def skipSpace (p : Point) : Nat → Bool × Point
  | 0 => (false, p)
  | fuel + 1 =>
    match p.skipBlanks.skipComment.lineBreak with
    | ([], p) => (false, p)
    | (_, p) => (true, (skipSpace p fuel).2)

/-- Goes to the next token; a line break outside of flow lists and maps allows a key behind it. -/
def toNextToken (s : Layout) : Layout :=
  let p := if s.point.index = 0 && s.point.startsWith '\uFEFF' then s.point.step else s.point
  let (broken, p) := skipSpace p p.fuel
  { s with point := p, keyAllowed := s.keyAllowed || (broken && !s.inFlow) }

/-- Adds the token that starts with a character. -/
def pushFrom (s : Layout) (c : Char) : Except Error Layout :=
  let p := s.point
  let isWord := s.inFlow || endsWord p.second
  if c = '%' && p.column = 0 then s.pushBoundary (directive p)
  else if p.column = 0 && p.atMark '-' then s.pushBoundary (.ok (.documentStart, p.forward 3))
  else if p.column = 0 && p.atMark '.' then s.pushBoundary (.ok (.documentEnd, p.forward 3))
  else if c = '[' then s.pushOpening .flowListStart
  else if c = '\x7b' then s.pushOpening .flowMapStart
  else if c = ']' then s.pushClosing .flowListEnd
  else if c = '\x7d' then s.pushClosing .flowMapEnd
  else if c = ',' then s.pushComma
  else if c = '-' && endsWord p.second then s.pushSign .blockListStart .item true
  else if c = '?' && isWord then s.pushSign .blockMapStart .key !s.inFlow
  else if c = ':' && isWord then s.pushValue
  else if c = '*' then s.pushNode (namedToken .alias p)
  else if c = '&' then s.pushNode (namedToken .anchor p)
  else if c = '!' then s.pushNode (tag p)
  else if c = '|' && !s.inFlow then s.pushBlockScalar false
  else if c = '>' && !s.inFlow then s.pushBlockScalar true
  else if c = '\'' then s.pushNode (quotedToken false p)
  else if c = '"' then s.pushNode (quotedToken true p)
  else if startsPlain s.inFlow p then s.pushPlain
  else .error .malformed

/-- Adds the next token. -/
def advance (s : Layout) : Except Error Layout := do
  let s ← s.toNextToken.dropStale
  let s := s.unwind s.point.column
  match s.point.next with
  | none => s.pushFinish
  | some c => s.pushFrom c

/-- How many tokens are certain: those in front of the first candidate, in front of which a sign may
still have to be put. -/
def certain (s : Layout) : Nat := s.candidates.foldl (fun n c => min n c.2.number) s.count

/-- The tokens of the rest of the text, up to its end, or up to the first one that is not certain
when the text cannot be read any further. -/
def tokensFrom (s : Layout) : Nat → List Token
  | 0 => s.tokens.reverse
  | fuel + 1 =>
    if s.finished then s.tokens.reverse
    else
      match s.advance with
      | .ok s => tokensFrom s fuel
      | .error e => (.stop e :: s.tokens.drop (s.count - s.certain)).reverse

end Layout

/-- The tokens of a text. -/
def tokens (text : List Char) : List Token :=
  if text.all isPrintable then
    Layout.tokensFrom { point := .ofText text } (text.length + 2)
  else [.stop .malformed]

end Rewind.Yaml
