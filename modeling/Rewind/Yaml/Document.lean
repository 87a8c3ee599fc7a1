import Rewind.Yaml.Layout
import Rewind.Yaml.Graph

/-!
# Documents

The graph of a text with a single document, from its tokens.  Each reader takes the tokens of what
it reads; `node` says by its two flags whether blocks may start here, and whether the items of a
list may stand at the column of the map around it.  The explicit number bounds how deep and how long
the reading goes; three times the number of tokens is enough, since one of three calls in a row
takes one.
-/

namespace Rewind.Yaml

/-- What is left to read, and what names stand for. -/
structure Document where
  tokens : List Token
  handles : List (String × String)
  graph : Graph := {}
  /-- The nodes whose contents have been read, the last first. -/
  order : List Nat := []
  /-- The named nodes so far, also those whose contents are still being read. -/
  anchors : List (String × Nat) := []
  /-- How many more lists and maps may be inside of each other. -/
  depth : Nat

namespace Document

/-- Readers of tokens. -/
abbrev Reading (α : Type) : Type := StateT Document (Except Error) α

/-- The next token. -/
def peek : Reading Token := do
  match (← get).tokens with
  | [] => throw .malformed
  | .stop e :: _ => throw e
  | t :: _ => return t

/-- Takes the next token. -/
def skip : Reading Unit := modify fun d => { d with tokens := d.tokens.tail }

/-- Takes one token, which must be the next. -/
def expect (t : Token) : Reading Unit := do
  if (← peek) = t then skip else throw .malformed

/-- Reads what is inside of a list or map. -/
def inside {α : Type} (contents : Reading α) : Reading α := do
  let depth := (← get).depth
  if depth = 0 then throw .tooDeep
  modify fun d => { d with depth := depth - 1 }
  let a ← contents
  modify fun d => { d with depth }
  return a

/-! ## The graph -/

/-- Makes a node, the contents of which are not known yet. -/
def reserve : Reading Nat := do
  let n := (← get).graph.size
  modify fun d => { d with graph := d.graph.push .empty }
  return n

/-- Gives a node its contents. -/
def settle (n : Nat) (node : Node) : Reading Nat := do
  modify fun d => { d with graph := d.graph.modify n fun _ => node, order := n :: d.order }
  return n

/-- Makes a node. -/
def add (node : Node) : Reading Nat := do settle (← reserve) node

/-- A node, or the empty one in front of certain tokens. -/
def orEmpty (stops : List Token) (n : Reading Nat) : Reading Nat := do
  if (← peek) ∈ stops then add .empty else n

/-- The node that an alias stands for. -/
def aliased (name : String) : Reading Nat := do
  match (← get).anchors.lookup name with
  | some n => return n
  | none => throw .malformed

/-- Makes the name of a node known before its contents are read; it must be new. -/
def announce (anchor : Option String) (n : Nat) : Reading Unit := do
  match anchor with
  | none => return
  | some name =>
    if (← get).anchors.any (·.1 = name) then throw .malformed
    else modify fun d => { d with anchors := (name, n) :: d.anchors }

/-! ## What stands in front of a node -/

/-- The anchor, if one is next. -/
def anchor? : Reading (Option String) := do
  match ← peek with
  | .anchor name => skip; return some name
  | _ => return none

/-- The tag, if one is next, written out in full. -/
def tag? : Reading (Option String) := do
  match ← peek with
  | .tag none suffix => skip; return some suffix
  | .tag (some handle) suffix =>
    skip
    match (← get).handles.lookup handle with
    | some meaning => return some (meaning ++ suffix)
    | none => throw .malformed
  | _ => return none

/-- The anchor and the tag of a node, in any order. -/
def properties : Reading (Option String × Option String) := do
  match ← anchor? with
  | some anchor => return (some anchor, ← tag?)
  | none =>
    let tag ← tag?
    if tag.isSome then return (← anchor?, tag) else return (none, none)

/-- The kind of a list or map. -/
def collectionKind (default : Kind) (tag : Option String) : Kind :=
  match tag with
  | none => default
  | some tag => if tag = "!" then default else .ofTag tag

/-- A scalar; its form counts if it is plain or has the tag that says nothing. -/
def scalar (tag : Option String) (plain : Bool) (text : Text) : Node :=
  match tag with
  | none => ⟨if plain then .ofForm text else .text, .scalar text⟩
  | some tag => ⟨if tag = "!" then .ofForm text else .ofTag tag, .scalar text⟩

/-! ## Nodes -/

mutual

/-- A node. -/
def node (block indentless : Bool) : Nat → Reading Nat
  | 0 => throw .malformed
  | fuel + 1 => do
    match ← peek with
    | .alias name => skip; aliased name
    | _ =>
      let (anchor, tag) ← properties
      let n ← reserve
      announce anchor n
      settle n (← content block indentless anchor tag fuel)

/-- A node behind its anchor and tag. -/
def content (block indentless : Bool) (anchor tag : Option String) : Nat → Reading Node
  | 0 => throw .malformed
  | fuel + 1 => do
    let list items : Node := ⟨collectionKind .list tag, .list items⟩
    let map entries : Node := ⟨collectionKind .map tag, .map entries⟩
    match ← peek with
    | .scalar text plain => skip; return scalar tag plain text
    | .flowListStart => skip; return list (← inside (flowItems true fuel))
    | .flowMapStart => skip; return map (← inside (flowEntries true fuel))
    | t =>
      if t = .item ∧ indentless then return list (← inside (indentlessItems fuel))
      else if t = .blockListStart ∧ block then skip; return list (← inside (blockItems fuel))
      else if t = .blockMapStart ∧ block then skip; return map (← inside (blockEntries fuel))
      else if anchor.isSome || tag.isSome then return scalar tag true ""
      else throw .malformed

/-- The items of a block list, with its end. -/
def blockItems : Nat → Reading (List Nat)
  | 0 => throw .malformed
  | fuel + 1 => do
    match ← peek with
    | .blockEnd => skip; return []
    | _ =>
      expect .item
      let item ← orEmpty [.item, .blockEnd] (node true false fuel)
      return item :: (← blockItems fuel)

/-- The items of a list at the column of the map around it. -/
def indentlessItems : Nat → Reading (List Nat)
  | 0 => throw .malformed
  | fuel + 1 => do
    match ← peek with
    | .item =>
      skip
      let item ← orEmpty [.item, .key, .value, .blockEnd] (node true false fuel)
      return item :: (← indentlessItems fuel)
    | _ => return []

/-- The entries of a block map, with its end. -/
def blockEntries : Nat → Reading (List (Nat × Nat))
  | 0 => throw .malformed
  | fuel + 1 => do
    match ← peek with
    | .blockEnd => skip; return []
    | _ =>
      expect .key
      let key ← orEmpty [.key, .value, .blockEnd] (node true true fuel)
      let value ← entryValue [.key, .value, .blockEnd] true fuel
      return (key, value) :: (← blockEntries fuel)

/-- The value of an entry with its colon, or the empty node if there is no colon. -/
def entryValue (stops : List Token) (block : Bool) : Nat → Reading Nat
  | 0 => throw .malformed
  | fuel + 1 => do
    match ← peek with
    | .value => skip; orEmpty stops (node block block fuel)
    | _ => add .empty

/-- The items of a flow list, with its end.  A key makes a map of one entry. -/
def flowItems (first : Bool) : Nat → Reading (List Nat)
  | 0 => throw .malformed
  | fuel + 1 => do
    if (← peek) ≠ .flowListEnd ∧ !first then expect .comma
    match ← peek with
    | .flowListEnd => skip; return []
    | .key =>
      skip
      let key ← orEmpty [.value, .comma, .flowListEnd] (node false false fuel)
      let value ← entryValue [.comma, .flowListEnd] false fuel
      let item ← add ⟨.map, .map [(key, value)]⟩
      return item :: (← flowItems false fuel)
    | _ =>
      let item ← node false false fuel
      return item :: (← flowItems false fuel)

/-- The entries of a flow map, with its end.  A node without a colon is a key with an empty value.
-/
def flowEntries (first : Bool) : Nat → Reading (List (Nat × Nat))
  | 0 => throw .malformed
  | fuel + 1 => do
    if (← peek) ≠ .flowMapEnd ∧ !first then expect .comma
    match ← peek with
    | .flowMapEnd => skip; return []
    | .key =>
      skip
      let key ← orEmpty [.value, .comma, .flowMapEnd] (node false false fuel)
      let value ← entryValue [.comma, .flowMapEnd] false fuel
      return (key, value) :: (← flowEntries false fuel)
    | _ =>
      let key ← node false false fuel
      let value ← add .empty
      return (key, value) :: (← flowEntries false fuel)

end

/-! ## The document -/

/-- The handles that need no directive. -/
def defaultHandles : List (String × String) := [("!", "!"), ("!!", Kind.tagStart)]

/-- The directives in front of a document; of the version and of each handle there may be one, and
the version must be the first. -/
def directives (versioned : Bool) (handles : List (String × String)) :
    Nat → Reading (List (String × String))
  | 0 => throw .malformed
  | fuel + 1 => do
    match ← peek with
    | .version major =>
      if versioned || major ≠ 1 then throw .malformed
      skip
      directives true handles fuel
    | .handle handle meaning =>
      if handles.any (·.1 = handle) then throw .malformed
      skip
      directives versioned ((handle, meaning) :: handles) fuel
    | .directive => skip; directives versioned handles fuel
    | _ => return handles

/-- Takes the marks of the end of a document. -/
def skipEnds : Nat → Reading Unit
  | 0 => throw .malformed
  | fuel + 1 => do
    if (← peek) = .documentEnd then
      skip
      skipEnds fuel

/-- The node of the document that starts with directives or with its mark. -/
def explicit (fuel : Nat) : Reading Nat := do
  let handles ← directives false [] fuel
  modify fun d => { d with handles := handles ++ defaultHandles }
  expect .documentStart
  match ← peek with
  | .version _ | .handle .. | .directive | .documentStart | .documentEnd | .finish => add .empty
  | _ => node true false fuel

/-- The node of the only document; none if there is no document at all. -/
def single (fuel : Nat) : Reading (Option Nat) := do
  match ← peek with
  | .finish => return none
  | t =>
    let n ← match t with
      | .version _ | .handle .. | .directive | .documentStart => explicit fuel
      | _ => node true false fuel
    skipEnds fuel
    expect .finish
    return some n

end Document

/-- The document of a text, with lists and maps inside of each other down to a depth, and its
outermost node; none if the text holds no document. -/
def Document.ofText (depth : Nat) (text : String) : Except Error (Option Nat × Document) :=
  let tokens := Yaml.tokens text.toList
  (Document.single (3 * tokens.length + 3)).run
    { tokens, handles := Document.defaultHandles, depth }

end Rewind.Yaml
