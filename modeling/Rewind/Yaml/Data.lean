import Rewind.Text.Base64
import Rewind.Yaml.Document
import Rewind.Yaml.Number
import Rewind.Value

/-!
# Data of graphs

The raw data that the nodes of a graph stand for.  A list or map is first made empty and filled
later, in the order in which lists and maps are met, level by level (`Builder`); so the error that
counts is the first one in this order.  What is made for each node, a `Datum`, names other nodes by
their numbers; `Builder.values` puts the data together.
-/

namespace Rewind.Yaml

/-! ## Scalars -/

/-- What is read of a scalar, or the error for any scalar with a half in it. -/
def readWhole {α : Type} (e : Error) (read : String → Except Error α) (text : Text) :
    Except Error α :=
  match text.string? with
  | some s => read s
  | none => .error e

/-- The truth value that a scalar names. -/
def truth (text : String) : Except Error Bool :=
  match Kind.truthOf? text with
  | some b => .ok b
  | none => .error .unknownWord

/-- The bytes that a scalar stands for. -/
def bytes (text : String) : Except Error (List UInt8) :=
  match text.toList.all (·.toNat < 128), decodeBase64? text.toList with
  | true, some bs => .ok bs
  | _, _ => .error .malformed

/-- The data of a text of a kind. -/
def ofScalar (kind : Kind) (text : Text) : Except Error Value :=
  match kind with
  | .null => .ok .null
  | .truth => (readWhole .unknownWord truth text).map .bool
  | .integer => (readWhole .badScalar integer text).map .int
  | .float => (readWhole .badScalar float text).map .float
  | .bytes => (readWhole .malformed bytes text).map .bytes
  | .moment => (readWhole .shapelessMoment moment text).map .moment
  | .text => .ok (.text text)
  | .list | .map | .set | .pairs | .merge | .value | .unknown => .error .malformed

/-! ## Keys -/

/-- A key of a map.  Two keys that are no numbers are different, unless both are the one that has a
word of its own, or are the key of one node. -/
structure Key where
  value : Value
  /-- The node, if the key is no number and not written with the word for that. -/
  origin : Option Nat

/-- Whether two keys are the same key. -/
def Key.isSame (a b : Key) : Bool := a.origin = b.origin && a.value.sameKey b.value

/-- Sets the value of a key; a key that is there already keeps its place and its spelling. -/
def setKey {β : Type} (k : Key) (v : β) : List (Key × β) → List (Key × β)
  | [] => [(k, v)]
  | (k', v') :: rest => if k.isSame k' then (k', v) :: rest else (k', v') :: setKey k v rest

/-! ## Building -/

/-- What is made for a node. -/
inductive Datum where
  | scalar (v : Value)
  | list (items : List Nat)
  | pairs (items : List (Nat × Nat))
  | map (entries : List (Key × Nat))
  | set (items : List Key)

/-- How far the data of a graph has been made. -/
structure Builder where
  graph : Graph
  /-- What is made so far, by the numbers of the nodes. -/
  data : Array (Option Datum)
  /-- The lists and maps that are to be filled, the last one first. -/
  waiting : List Nat := []

namespace Builder

/-- What builds data. -/
abbrev Building (α : Type) : Type := StateT Builder (Except Error) α

/-- Notes what is made for a node. -/
def put (n : Nat) (d : Datum) : Building Unit :=
  modify fun b => { b with data := b.data.modify n fun _ => some d }

/-- Makes something empty for a node, to be filled later. -/
def postpone (n : Nat) (d : Datum) : Building Unit := do
  put n d
  modify fun b => { b with waiting := n :: b.waiting }

/-- The data of a node where a scalar is expected. -/
def scalar (n : Nat) (kind : Kind) : Building Value := do
  let g := (← get).graph
  let text ← g.text n (g.size + 1)
  if kind = .moment && g.isMap n then throw .structuredMoment
  ofScalar kind text

/-- Makes the data of a node, if that is still to be done. -/
def make (n : Nat) : Building Unit := do
  let b ← get
  if (b.data.getD n none).isNone then
    match (b.graph.node n).kind with
    | .list => postpone n (.list [])
    | .pairs => postpone n (.pairs [])
    | .map => postpone n (.map [])
    | .set => postpone n (.set [])
    | .unknown | .merge | .value => throw .malformed
    | kind => put n (.scalar (← scalar n kind))

/-- Makes the data of a key, which must not be a list or map. -/
def makeKey (n : Nat) : Building Key := do
  make n
  let b ← get
  match b.data.getD n none with
  | some (.scalar (.float .nan)) =>
    let word := (b.graph.text n (b.graph.size + 1)).toOption.bind Text.string?
    return ⟨.float .nan, if word.any isNanWord then none else some n⟩
  | some (.scalar v) => return ⟨v, none⟩
  | _ => throw .malformed

/-- The entries of a map, with those merged into it. -/
def makeEntries (n : Nat) : Building (List (Key × Nat)) := do
  let b ← get
  if !b.graph.isMap n then throw .malformed
  let g ← b.graph.merge n
  modify fun b => { b with graph := g }
  (g.entries n).foldlM (fun done (k, v) => do
    let key ← makeKey k
    make v
    return setKey key v done) []

/-- The items of a list. -/
def makeItems (n : Nat) : Building (List Nat) := do
  match ((← get).graph.node n).content with
  | .list items =>
    items.forM make
    return items
  | _ => throw .malformed

/-- The entry of a map that has only one. -/
def makePair (n : Nat) : Building (Nat × Nat) := do
  match (← get).graph.entries n with
  | [(k, v)] =>
    make k
    make v
    return (k, v)
  | _ => throw .malformed

/-- The items of a list of maps with one entry each. -/
def makePairs (n : Nat) : Building (List (Nat × Nat)) := do
  match ((← get).graph.node n).content with
  | .list items => items.mapM makePair
  | _ => throw .malformed

/-- Fills the list or map that has been made for a node. -/
def fill (n : Nat) : Building Unit := do
  match (← get).data.getD n none with
  | some (.list _) => put n (.list (← makeItems n))
  | some (.pairs _) => put n (.pairs (← makePairs n))
  | some (.map _) => put n (.map (← makeEntries n))
  | some (.set _) => put n (.set ((← makeEntries n).map Prod.fst))
  | _ => return

/-- Fills all that waits, and what comes to wait thereby.  Every level takes at least one node that
has not been taken before, so the number of nodes bounds the levels. -/
def fillAll : Nat → Building Unit
  | 0 => return
  | fuel + 1 => do
    let waiting := (← get).waiting
    if !waiting.isEmpty then
      modify fun b => { b with waiting := [] }
      waiting.reverse.forM fill
      fillAll fuel

/-- Makes the data of a node and of all nodes in it. -/
def build (n : Nat) : Building Unit := do
  make n
  fillAll ((← get).graph.size + 1)

/-! ## Values -/

end Builder

/-- The raw data of a datum, where that of other nodes is known. -/
def Datum.value (values : Nat → Value) : Datum → Value
  | scalar v => v
  | list items => .list (items.map values)
  | pairs items => .list (items.map fun p => .pair (values p.1) (values p.2))
  | map entries => .map (entries.map fun e => (e.1.value, values e.2))
  | set items => .bag (items.map Key.value)

/-- How often the data of nodes inside of themselves is written out.  No reader of data looks
further down. -/
def unrolledDepth : Nat := 8

namespace Builder

/-- The raw data of all nodes by their numbers, written out to a depth where nodes are inside of
themselves.  The order names nodes behind those in them, so otherwise once is enough. -/
def values (b : Builder) (order : List Nat) : Nat → Array Value
  | 0 => b.data.map fun d => (d.map (Datum.value fun _ => .null)).getD .null
  | depth + 1 =>
    order.foldl
      (fun values n =>
        match b.data.getD n none with
        | some d =>
          let v := d.value fun m => values.getD m .null
          values.setIfInBounds n v
        | none => values)
      (b.values order depth)

end Builder

/-- The raw data of a text with lists and maps inside of each other down to a depth; no document at
all counts as an empty one. -/
def ofText (depth : Nat) (text : String) : Except Error Value :=
  match Document.ofText depth text with
  | .error e => .error e
  | .ok (none, _) => .ok .null
  | .ok (some n, d) =>
    ((Builder.build n).run
      { graph := d.graph, data := Array.replicate d.graph.size none }).map fun r =>
      (r.2.values d.order.reverse unrolledDepth).getD n .null

end Rewind.Yaml
