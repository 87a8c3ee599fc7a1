import Rewind.Yaml.Kind

/-!
# Graphs of nodes

The scalars, lists and maps that YAML text describes, each with the kind of data it stands for.  A
node that has a name can be in several others, and even in itself, so nodes are known by their
numbers in a `Graph`.  `Graph.merge` puts the entries of other maps into a map that asks for them.
It changes the map for all who contain it, and so does a key `=`, which becomes text in every place
where it is used.
-/

namespace Rewind.Yaml

/-- What a node holds; other nodes by their numbers. -/
inductive Content where
  | scalar (text : Text)
  | list (items : List Nat)
  | map (entries : List (Nat × Nat))
  deriving DecidableEq, Repr

/-- A node. -/
structure Node where
  kind : Kind
  content : Content
  deriving DecidableEq, Repr

/-- What stands where nothing is written. -/
def Node.empty : Node := ⟨.null, .scalar ""⟩

/-- Nodes by their numbers. -/
structure Graph where
  nodes : Array Node := #[]

namespace Graph

/-- The node with a number. -/
def node (g : Graph) (n : Nat) : Node := g.nodes.getD n .empty

/-- Changes the node with a number. -/
def modify (g : Graph) (n : Nat) (f : Node → Node) : Graph := { g with nodes := g.nodes.modify n f }

/-- The number that the next new node gets. -/
def size (g : Graph) : Nat := g.nodes.size

/-- Adds a node. -/
def push (g : Graph) (node : Node) : Graph := { g with nodes := g.nodes.push node }

/-- The entries of a map; other nodes have none. -/
def entries (g : Graph) (n : Nat) : List (Nat × Nat) :=
  match (g.node n).content with
  | .map entries => entries
  | _ => []

/-- Gives a map other entries. -/
def setEntries (g : Graph) (n : Nat) (entries : List (Nat × Nat)) : Graph :=
  g.modify n fun node => { node with content := .map entries }

/-- Whether a node is a map. -/
def isMap (g : Graph) (n : Nat) : Bool :=
  match (g.node n).content with
  | .map _ => true
  | _ => false

/-! ## Text -/

/-- The text that a node has where a scalar is expected; that of a map is the one of its value `=`.
-/
def text (g : Graph) (n : Nat) : Nat → Except Error Text
  | 0 => .error .endless
  | fuel + 1 =>
    match (g.node n).content with
    | .scalar text => .ok text
    | .list _ => .error .malformed
    | .map entries =>
      match entries.find? fun e => (g.node e.1).kind = .value with
      | some e => g.text e.2 fuel
      | none => .error .malformed

/-! ## Merging -/

/-- Whether an entry asks for other maps to be merged. -/
def isMerge (g : Graph) (e : Nat × Nat) : Bool := (g.node e.1).kind = .merge

/-- How many entries ask for other maps to be merged. -/
def mergeCount (g : Graph) : Nat :=
  (List.range g.size).foldl (fun count n => count + (g.entries n).countP g.isMerge) 0

/-- The maps that the value of such an entry names: itself, or the items of a list. -/
def mergedMaps? (g : Graph) (n : Nat) : Option (List Nat) :=
  match (g.node n).content with
  | .map _ => some [n]
  | .list items => if items.all g.isMap then some items else none
  | .scalar _ => none

/-- Makes text of the keys `=` of a map. -/
def settleKeys (g : Graph) (n : Nat) : Graph :=
  (g.entries n).foldl
    (fun g e => g.modify e.1 fun k => if k.kind = .value then { k with kind := .text } else k) g

/-- Puts the entries of the maps that a map asks for in front of its own, behind those in `merged`;
of a list of maps, the last one comes first.  Each step takes one such entry away, so their number
bounds the steps. -/
def mergeFrom (merged : List (Nat × Nat)) (n : Nat) (g : Graph) : Nat → Except Error Graph
  | 0 => .ok g
  | fuel + 1 => do
    let entries := g.entries n
    let front := entries.takeWhile fun e => !g.isMerge e
    match entries.drop front.length with
    | [] => return (g.settleKeys n).setEntries n (merged ++ entries)
    | e :: rest =>
      match g.mergedMaps? e.2 with
      | none => throw .malformed
      | some maps =>
        let g ← maps.foldlM (fun g m => mergeFrom [] m g fuel) (g.setEntries n (front ++ rest))
        mergeFrom (merged ++ maps.reverse.flatMap g.entries) n g fuel

/-- Merges into a map what its entries ask for. -/
def merge (g : Graph) (n : Nat) : Except Error Graph :=
  mergeFrom [] n g (if (g.entries n).any g.isMerge then g.mergeCount + 1 else 1)

end Graph

end Rewind.Yaml
