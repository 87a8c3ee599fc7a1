import Rewind.Decoding.Scalar
import Rewind.SortedMap

/-!
# Decoding records

Records are maps with named fields; unknown fields are ignored.  Lists and maps decode every item
and collect all issues; the place of a bad key is the key and then the mark `[key]`.
-/

namespace Rewind.Decode

variable {α β : Type}

/-- The fields of a record, with the map of raw data as it is. -/
def record (decode : List (Value × Value) → Decoded α) : Value → Decoded α
  | .map entries => decode entries
  | _ => .fail .noRecord

/-- A field that must be there. -/
def required (name : String) (decode : Value → Decoded α) (entries : List (Value × Value)) :
    Decoded α :=
  .within (.name name) <|
    match Value.field? name entries with
    | some v => decode v
    | none => .fail .missing

/-- A field with a default. -/
def withDefault (name : String) (decode : Value → Decoded α) (default : α)
    (entries : List (Value × Value)) : Decoded α :=
  .within (.name name) <|
    match Value.field? name entries with
    | some v => decode v
    | none => .ok default

/-- The items of whatever counts as a list. -/
def items? : Value → Option (List Value)
  | .list items | .bag items => some items
  | .pair a b => some [a, b]
  | _ => none

/-- A list. -/
def list (decode : Value → Decoded α) (v : Value) : Decoded (List α) :=
  match items? v with
  | some items => .each decode items
  | none => .fail .noList

/-- The step of a path that a key makes. -/
def keyPlace : Value → Place
  | .text t => .name t.lossy
  | .bool b => .index (if b then 1 else 0)
  | .int n => if fitsWord n then .index n else .name (toString n)
  | k => .name k.keyText

/-- An entry of a map. -/
def entry (key : Value → Decoded α) (value : Value → Decoded β) (e : Value × Value) :
    Decoded (α × β) :=
  .within (keyPlace e.1) <|
    .ap (((key e.1).within (.name "[key]")).map Prod.mk) (value e.2)

/-- A map, with keys in order; of several entries whose keys decode alike the last counts. -/
def sortedMap [Ord α] [Std.TransOrd α] [Std.LawfulEqOrd α] (key : Value → Decoded α)
    (value : Value → Decoded β) : Value → Decoded (SortedMap α β)
  | .map entries => (Decoded.all (entries.map (entry key value))).map SortedMap.ofList
  | _ => .fail .noMap

end Rewind.Decode
