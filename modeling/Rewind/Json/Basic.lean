import Rewind.Value

/-!
# JSON

The JSON data model with exact integers, and numbers with a point or an exponent as binary floating
point.  Objects keep the written order of their fields; `Json.setField` is how a repeated name is
settled: the last value counts, at the first place.
-/

namespace Rewind

/-- A JSON value. -/
inductive Json where
  | null
  | bool (b : Bool)
  | int (n : Int)
  | float (x : Binary64)
  | text (s : Text)
  | list (items : List Json)
  | object (fields : List (Text × Json))
  deriving BEq, Repr, Inhabited

namespace Json

/-- Sets the value of a field; a name that is there already keeps its place. -/
def setField (name : Text) (v : Json) : List (Text × Json) → List (Text × Json)
  | [] => [(name, v)]
  | (n, w) :: rest => if n = name then (n, v) :: rest else (n, w) :: setField name v rest

/-- The object of the given fields; the last value of a name counts. -/
def ofFields (fields : List (Text × Json)) : Json :=
  .object (fields.foldl (fun acc f => setField f.1 f.2 acc) [])

/-- The value of a field of an object. -/
def field? (name : Text) : Json → Option Json
  | object fields => (fields.find? fun f => f.1 = name).map Prod.snd
  | _ => none

mutual

/-- JSON as raw data. -/
def toValue : Json → Value
  | null => .null
  | bool b => .bool b
  | int n => .int n
  | float x => .float x
  | text s => .text s
  | list items => .list (itemsToValue items)
  | object fields => .map (fieldsToValue fields)

/-- The items of a list as raw data. -/
def itemsToValue : List Json → List Value
  | [] => []
  | v :: rest => v.toValue :: itemsToValue rest

/-- The fields of an object as raw data. -/
def fieldsToValue : List (Text × Json) → List (Value × Value)
  | [] => []
  | (name, v) :: rest => (.text name, v.toValue) :: fieldsToValue rest

end

end Json

end Rewind
