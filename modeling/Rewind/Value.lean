import Rewind.Binary64
import Rewind.Moment
import Rewind.Text.Basic
import Rewind.Text.Hex

/-!
# Raw data

`Value` is what a data file holds before anyone has looked at its meaning.  Maps keep their entries
in written order with distinct keys (`Value.setEntry`); `Value.keyText` names a key that is neither
text nor a small integer in the report of a mistake, where halves in a text are lost.
-/

namespace Rewind

/-- Raw data, as read from a file. -/
inductive Value where
  | null
  | bool (b : Bool)
  | int (n : Int)
  | float (x : Binary64)
  | text (t : Text)
  | bytes (bs : List UInt8)
  | moment (m : Moment)
  | list (items : List Value)
  /-- A collection that lists its items but is no list, such as a set. -/
  | bag (items : List Value)
  | pair (first second : Value)
  | map (entries : List (Value × Value))
  deriving BEq, Repr, Inhabited

namespace Value

/-- The name of the sort of a value, as messages spell it. -/
def sortName : Value → String
  | null => "NoneType"
  | bool _ => "bool"
  | int _ => "int"
  | float _ => "float"
  | text _ => "str"
  | bytes _ => "bytes"
  | moment m => if m.time.isSome then "datetime.datetime" else "datetime.date"
  | list _ => "list"
  | bag _ => "set"
  | pair .. => "tuple"
  | map _ => "dict"

/-- Whether a value may be a key of a map: nothing that could change its contents. -/
def isKey : Value → Bool
  | list _ | bag _ | map _ => false
  | pair a b => a.isKey && b.isKey
  | _ => true

/-- The number a value counts as when keys are compared, so that `1`, `1.0` and `true` are one key.
-/
def keyNumber? : Value → Option Int
  | bool b => some (if b then 1 else 0)
  | int n => some n
  | float x => x.toInt?
  | _ => none

/-- Whether two keys are the same key: equal numbers, or the same moment in any zone, or equal data.
-/
def sameKey (a b : Value) : Bool :=
  match a, b with
  | moment m, moment n => m.isSame n
  | _, _ =>
    match a.keyNumber?, b.keyNumber? with
    | some m, some n => m = n
    | none, none => a == b
    | _, _ => false

/-- Sets the value of a key; a key that is there already keeps its place and its spelling. -/
def setEntry {β : Type} (k : Value) (v : β) : List (Value × β) → List (Value × β)
  | [] => [(k, v)]
  | (k', v') :: rest => if k.sameKey k' then (k', v) :: rest else (k', v') :: setEntry k v rest

/-- The entries with distinct keys: of several with the same key the first key and the last value.
-/
def distinct {β : Type} (es : List (Value × β)) : List (Value × β) :=
  es.foldl (fun acc e => setEntry e.1 e.2 acc) []

/-- The value of a text key. -/
def field? (name : Text) : List (Value × Value) → Option Value
  | [] => none
  | (.text k, v) :: rest => if k = name then some v else field? name rest
  | _ :: rest => field? name rest

/-- One byte between quotes. -/
def byteText (quote : Char) (b : UInt8) : String :=
  let c := Char.ofNat b.toNat
  if c = '\\' || c = quote then String.ofList ['\\', c]
  else if c = '\t' then "\\t"
  else if c = '\n' then "\\n"
  else if c = '\r' then "\\r"
  else if 32 ≤ b.toNat && b.toNat < 127 then String.singleton c
  else "\\x" ++ String.ofList (hexDigits 2 b.toNat)

/-- Bytes between quotes: single ones, unless only a single quote occurs inside. -/
def bytesText (bs : List UInt8) : String :=
  let single : UInt8 := 39
  let double : UInt8 := 34
  let quote := if bs.contains single && !bs.contains double then '"' else '\''
  "b" ++ String.singleton quote ++ String.join (bs.map (byteText quote)) ++ String.singleton quote

/-- The name under which a key of an unusual sort is reported. -/
def keyText : Value → String
  | null => "None"
  | bool b => if b then "True" else "False"
  | int n => toString n
  | float x => x.text
  | text t => t.lossy
  | bytes bs => bytesText bs
  | moment m => m.text
  | pair a b => "(" ++ a.keyText ++ ", " ++ b.keyText ++ ")"
  | list _ | bag _ | map _ => ""

end Value

end Rewind
