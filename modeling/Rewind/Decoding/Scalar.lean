import Rewind.Decoding.Issue
import Rewind.Text.Integer
import Rewind.Text.Utf8
import Rewind.Value

/-!
# Decoding scalars

How raw data becomes an integer, a text or a truth value.  The rules are lenient: integers may be
written as text or as a floating point number without a fraction, and a truth value as a word.
-/

namespace Rewind.Decode

/-- The text of a value that is text, or bytes in UTF-8; the inner option is empty for other bytes.
-/
def textOf? : Value → Option (Option Text)
  | .text t => some (some t)
  | .bytes bs => some ((decodeUtf8? bs).map fun cs => String.ofList cs)
  | _ => none

/-- What a text without halves decodes to. -/
def whole {α : Type} (decode : String → Decoded α) (t : Text) : Decoded α :=
  match t.string? with
  | some s => decode s
  | none => .fail .undecodableText

/-- Half of the numbers of 64 bits. -/
def wordLimit : Nat := 9223372036854775808

/-- Whether an integer fits into 64 bits with a sign. -/
def fitsWord (n : Int) : Bool := -(wordLimit : Int) ≤ n && n < wordLimit

/-- The integer that text writes. -/
def integerOfText (s : String) : Decoded Int :=
  match Integer.ofField s with
  | .ok n => .ok n
  | .error .malformed => .fail .unreadableInteger
  | .error .tooLong => .fail .oversizedInteger

/-- The integer that a floating point number is; its size must stay below `wordLimit`. -/
def integerOfFloat (x : Binary64) : Decoded Int :=
  if !x.isFinite then .fail .infiniteInteger
  else
    match x.toInt? with
    | none => .fail .fractionalInteger
    | some n => if n.natAbs < wordLimit then .ok n else .fail .oversizedInteger

/-- An integer. -/
def integer (v : Value) : Decoded Int :=
  match v with
  | .int n => .ok n
  | .bool b => .ok (if b then 1 else 0)
  | .float x => integerOfFloat x
  | v =>
    match textOf? v with
    | some (some t) => whole integerOfText t
    | some none => .fail .unreadableInteger
    | none => .fail .noInteger

/-- A text. -/
def text (v : Value) : Decoded Text :=
  match textOf? v with
  | some (some t) => .ok t
  | some none => .fail .undecodableText
  | none => .fail .noText

/-- A value that may be absent. -/
def optional {α : Type} (decode : Value → Decoded α) : Value → Decoded (Option α)
  | .null => .ok none
  | v => (decode v).map some

/-- The words for a truth value. -/
def truthWords : List (String × Bool) :=
  [("0", false), ("off", false), ("f", false), ("false", false), ("n", false), ("no", false),
   ("1", true), ("on", true), ("t", true), ("true", true), ("y", true), ("yes", true)]

/-- The truth value that a word names, in upper or lower case. -/
def truthOfWord? (s : String) : Option Bool :=
  let s := String.ofList (s.toList.map Char.toLower)
  (truthWords.find? fun w => w.1 = s).map Prod.snd

/-- The truth value that text names. -/
def truthOfText (s : String) : Decoded Bool :=
  match truthOfWord? s with
  | some b => .ok b
  | none => .fail .unreadableTruthValue

/-- The truth value that the integers zero and one stand for. -/
def truthOfInteger (n : Int) : Decoded Bool :=
  if n = 0 then .ok false else if n = 1 then .ok true else .fail .unreadableTruthValue

/-- A truth value. -/
def truthValue (v : Value) : Decoded Bool :=
  match v with
  | .bool b => .ok b
  | .int n => if fitsWord n then truthOfInteger n else .fail .noTruthValue
  | .float x =>
    match integerOfFloat x with
    | .ok n => truthOfInteger n
    | .error _ => .fail .noTruthValue
  | v =>
    match textOf? v with
    | some (some t) => whole truthOfText t
    | some none => .fail .unreadableTruthValue
    | none => .fail .noTruthValue

end Rewind.Decode
