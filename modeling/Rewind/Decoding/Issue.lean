/-!
# Issues

What is wrong with raw data: an issue names the place and the kind of one mistake.  `Decoded α` is a
value or all the issues that keep it from being one; `ap` collects the issues of both sides.
-/

namespace Rewind

/-- One step of the way to a place in raw data. -/
inductive Place where
  | name (s : String)
  | index (n : Int)
  deriving DecidableEq, Repr

/-- The kinds of mistakes. -/
inductive IssueKind where
  | missing
  | noInteger
  | unreadableInteger
  | oversizedInteger
  | fractionalInteger
  | infiniteInteger
  | noText
  | undecodableText
  | noTruthValue
  | unreadableTruthValue
  | noMap
  | noList
  | noRecord
  | unknownChoice
  | badTriple
  | noTag
  | unknownTag
  | noTaggedRecord
  deriving DecidableEq, Repr

/-- The code under which a kind of mistake is reported. -/
def IssueKind.code : IssueKind → String
  | missing => "missing"
  | noInteger => "int_type"
  | unreadableInteger => "int_parsing"
  | oversizedInteger => "int_parsing_size"
  | fractionalInteger => "int_from_float"
  | infiniteInteger => "finite_number"
  | noText => "string_type"
  | undecodableText => "string_unicode"
  | noTruthValue => "bool_type"
  | unreadableTruthValue => "bool_parsing"
  | noMap => "dict_type"
  | noList => "list_type"
  | noRecord => "model_type"
  | unknownChoice => "enum"
  | badTriple => "value_error"
  | noTag => "union_tag_not_found"
  | unknownTag => "union_tag_invalid"
  | noTaggedRecord => "model_attributes_type"

/-- One mistake and the way to it from the top of the data. -/
structure Issue where
  path : List Place
  kind : IssueKind
  deriving DecidableEq, Repr

namespace Issue

/-- The written form of one step of a path. -/
def placeText : Place → String
  | .name s => s
  | .index n => toString n

/-- The written form of a path, by which issues are put in order. -/
def pathText (i : Issue) : String := "/".intercalate (i.path.map placeText)

/-- The order of reports: by path, then by kind. -/
def reportedBefore (i j : Issue) : Bool :=
  i.pathText < j.pathText || (i.pathText = j.pathText && (i.kind.code ≤ j.kind.code))

/-- The issues in the order of reports. -/
def inOrder (issues : List Issue) : List Issue := issues.mergeSort reportedBefore

end Issue

/-- A decoded value, or all the issues that keep raw data from being one. -/
abbrev Decoded (α : Type) : Type := Except (List Issue) α

namespace Decoded

variable {α β : Type}

/-- One issue at the place looked at. -/
def fail (kind : IssueKind) : Decoded α := .error [⟨[], kind⟩]

/-- The issues as seen from one step further out. -/
def within (place : Place) : Decoded α → Decoded α
  | .ok a => .ok a
  | .error issues => .error (issues.map fun i => { i with path := place :: i.path })

/-- Applies a decoded function to a decoded value and keeps the issues of both. -/
def ap (f : Decoded (α → β)) (a : Decoded α) : Decoded β :=
  match f, a with
  | .ok f, .ok a => .ok (f a)
  | .ok _, .error issues => .error issues
  | .error issues, .ok _ => .error issues
  | .error issues, .error more => .error (issues ++ more)

/-- All decoded values, or the issues of all of them. -/
def all : List (Decoded α) → Decoded (List α)
  | [] => .ok []
  | a :: rest => ap (a.map List.cons) (all rest)

/-- Decodes every item of a list and names the issues by index, from `i` on. -/
def eachFrom (decode : α → Decoded β) (i : Nat) : List α → Decoded (List β)
  | [] => .ok []
  | a :: rest =>
    ap ((within (.index i) (decode a)).map List.cons) (eachFrom decode (i + 1) rest)

/-- Decodes every item of a list and names the issues by index. -/
def each (decode : α → Decoded β) (items : List α) : Decoded (List β) := eachFrom decode 0 items

end Decoded

end Rewind
