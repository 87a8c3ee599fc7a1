import Rewind.Text.Basic
import Rewind.Yaml.Error

/-!
# Tokens

What YAML text is made of.  The indentation of blocks has become tokens of its own: the start of a
list or map, and the end of either.
-/

namespace Rewind.Yaml

/-- One unit of YAML text. -/
inductive Token where
  /-- The directive with the version of the language. -/
  | version (major : Nat)
  /-- The directive that gives a handle its meaning. -/
  | handle (handle meaning : String)
  /-- Any other directive. -/
  | directive
  | documentStart
  | documentEnd
  | blockListStart
  | blockMapStart
  | blockEnd
  | flowListStart
  | flowListEnd
  | flowMapStart
  | flowMapEnd
  /-- The dash in front of a list item. -/
  | item
  /-- The comma between the parts of a flow list or map. -/
  | comma
  | key
  | value
  | alias (name : String)
  | anchor (name : String)
  /-- A tag with its handle, if it has one. -/
  | tag (handle : Option String) (suffix : String)
  /-- A scalar; `plain` if it is not quoted. -/
  | scalar (text : Text) (plain : Bool)
  /-- The end of the text. -/
  | finish
  /-- The place where the text could not be read any further. -/
  | stop (e : Error)
  deriving DecidableEq

end Rewind.Yaml
