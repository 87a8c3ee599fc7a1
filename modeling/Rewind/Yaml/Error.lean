/-!
# Errors in YAML text

Why a text has no YAML value: it breaks the grammar, or a scalar does not fit the sort that its tag
or its form gives it.
-/

namespace Rewind.Yaml

/-- Why a text has no YAML value. -/
inductive Error where
  /-- The text breaks the grammar, or uses a tag, an alias or a key that is not there or not
  allowed. -/
  | malformed
  /-- A scalar has the form of a number, a moment or a character but names none. -/
  | badScalar
  /-- A scalar tagged as a number is empty. -/
  | emptyNumber
  /-- A scalar tagged as a truth value is no word for one. -/
  | unknownWord
  /-- A scalar tagged as a moment has not the form of one. -/
  | shapelessMoment
  /-- A map with text for its value is tagged as a moment, which only a scalar can write. -/
  | structuredMoment
  /-- An escape names a number beyond 31 bits as a character. -/
  | oversizedCharacter
  /-- The text that a map stands for is the one of the map itself. -/
  | endless
  /-- More lists and maps are inside of each other than are read. -/
  | tooDeep
  deriving DecidableEq, Repr

end Rewind.Yaml
