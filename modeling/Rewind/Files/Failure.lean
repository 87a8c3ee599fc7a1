import Rewind.Decoding.Issue
import Rewind.Files.Basic
import Rewind.Json.Mistake
import Rewind.Yaml.Error

/-!
# Failures of data files

Every way in which a file may fail to hold the data that is looked for, from reading its bytes to
decoding what is in it.
-/

namespace Rewind

/-- Why a file does not give the data that is looked for. -/
inductive FileFailure where
  /-- The file cannot be read. -/
  | unreadable (fault : FileFault)
  /-- The bytes of the file are no text. -/
  | undecodable
  /-- The text is not JSON. -/
  | badJson (mistake : Json.Mistake)
  /-- The text is JSON with an integer that has more digits than are read. -/
  | oversizedInteger
  /-- The text is JSON with more lists and objects inside of each other than are read. -/
  | tooDeep
  /-- The text has no YAML value. -/
  | badYaml (e : Yaml.Error)
  /-- The data is not a map. -/
  | noMap
  /-- The map does not decode. -/
  | invalid (issues : List Issue)
  deriving Repr

end Rewind
