import Rewind.Files.Failure
import Rewind.Files.Path
import Rewind.Json.Reader
import Rewind.Yaml.Data

/-!
# Data files

The raw data in a file.  A file is JSON if its name ends so, and YAML otherwise.
-/

namespace Rewind.Files

/-- The text of a file. -/
def text (files : Files) (path : String) : Except FileFailure String :=
  match files path with
  | .error fault => .error (.unreadable fault)
  | .ok bytes =>
    match textOfBytes? bytes with
    | some text => .ok text
    | none => .error .undecodable

/-- The raw data of a JSON text. -/
def ofJson (depth : Nat) (text : String) : Except FileFailure Value :=
  match Json.ofText depth text with
  | .ok v => .ok v.toValue
  | .error (.mistake m) => .error (.badJson m)
  | .error .oversizedInteger => .error .oversizedInteger
  | .error .tooDeep => .error .tooDeep

/-- The raw data of a YAML text. -/
def ofYaml (depth : Nat) (text : String) : Except FileFailure Value :=
  (Yaml.ofText depth text).mapError .badYaml

/-- The raw data in a file that may be JSON or YAML. -/
def data (files : Files) (path : Path) : Except FileFailure Value :=
  match files.text path.text with
  | .error e => .error e
  | .ok text =>
    if path.isJson then ofJson files.jsonDepth text else ofYaml files.yamlDepth text

end Rewind.Files
