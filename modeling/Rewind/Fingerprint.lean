import Rewind.Json.Writer
import Rewind.Memory
import Rewind.Sha256

/-!
# Fingerprints

A fingerprint is the first sixteen hexadecimal digits of the hash of a canonical text.  That of
cells hashes the list of their addresses and values in ascending order (`Cells.toJson`), so it does
not depend on the order in which the cells were written.  What has no canonical text has no
fingerprint.
-/

namespace Rewind

/-- The fingerprint of a text. -/
def fingerprintOf (text : String) : String :=
  String.ofList ((Sha256.hash text.toUTF8.toList).text.take 16)

/-- The fingerprint of a JSON value: that of its canonical form, if it has one. -/
def Json.fingerprint? (v : Json) : Option String := v.canonical?.map fingerprintOf

/-- Cells as a list of pairs of an address and its value, in ascending order. -/
def Cells.toJson (cells : Cells) : Json :=
  .list (cells.entries.map fun e => .list [.int e.1, .int e.2])

/-- The fingerprint of cells, if they can be written. -/
def Cells.fingerprint? (cells : Cells) : Option String := (Cells.toJson cells).fingerprint?

end Rewind
