import Rewind.Command
import Rewind.SortedMap
import Rewind.Text.Basic
import Rewind.Update

/-!
# Traces

A trace is the finished record of one execution: the program, the labels, the values before the
first step, and the log of what every step wrote.
-/

namespace Rewind

/-- The finished record of one execution. -/
structure Trace where
  schemaVersion : Text := "1.0"
  /-- The text of the program. -/
  source : Text := ""
  /-- The address of every label. -/
  labels : SortedMap Text Int := .empty
  commands : List Command := []
  /-- The values before the first step. -/
  initialValues : SortedMap Int Int := .empty
  log : Log := []
  deriving DecidableEq

/-- The address at which a program with the given labels starts: the one of the start label, or
zero. -/
def startAddress (labels : SortedMap Text Int) (startLabel : Text) : Int :=
  (labels.get? startLabel).getD 0

end Rewind
