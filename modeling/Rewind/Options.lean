import Rewind.Text.Basic

/-!
# Options

How a timeline is built: the label that names the start address, what a read of an unknown address
answers, and whether the log is checked first.
-/

namespace Rewind

/-- How a read of an address that never received a value is answered. -/
inductive MissingCellPolicy where
  /-- With the value zero. -/
  | zero
  /-- With a fault. -/
  | raise
  deriving DecidableEq, Repr, Inhabited

namespace MissingCellPolicy

/-- The name of a policy. -/
def name : MissingCellPolicy → String
  | zero => "zero"
  | raise => "raise"

/-- The policy with a name. -/
def ofName? (s : String) : Option MissingCellPolicy :=
  if s = "zero" then some zero else if s = "raise" then some raise else none

@[simp] theorem ofName?_name (p : MissingCellPolicy) : ofName? p.name = some p := by
  cases p <;> rfl

end MissingCellPolicy

/-- How a timeline is built. -/
structure Options where
  /-- The label whose address starts the program. -/
  startLabel : Text := "START"
  missingCellPolicy : MissingCellPolicy := .zero
  /-- Whether the log must replay consistently. -/
  checkLog : Bool := false
  deriving DecidableEq, Repr, Inhabited

end Rewind
