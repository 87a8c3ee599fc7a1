import Rewind.Text.Integer

/-!
# Faults

What can go wrong with a timeline and its memory.  `Violation` is the first place at which a log
does not replay; `Fault` is every way in which a call can end without a result.  The wording of each
is in `Violation.message` and `Fault.message`.  Some faults are worded as soon as they come up, and
an integer in them that has too many digits is a fault of its own (`Fault.worded`).
-/

namespace Rewind

/-- What is wrong with an update of a log. -/
inductive ViolationReason where
  /-- An earlier update of the same step has the same address. -/
  | writtenTwice
  /-- The address has no value, and reads of such addresses are faults. -/
  | noInitialValue
  /-- The recorded old value is not the value that the cell holds. -/
  | staleValue (recorded held : Int)
  deriving DecidableEq, Repr

/-- The wording of a reason. -/
def ViolationReason.message : ViolationReason → String
  | writtenTwice => "address written twice in one step"
  | noInitialValue => "address has no initial value"
  | staleValue recorded held => s!"recorded old value {recorded} but cell holds {held}"

/-- The integers in the wording of a reason. -/
def ViolationReason.integers : ViolationReason → List Int
  | staleValue recorded held => [recorded, held]
  | writtenTwice | noInitialValue => []

/-- An update of a log that does not replay. -/
structure Violation where
  /-- The step, counted from zero. -/
  step : Nat
  address : Int
  reason : ViolationReason
  deriving DecidableEq, Repr

/-- The wording of a violation. -/
def Violation.message (v : Violation) : String :=
  s!"Step {v.step}, address {v.address}: {v.reason.message}"

/-- The integers in the wording of a violation whose digits nothing bounds; no log is so long that
the number of a step could not be written. -/
def Violation.integers (v : Violation) : List Int := v.address :: v.reason.integers

/-- Why a call ended without a result. -/
inductive Fault where
  /-- The address never received a value. -/
  | missingCell (address : Int)
  /-- The address is no integer but another sort of value. -/
  | badAddress (sort : String)
  /-- The log does not replay. -/
  | inconsistentLog (violation : Violation)
  /-- A move was asked for during a move. -/
  | moveInProgress
  /-- A listener was removed that is not registered. -/
  | notRegistered
  /-- A step was asked for that the log does not have. -/
  | stepOutOfRange (step : Int) (count : Nat)
  /-- A listener gave up for a reason of its own. -/
  | listenerFailed (reason : String)
  /-- The wording of a fault has an integer with too many digits. -/
  | unwritable
  /-- Listeners kept registering listeners and one delivery did not end. -/
  | endlessDelivery
  deriving DecidableEq, Repr

/-- The wording of a fault. -/
def Fault.message : Fault → String
  | missingCell address => s!"No value recorded for address {address}"
  | badAddress sort => s!"Address must be an int, got {sort}"
  | inconsistentLog violation => violation.message
  | moveInProgress => "set_position called while a move is in progress"
  | notRegistered => "listener is not registered"
  | stepOutOfRange step count => s!"Step {step} out of range [0, {count})"
  | listenerFailed reason => reason
  | unwritable => "Exceeds the limit (4300 digits) for integer string conversion"
  | endlessDelivery => "delivery of a notification does not end"

/-- The integers in the wording of a fault whose digits nothing bounds. -/
def Fault.integers : Fault → List Int
  | missingCell address => [address]
  | inconsistentLog violation => violation.integers
  | stepOutOfRange step _ => [step]
  | badAddress _ | moveInProgress | notRegistered | listenerFailed _ | unwritable
  | endlessDelivery => []

/-- Whether a fault has a wording. -/
def Fault.isWritable : Fault → Bool
  | unwritable => false
  | e => e.integers.all Integer.isWritable

/-- A fault that comes with its wording, or else the fault that there is none. -/
def Fault.worded (e : Fault) : Fault := if e.isWritable then e else .unwritable

theorem Fault.worded_of_isWritable {e : Fault} (h : e.isWritable = true) : e.worded = e := if_pos h

theorem Fault.worded_of_not_isWritable {e : Fault} (h : e.isWritable = false) :
    e.worded = .unwritable :=
  if_neg (Bool.eq_false_iff.mp h)

theorem Fault.worded_eq_or (e : Fault) : e.worded = e ∨ e.worded = .unwritable := by
  unfold worded
  split
  · exact .inl rfl
  · exact .inr rfl

end Rewind
