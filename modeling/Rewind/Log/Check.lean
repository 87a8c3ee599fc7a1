import Rewind.Log.Replay

/-!
# Checking a log

A log is replayed once from the start memory, and the first update that does not fit is the fault:
a step may write an address once only, and an update's old value must be the value that is there.
Then taking a step back in the recorded order restores what was before it.  The fault is worded where
it is found.
-/

namespace Rewind.Log

/-- The fault of an update. -/
def violation (step : Nat) (u : Update) (reason : ViolationReason) : Fault :=
  .worded (.inconsistentLog ⟨step, u.address, reason⟩)

/-- Checks one update and applies it; `seen` are the addresses that its step has written so far. -/
def checkUpdate (step : Nat) (seen : List Int) (m : Memory) (u : Update) : Except Fault Memory :=
  if u.address ∈ seen then .error (violation step u .writtenTwice)
  else if !m.contains u.address && m.policy == .raise then .error (violation step u .noInitialValue)
  else
    match m.get u.address with
    | .error e => .error e
    | .ok held =>
      if held ≠ u.oldValue then .error (violation step u (.staleValue u.oldValue held))
      else .ok (m.set u.address u.newValue)

/-- Checks the updates of a step and applies them. -/
def checkUpdates (step : Nat) : List Int → Memory → List Update → Except Fault Memory
  | _, m, [] => .ok m
  | seen, m, u :: rest =>
    match checkUpdate step seen m u with
    | .error e => .error e
    | .ok m => checkUpdates step (u.address :: seen) m rest

/-- Checks the steps from number `step` on and applies them. -/
def checkSteps (step : Nat) (m : Memory) : Log → Except Fault Memory
  | [] => .ok m
  | updates :: rest =>
    match checkUpdates step [] m updates with
    | .error e => .error e
    | .ok m => checkSteps (step + 1) m rest

/-- The memory that a log starts from: that of the program, with the start address in its register.
-/
def startMemory (commands : List Command) (initialValues : Cells) (start : Int)
    (policy : MissingCellPolicy) : Memory :=
  (Memory.ofProgram commands initialValues policy).set iar start

/-- Checks that a log replays from the start memory. -/
def check (log : Log) (commands : List Command) (initialValues : Cells) (start : Int)
    (policy : MissingCellPolicy) : Except Fault Unit :=
  (checkSteps 0 (startMemory commands initialValues start policy) log).map fun _ => ()

end Rewind.Log
