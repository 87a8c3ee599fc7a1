import Rewind.Journal
import Rewind.Log.Check
import Rewind.Trace

/-!
# Timelines

A timeline is a trace with a cursor.  Its memory is that of the cursor's position: the start memory
with the steps before the cursor applied (`advance`), or taken back again (`retreat`).  `ι` names
the listeners; the registry holds them in the order in which they were added, as often as they were
added.
-/

namespace Rewind

/-- A trace with a cursor and the listeners to its moves. -/
structure Timeline (ι : Type) where
  options : Options
  log : Log
  source : Text
  labels : SortedMap Text Int
  commands : List Command
  /-- The memory at the cursor. -/
  memory : Memory
  /-- The number of steps in front of the cursor. -/
  cursor : Nat
  registry : List ι
  /-- Whether a move is in progress. -/
  moving : Bool

namespace Timeline

variable {ι : Type}

/-! ## Construction -/

/-- The part that speaks about timelines. -/
def speaker : String := "steptrace.core.timeline"

/-- The part that speaks about checked logs. -/
def checkSpeaker : String := "steptrace.core.validation"

/-- The entry about a checked log. -/
def checkedEntry (log : Log) : JournalEntry :=
  .debug checkSpeaker s!"Validated delta log of {log.length} steps"

/-- The entry about a new timeline. -/
def readyEntry (steps commands : Nat) (start : Int) : JournalEntry :=
  .info speaker s!"Timeline ready: {steps} steps, {commands} commands, start address {start}"

/-- The entry about a move that changed the cursor. -/
def movedEntry (origin target : Nat) : JournalEntry :=
  .debug speaker s!"Moved from step {origin} to step {target}"

/-- Checks a log and says so in the journal. -/
def checkLog (log : Log) (commands : List Command) (initialValues : Cells) (start : Int)
    (policy : MissingCellPolicy) : Journaled Fault Unit := do
  .of (log.check commands initialValues start policy)
  .note (checkedEntry log)

/-- The timeline of a trace with the cursor at the start, whatever its log says. -/
def ofTrace (trace : Trace) (options : Options) : Timeline ι where
  options := options
  log := trace.log
  source := trace.source
  labels := trace.labels
  commands := trace.commands
  memory := Log.startMemory trace.commands trace.initialValues
    (startAddress trace.labels options.startLabel) options.missingCellPolicy
  cursor := 0
  registry := []
  moving := false

/-- The timeline of a trace with the cursor at the start; the log is checked first if the options
ask for it. -/
def build (trace : Trace) (options : Options) : Journaled Fault (Timeline ι) := do
  let start := startAddress trace.labels options.startLabel
  if options.checkLog then
    checkLog trace.log trace.commands trace.initialValues start options.missingCellPolicy
  .note (readyEntry trace.log.length trace.commands.length start)
  return ofTrace trace options

/-! ## Looking -/

/-- The number of steps. -/
def count (t : Timeline ι) : Nat := t.log.length

/-- Whether the cursor is in front of all steps. -/
def atStart (t : Timeline ι) : Bool := t.cursor = 0

/-- Whether the cursor is behind all steps. -/
def atEnd (t : Timeline ι) : Bool := t.cursor = t.count

/-- The value at an address. -/
def get (t : Timeline ι) (address : Int) : Except Fault Int := t.memory.get address

/-- The command of every address that has one: the first command there. -/
def commandIndex (commands : List Command) : SortedMap Int Command :=
  commands.foldl (fun index c => index.insertNew c.address c) .empty

/-- The command at an address. -/
def commandAt? (t : Timeline ι) (address : Int) : Option Command :=
  (commandIndex t.commands).get? address

/-- The index answers as a search through the program does: the first command counts. -/
theorem commandAt?_eq_find? (t : Timeline ι) (a : Int) :
    t.commandAt? a = t.commands.find? fun c => c.address = a := by
  refine (SortedMap.get?_foldl_insertNew Command.address id .empty t.commands a).trans ?_
  simp

/-- The command at the address in the instruction-address register. -/
def currentCommand (t : Timeline ι) : Except Fault (Option Command) :=
  (t.get iar).map t.commandAt?

/-- The smallest label of an address, by code points. -/
def nameOf? (t : Timeline ι) (address : Int) : Option Text :=
  (t.labels.entries.find? fun e => e.2 = address).map Prod.fst

/-- The address of a label. -/
def addressOf? (t : Timeline ι) (name : Text) : Option Int := t.labels.get? name

/-- The updates of a step. -/
def updatesOf (t : Timeline ι) (step : Int) : Except Fault Step :=
  if 0 ≤ step then
    match t.log[step.toNat]? with
    | some updates => .ok updates
    | none => .error (.worded (.stepOutOfRange step t.count))
  else .error (.worded (.stepOutOfRange step t.count))

/-- A short description. -/
def summary (t : Timeline ι) : String := s!"Timeline(position={t.cursor}, steps={t.count})"

/-! ## Changing -/

/-- Adds a listener behind the others. -/
def addListener (t : Timeline ι) (listener : ι) : Timeline ι :=
  { t with registry := t.registry ++ [listener] }

/-- Removes the earliest registration of a listener. -/
def removeListener [DecidableEq ι] (t : Timeline ι) (listener : ι) : Except Fault (Timeline ι) :=
  if listener ∈ t.registry then .ok { t with registry := t.registry.erase listener }
  else .error .notRegistered

/-- Writes to the memory from outside of any step. -/
def poke (t : Timeline ι) (address value : Int) : Timeline ι :=
  { t with memory := t.memory.set address value }

/-- The position nearest to a number. -/
def clamp (t : Timeline ι) (position : Int) : Nat := min t.count position.toNat

/-- Applies the step behind the cursor and moves the cursor over it. -/
def advance (t : Timeline ι) : Timeline ι :=
  match t.log[t.cursor]? with
  | some step => { t with memory := t.memory.setAll (Step.redos step), cursor := t.cursor + 1 }
  | none => t

/-- Moves the cursor back over the step in front of it and takes the step back. -/
def retreat (t : Timeline ι) : Timeline ι :=
  match t.cursor with
  | 0 => t
  | p + 1 =>
    match t.log[p]? with
    | some step => { t with memory := t.memory.setAll (Step.undos step), cursor := p }
    | none => t

end Timeline

end Rewind
