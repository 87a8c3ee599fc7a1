import Rewind.Json.Basic
import Rewind.Timeline.Basic

/-!
# Inspections

What is shown of a timeline at its cursor: the position, the instruction-address register with the
command that it leads to, and the cells at some addresses, each once, in the order asked for.
-/

namespace Rewind

/-- A command as JSON. -/
def Command.toJson (c : Command) : Json :=
  .object [("address", .int c.address), ("mnemonic", .text c.mnemonic),
    ("argument", (c.argument.map Json.int).getD .null), ("label", (c.label.map Json.text).getD .null),
    ("line", (c.line.map Json.int).getD .null), ("value", .int c.value)]

/-- The integers of a command. -/
def Command.integers (c : Command) : List Int :=
  c.address :: c.value :: c.argument.toList ++ c.line.toList

/-- What is shown of a timeline at its cursor. -/
structure Inspection where
  position : Nat
  steps : Nat
  /-- The address in the instruction-address register. -/
  address : Int
  label : Option Text
  command : Option Command
  cells : List (Int × Int)
  deriving DecidableEq, Repr

namespace Inspection

variable {ι : Type}

/-- The cells at some addresses, each once; those of the whole memory if there are none. -/
def cellsAt (t : Timeline ι) (addresses : List Int) : Except Fault (List (Int × Int)) :=
  let shown := if addresses.isEmpty then t.memory.addresses else addresses.eraseDups
  shown.mapM fun a => (t.get a).map (a, ·)

/-- What is shown of a timeline for some addresses. -/
def ofTimeline (t : Timeline ι) (addresses : List Int) : Except Fault Inspection := do
  let cells ← cellsAt t addresses
  let address ← t.get iar
  return {
    position := t.cursor
    steps := t.count
    address
    label := t.nameOf? address
    command := t.commandAt? address
    cells }

/-- An inspection as JSON. -/
def toJson (i : Inspection) : Json :=
  .object [("position", .int i.position), ("steps", .int i.steps), ("iar", .int i.address),
    ("iar_label", (i.label.map Json.text).getD .null),
    ("command", (i.command.map Command.toJson).getD .null),
    ("cells", .object (i.cells.map fun c => ((toString c.1 : String), .int c.2)))]

/-- The integers in an inspection. -/
def integers (i : Inspection) : List Int :=
  [(i.position : Int), i.steps, i.address] ++ (i.command.map Command.integers).getD []
    ++ i.cells.flatMap fun c => [c.1, c.2]

end Inspection

end Rewind
