import Rewind.CommandLine.Inspection
import Rewind.CommandLine.Request
import Rewind.Console.Table
import Rewind.Json.Writer
import Rewind.Loading
import Rewind.Timeline.Session

/-!
# Running requests

What a request prints and how it ends.  A failure that the program is documented to report is
printed and ends it with code 1; others escape from it (`Escape`) and end it with code 1 as well,
behind what had been printed by then.
-/

namespace Rewind.CommandLine

open Console

/-- A failure that a request lets through. -/
inductive Escape where
  /-- The file with the options. -/
  | options (e : FileFailure)
  /-- The file with the trace. -/
  | trace (e : FileFailure)
  | fault (e : Fault)
  /-- Text of the trace that was taken for markup. -/
  | markup (e : MarkupMistake)
  /-- An integer has more digits than are written. -/
  | unwritable
  /-- A text to be printed has a half of a pair in it, for which there are no bytes. -/
  | unencodable
  deriving Repr

/-- How a request ends. -/
structure Ending where
  code : Nat
  output : String
  escaped : Option Escape := none
  deriving Repr

/-- What has some integers in it, if they can be written. -/
def written {α : Type} (integers : List Int) (text : α) : Except Escape α :=
  if integers.all Integer.isWritable then .ok text else .error .unwritable

/-- A text on its way out of the program, as the string that it is. -/
def encoded (text : Text) : Except Escape String :=
  match text.string? with
  | some s => .ok s
  | none => .error .unencodable

/-- What the console shows for a text with markup. -/
def shown (text : Text) : Except Escape String := ((line text).mapError .markup).bind encoded

namespace Ending

/-- The end behind what the parts of an output show, up to the first that cannot be shown. -/
def ofParts (code : Nat) : List (Except Escape String) → Ending
  | [] => ⟨code, "", none⟩
  | .error e :: _ => ⟨1, "", some e⟩
  | .ok shown :: rest =>
    let ending := ofParts code rest
    { ending with output := shown ++ ending.output }

/-- The end with a failure that escapes. -/
def escape (e : Escape) : Ending := ⟨1, "", some e⟩

/-- The end with a failure that is reported behind a heading. -/
def reported (heading message : String) : Ending :=
  ofParts 1 [shown (Text.ofString s!"[red]{heading}:[/red] " ++ Markup.escape message)]

/-- The end with a fault that is reported behind a heading, if its wording can be written. -/
def reportedFault (heading : String) (e : Fault) : Ending :=
  if e.isWritable then reported heading e.message else escape .unwritable

end Ending

/-! ## Opening -/

/-- The options in a file, or the defaults if no file is named. -/
def loadOptions (files : Files) : Option Path → Except FileFailure Options
  | none => .ok {}
  | some path => (Options.load files path.text).result

/-- The end of a request whose timeline could not be opened. -/
def unopened (heading : String) (path : Path) : OpenFailure → Ending
  | .fault e => .reportedFault heading e
  | .file e =>
    match e.refusal? path with
    | some message => .reported heading message
    | none => .escape (.trace e)

/-- Goes on with the timeline of a trace under some options, or reports behind a heading that there
is none. -/
def withTimeline (files : Files) (heading : String) (trace : Path) (options : Option Path)
    (change : Options → Options) (next : Timeline Unit → Ending) : Ending :=
  match loadOptions files options with
  | .error e => .escape (.options e)
  | .ok o =>
    match (Timeline.ofFile files trace (change o)).result with
    | .error e => unopened heading trace e
    | .ok t => next t

/-! ## What is printed -/

/-- The version of the program. -/
def versionText : String := "0.3.0"

/-- The name of an address: that of a register, or the address with its label. -/
def describe (t : Timeline Unit) (address : Int) : Except Escape Text :=
  if address = iar then .ok "IAR"
  else if address = accu then .ok "ACCU"
  else
    written [address] <|
      match (t.nameOf? address).filter (!·.isEmpty) with
      | none => Text.ofString (toString address)
      | some name => Text.ofString s!"{address} (" ++ name ++ Text.ofString ")"

/-- The command that comes next. -/
def nextText : Option Command → Except Escape Text
  | some c => written c.argument.toList c.render
  | none => .ok "[dim]none (halted or outside code)[/dim]"

/-- A row of a table of cells. -/
def cellRow (t : Timeline Unit) (cell : Int × Int) : Except Escape (Text × Text) := do
  return (← describe t cell.1, ← written [cell.2] (Text.ofString (toString cell.2)))

/-- The table of some cells. -/
def cellTable (t : Timeline Unit) (cells : List (Int × Int)) : Except Escape String := do
  let table : Table := ⟨"Address", "Value", ← cells.mapM (cellRow t)⟩
  (table.render.mapError .markup).bind encoded

/-- What an inspection prints. -/
def inspectionParts (t : Timeline Unit) (i : Inspection) : List (Except Escape String) :=
  [shown s!"\n[bold]Step {i.position} of {i.steps}[/bold]",
   do shown (Text.ofString "  IAR: " ++ (← describe t i.address)),
   do shown (Text.ofString "  Next: " ++ (← nextText i.command)),
   cellTable t i.cells]

/-- What an inspection prints as JSON. -/
def jsonPart (i : Inspection) : Except Escape String :=
  written i.integers (i.toJson.indented ++ "\n")

/-- What is printed about a valid trace. -/
def validParts (trace : Path) (t : Timeline Unit) : List (Except Escape String) :=
  [shown s!"[green]Valid trace:[/green] {trace.name}",
   shown s!"  Steps: {t.count}",
   shown s!"  Commands: {t.commands.length}",
   shown s!"  Labels: {t.labels.size}"]

/-- What is printed about a notification. -/
def notificationPart (t : Timeline Unit) : Notification → Except Escape String
  | .cellChanged a v => do
    shown (← written [v] <|
      Text.ofString "  [cyan]write[/cyan]  " ++ (← describe t a) ++ Text.ofString s!" = {v}")
  | .cursorMoved p => shown s!"  [yellow]cursor[/yellow] -> {p}"

/-! ## Moving -/

/-- The session of a timeline without listeners; what the listener keeps is what it was told, the
last first. -/
def session (t : Timeline Unit) : Session Unit (List Notification) := ⟨t, [], []⟩

/-- The listener that keeps everything. -/
def recorder : Listeners Unit (List Notification) := fun _ n =>
  .look fun told _ => .keep (n :: told) .done

/-- Moves to a position without listeners. -/
def movedTo (t : Timeline Unit) (position : Int) : Except Fault (Timeline Unit) :=
  let answer := Session.moveTo recorder (session t) position
  answer.1.map fun _ => answer.2.timeline

/-- What a listener is told during a move by some steps from a position, and the timeline then. -/
def told (t : Timeline Unit) (start offset : Int) :
    Except Fault (List Notification × Timeline Unit) := do
  let t ← movedTo t start
  let answer := Session.moveBy recorder ((session t).addListener ()) offset
  answer.1.map fun _ => (answer.2.kept.reverse, answer.2.timeline)

/-! ## Requests -/

/-- The inspection of a timeline at a position. -/
def inspected (t : Timeline Unit) (position : Int) (addresses : List Int) :
    Except Fault (Inspection × Timeline Unit) := do
  let t ← movedTo t position
  let i ← Inspection.ofTimeline t addresses
  return (i, t)

/-- How a request ends. -/
def run (files : Files) : Request → Ending
  | .version => .ofParts 0 [shown ("steptrace " ++ versionText)]
  | .validate trace options =>
    withTimeline files "Validation failed" trace options ({ · with checkLog := true }) fun t =>
      .ofParts 0 (validParts trace t)
  | .inspect trace options position addresses asJson =>
    withTimeline files "Error" trace options id fun t =>
      match inspected t position addresses with
      | .error e => .reportedFault "Error" e
      | .ok (i, t) => .ofParts 0 (if asJson then [jsonPart i] else inspectionParts t i)
  | .step trace options start offset =>
    withTimeline files "Error" trace options id fun t =>
      match told t start offset with
      | .error e => .escape (.fault e)
      | .ok (notifications, t) => .ofParts 0 (notifications.map (notificationPart t))

end Rewind.CommandLine
