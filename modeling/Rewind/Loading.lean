import Rewind.Decoding.Trace
import Rewind.Files.Data
import Rewind.Timeline.Basic

/-!
# Loading

Traces and options from files.  `Trace.load` reads a whole file as a trace; `Options.load` reads the
section `timeline` of a YAML file, where anything that counts as nothing stands for the defaults.
`FileFailure.refusal?` is the wording of the failures that loading a trace is documented to end
with; the others are let through as they are.
-/

namespace Rewind

/-- The wording of a failure to load a trace from a path, for the failures that are documented.
What a file with data of another shape, or with bad YAML, is refused for in particular is not
worded. -/
def FileFailure.refusal? (path : Path) : FileFailure → Option String
  | unreadable .endsEarly => none
  | unreadable fault => some s!"Cannot read trace file {path.text}: {fault.message path.text}"
  | badJson mistake => some s!"Cannot parse trace file {path.text}: {mistake.message}"
  | badYaml .malformed => some s!"Cannot parse trace file {path.text}: "
  | noMap => some s!"Trace file {path.text} must contain a mapping at top level"
  | invalid _ => some s!"Invalid trace file {path.text}: "
  | undecodable | oversizedInteger | tooDeep | badYaml _ => none

namespace Trace

/-- The part that speaks about loaded traces. -/
def speaker : String := "steptrace.loader"

/-- The entry about a loaded trace. -/
def loadedEntry (path : Path) (trace : Trace) : JournalEntry :=
  .info speaker
    s!"Loaded trace {path.text}: {trace.log.length} steps, {trace.commands.length} commands"

/-- The trace that raw data describes, which must be a map. -/
def ofData : Value → Except FileFailure Trace
  | .map entries => (Trace.decode (.map entries)).mapError .invalid
  | _ => .error .noMap

/-- The trace in a file. -/
def load (files : Files) (path : Path) : Journaled FileFailure Trace := do
  let trace ← .of ((files.data path).bind ofData)
  .note (loadedEntry path trace)
  return trace

end Trace

namespace Options

/-- The part that speaks about loaded options. -/
def speaker : String := "steptrace.config"

/-- The entry about the file that options are read from. -/
def loadingEntry (path : String) : JournalEntry :=
  .info speaker ("Loading timeline config from " ++ path)

/-- Whether raw data counts as nothing. -/
def isNothing : Value → Bool
  | .null => true
  | .bool b => !b
  | .int n => n = 0
  | .float x => x.toInt? = some 0
  | .text s => s.isEmpty
  | .bytes bs => bs.isEmpty
  | .list items => items.isEmpty
  | .bag items => items.isEmpty
  | .map entries => entries.isEmpty
  | .moment _ | .pair .. => false

/-- The data without what counts as nothing. -/
def orEmptyMap (v : Value) : Value := if isNothing v then .map [] else v

/-- The options that raw data describes in its section `timeline`. -/
def ofData (v : Value) : Except FileFailure Options :=
  match orEmptyMap v with
  | .map entries =>
    let part := orEmptyMap ((Value.field? "timeline" entries).getD .null)
    (Options.decode part).mapError .invalid
  | _ => .error .noMap

/-- The options in a file. -/
def load (files : Files) (path : String) : Journaled FileFailure Options := do
  .note (loadingEntry path)
  .of (((files.text path).bind (Files.ofYaml files.yamlDepth)).bind ofData)

end Options

/-! ## Timelines from files -/

/-- Why a file does not give a timeline. -/
inductive OpenFailure where
  | file (e : FileFailure)
  | fault (e : Fault)
  deriving Repr

/-- The timeline of the trace in a file. -/
def Timeline.ofFile {ι : Type} (files : Files) (path : Path) (options : Options) :
    Journaled OpenFailure (Timeline ι) := do
  let trace ← (Trace.load files path).mapError .file
  (Timeline.build trace options).mapError .fault

end Rewind
