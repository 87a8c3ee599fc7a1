import Rewind.Decoding.Record
import Rewind.Notification
import Rewind.Options
import Rewind.Trace

/-!
# Decoding traces

The records of the domain from raw data.  An update may be written as a list `[address, old, new]`
inside a step; such lists are turned into updates before the steps are looked at, and the first one
that fails is then all that is said about the log (`logEntries`).
-/

namespace Rewind

open Decode

/-- An update from its three fields. -/
def Update.decode : Value → Decoded Update :=
  record fun es =>
    .ap (.ap ((required "address" integer es).map Update.mk) (required "old_value" integer es))
      (required "new_value" integer es)

/-- Why a list is not a triple that makes an update. -/
inductive TripleMistake where
  /-- It does not have three items. -/
  | wrongLength
  /-- Some of its items are no integers. -/
  | badItems (issues : List Issue)
  deriving DecidableEq, Repr

/-- An update from a list of its address, old and new value. -/
def Update.ofTriple (items : List Value) : Except TripleMistake Update :=
  match items with
  | [address, old, new] =>
    match Update.decode (.map [(.text "address", address), (.text "old_value", old),
        (.text "new_value", new)]) with
    | .ok u => .ok u
    | .error issues => .error (.badItems issues)
  | _ => .error .wrongLength

/-- The update as a list of its address, old and new value. -/
def Update.triple (u : Update) : List Int := [u.address, u.oldValue, u.newValue]

/-- A command from its fields. -/
def Command.decode : Value → Decoded Command :=
  record fun es =>
    .ap (.ap (.ap (.ap (.ap
      ((required "address" integer es).map Command.mk)
      (withDefault "mnemonic" text "" es))
      (withDefault "argument" (optional integer) none es))
      (withDefault "label" (optional text) none es))
      (withDefault "line" (optional integer) none es))
      (withDefault "value" integer 0 es)

/-- The policy that a word names. -/
def MissingCellPolicy.ofWord (s : String) : Decoded MissingCellPolicy :=
  match ofName? s with
  | some p => .ok p
  | none => .fail .unknownChoice

/-- A policy from its name. -/
def MissingCellPolicy.decode (v : Value) : Decoded MissingCellPolicy :=
  match textOf? v with
  | some (some t) => whole ofWord t
  | _ => .fail .unknownChoice

/-- Options from their fields. -/
def Options.decode : Value → Decoded Options :=
  record fun es =>
    .ap (.ap
      ((withDefault "start_label" text "START" es).map Options.mk)
      (withDefault "missing_cell_policy" MissingCellPolicy.decode .zero es))
      (withDefault "validate_log" truthValue false es)

/-- A notification from its fields, told apart by the field `kind`. -/
def Notification.decode : Value → Decoded Notification
  | .map es =>
    match Value.field? "kind" es with
    | none => .fail .noTag
    | some (.text kind) =>
      if kind = "cell_changed" then
        .within (.name "cell_changed") <|
          .ap ((required "address" integer es).map Notification.cellChanged)
            (required "value" integer es)
      else if kind = "cursor_moved" then
        .within (.name "cursor_moved") <|
          (required "position" integer es).map Notification.cursorMoved
      else .fail .unknownTag
    | some _ => .fail .unknownTag
  | _ => .fail .noTaggedRecord

/-! ## The log -/

/-- An entry of a step: an update made from a list, or raw data that is still to be looked at. -/
inductive StepEntry where
  | update (u : Update)
  | raw (v : Value)

/-- A step in which all lists have been made into updates, or raw data that is no list. -/
inductive StepDraft where
  | entries (es : List StepEntry)
  | raw (v : Value)

/-- What the failure of a triple says about the log. -/
def TripleMistake.issues : TripleMistake → List Issue
  | wrongLength => [⟨[], .badTriple⟩]
  | badItems issues => issues

/-- An entry of a step after lists have been made into updates. -/
def entryDraft (v : Value) : Except TripleMistake StepEntry :=
  match v with
  | .list items => (Update.ofTriple items).map .update
  | .pair a b => (Update.ofTriple [a, b]).map .update
  | v => .ok (.raw v)

/-- The entries of a step, up to the first list that fails. -/
def entryDrafts : List Value → Except TripleMistake (List StepEntry)
  | [] => .ok []
  | v :: rest =>
    match entryDraft v with
    | .error m => .error m
    | .ok e => (entryDrafts rest).map (e :: ·)

/-- A step after lists have been made into updates. -/
def stepDraft (v : Value) : Except TripleMistake StepDraft :=
  match v with
  | .list items => (entryDrafts items).map .entries
  | v => .ok (.raw v)

/-- The steps, up to the first list inside one of them that fails. -/
def stepDrafts : List Value → Except TripleMistake (List StepDraft)
  | [] => .ok []
  | v :: rest =>
    match stepDraft v with
    | .error m => .error m
    | .ok d => (stepDrafts rest).map (d :: ·)

/-- The update that an entry stands for. -/
def StepEntry.decode : StepEntry → Decoded Update
  | update u => .ok u
  | raw v => Update.decode v

/-- The step that a draft stands for. -/
def StepDraft.decode : StepDraft → Decoded Step
  | entries es => .each StepEntry.decode es
  | raw v => list Update.decode v

/-- A log from raw data. -/
def Log.decode (v : Value) : Decoded Log :=
  match v with
  | .list items =>
    match stepDrafts items with
    | .error m => .error m.issues
    | .ok drafts => .each StepDraft.decode drafts
  | v => list (list Update.decode) v

/-- A trace from its fields. -/
def Trace.decode : Value → Decoded Trace :=
  record fun es =>
    .ap (.ap (.ap (.ap (.ap
      ((withDefault "schema_version" text "1.0" es).map Trace.mk)
      (withDefault "source" text "" es))
      (withDefault "labels" (sortedMap text integer) .empty es))
      (withDefault "commands" (list Command.decode) [] es))
      (withDefault "initial_values" (sortedMap integer integer) .empty es))
      (withDefault "updates" Log.decode [] es)

end Rewind
