import Rewind.Timeline.Reaction

/-!
# Sessions

A session is a timeline in use: with what its listeners keep, and with the journal.
`Session.moveTo` moves the cursor step by step.  Each step is applied as a whole and the cursor put
behind it before its writes are reported, and a move ends with one message about the position
reached.

Delivery walks the registry as it is at that moment, by index, so listeners that come and go during
a delivery shift the others.  A move inside of a move is refused: `navigate` answers the moves that
listeners ask for by the function it is given, and `moveTo` gives it `navigate` again, which never
gets beyond the test of `Timeline.moving`.
-/

namespace Rewind

/-- A timeline in use. -/
structure Session (ι σ : Type) where
  timeline : Timeline ι
  /-- What the listeners keep between calls. -/
  kept : σ
  journal : List JournalEntry

/-- What every listener does with a message. -/
abbrev Listeners (ι σ : Type) : Type := ι → Notification → Reaction ι σ

/-- What a call on a session returns. -/
abbrev Outcome (ι σ α : Type) : Type := Except Fault α × Session ι σ

/-- How a move to a position is carried out. -/
abbrev Mover (ι σ : Type) : Type := Session ι σ → Int → Outcome ι σ Nat

namespace Session

variable {ι σ : Type}

/-- Changes the timeline. -/
def update (s : Session ι σ) (f : Timeline ι → Timeline ι) : Session ι σ :=
  { s with timeline := f s.timeline }

/-- Adds a journal entry. -/
def note (s : Session ι σ) (e : JournalEntry) : Session ι σ :=
  { s with journal := s.journal ++ [e] }

/-- Says whether a move is in progress. -/
def setMoving (s : Session ι σ) (moving : Bool) : Session ι σ :=
  s.update fun t => { t with moving := moving }

/-- Adds a listener behind the others. -/
def addListener (s : Session ι σ) (listener : ι) : Session ι σ := s.update (·.addListener listener)

/-- Writes to the memory from outside of any step. -/
def poke (s : Session ι σ) (address value : Int) : Session ι σ := s.update (·.poke address value)

variable [DecidableEq ι]

/-- Removes the earliest registration of a listener. -/
def removeListener (s : Session ι σ) (listener : ι) : Outcome ι σ Unit :=
  match s.timeline.removeListener listener with
  | .ok t => (.ok (), { s with timeline := t })
  | .error e => (.error e, s)

/-! ## Delivery -/

/-- Carries out a reaction; `inner` answers the moves it asks for. -/
def react (inner : Mover ι σ) : Reaction ι σ → Session ι σ → Outcome ι σ Unit
  | .done, s => (.ok (), s)
  | .fail e, s => (.error e, s)
  | .look next, s => react inner (next s.kept s.timeline) s
  | .keep kept next, s => react inner next { s with kept := kept }
  | .moveTo position next, s =>
    let answer := inner s position
    react inner (next answer.1) answer.2
  | .addListener listener next, s => react inner next (s.addListener listener)
  | .removeListener listener next, s =>
    let answer := s.removeListener listener
    react inner (next answer.1) answer.2
  | .poke address value next, s => react inner next (s.poke address value)

variable (listeners : Listeners ι σ) (inner : Mover ι σ)

/-- Tells the listeners from index `i` on; `fuel` bounds how many are told. -/
def deliverFrom (n : Notification) : Nat → Nat → Session ι σ → Outcome ι σ Unit
  | 0, _, s => (.error .endlessDelivery, s)
  | fuel + 1, i, s =>
    match s.timeline.registry[i]? with
    | none => (.ok (), s)
    | some listener =>
      match react inner (listeners listener n) s with
      | (.ok (), s) => deliverFrom n fuel (i + 1) s
      | (.error e, s) => (.error e, s)

/-- How many listeners may be added during one delivery. -/
def additionLimit : Nat := 1000000

/-- Tells all listeners. -/
def deliver (s : Session ι σ) (n : Notification) : Outcome ι σ Unit :=
  deliverFrom listeners inner n (additionLimit + s.timeline.registry.length + 1) 0 s

/-- Tells all listeners about one message after another. -/
def deliverAll (s : Session ι σ) : List Notification → Outcome ι σ Unit
  | [] => (.ok (), s)
  | n :: rest =>
    match deliver listeners inner s n with
    | (.ok (), s) => deliverAll s rest
    | (.error e, s) => (.error e, s)

/-- Reports the writes of a step, unless nobody listens when the report begins. -/
def report (s : Session ι σ) (writes : List (Int × Int)) : Outcome ι σ Unit :=
  if s.timeline.registry.isEmpty then (.ok (), s)
  else deliverAll listeners inner s (writes.map .ofWrite)

/-! ## Moves -/

/-- The writes of the step behind the cursor. -/
def redosAhead (t : Timeline ι) : List (Int × Int) :=
  match t.log[t.cursor]? with
  | some step => step.redos
  | none => []

/-- The writes that take back the step in front of the cursor. -/
def undosBehind (t : Timeline ι) : List (Int × Int) :=
  match t.cursor with
  | 0 => []
  | p + 1 =>
    match t.log[p]? with
    | some step => step.undos
    | none => []

/-- Moves over the step behind the cursor and reports it. -/
def stepForward (s : Session ι σ) : Outcome ι σ Unit :=
  report listeners inner (s.update Timeline.advance) (redosAhead s.timeline)

/-- Moves back over the step in front of the cursor and reports it. -/
def stepBackward (s : Session ι σ) : Outcome ι σ Unit :=
  report listeners inner (s.update Timeline.retreat) (undosBehind s.timeline)

/-- Moves over a number of steps. -/
def forward : Nat → Session ι σ → Outcome ι σ Unit
  | 0, s => (.ok (), s)
  | n + 1, s =>
    match stepForward listeners inner s with
    | (.ok (), s) => forward n s
    | (.error e, s) => (.error e, s)

/-- Moves back over a number of steps. -/
def backward : Nat → Session ι σ → Outcome ι σ Unit
  | 0, s => (.ok (), s)
  | n + 1, s =>
    match stepBackward listeners inner s with
    | (.ok (), s) => backward n s
    | (.error e, s) => (.error e, s)

/-- Moves to a position of the log and tells the position reached. -/
def travel (target : Nat) (s : Session ι σ) : Outcome ι σ Unit :=
  match forward listeners inner (target - s.timeline.cursor) s with
  | (.error e, s) => (.error e, s)
  | (.ok (), s) =>
    match backward listeners inner (s.timeline.cursor - target) s with
    | (.error e, s) => (.error e, s)
    | (.ok (), s) => deliver listeners inner s (.cursorMoved s.timeline.cursor)

/-- Moves to the position nearest to a number, unless a move is in progress. -/
def navigate : Mover ι σ := fun s position =>
  if s.timeline.moving then (.error .moveInProgress, s)
  else
    let origin := s.timeline.cursor
    let target := s.timeline.clamp position
    match travel listeners inner target (s.setMoving true) with
    | (.error e, s) => (.error e, s.setMoving false)
    | (.ok (), s) =>
      let s := s.setMoving false
      let s := if origin ≠ target then s.note (Timeline.movedEntry origin target) else s
      (.ok s.timeline.cursor, s)

end Session

namespace Session

variable {ι σ : Type} [DecidableEq ι] (listeners : Listeners ι σ)

/-- The answer to a move that is asked for inside of a move inside of a move. -/
def refuse : Mover ι σ := fun s _ => (.error .moveInProgress, s)

/-- Moves to the position nearest to a number and returns it. -/
def moveTo : Mover ι σ := navigate listeners (navigate listeners refuse)

/-- Moves by a number of steps and returns the position reached. -/
def moveBy (s : Session ι σ) (offset : Int) : Outcome ι σ Nat :=
  moveTo listeners s (s.timeline.cursor + offset)

/-- The session of a timeline that has just been built. -/
def start {ε : Type} (call : Journaled ε (Timeline ι)) (kept : σ) : Except ε (Session ι σ) :=
  call.result.map fun t => ⟨t, kept, call.entries⟩

end Session

end Rewind
