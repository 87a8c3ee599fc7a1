import Rewind.Timeline.Session

/-!
# Scripted listeners

A small stock of listeners to exercise a timeline with: they record what they hear, look at the
timeline, fail, ask for moves, or change the registry.  `Troupe` is what they keep together: a
script for every name, how often each was called, and everything heard.  `Troupe.listeners` is their
behaviour.
-/

namespace Rewind

/-- What a scripted listener does with a message after it has recorded it. -/
inductive Script where
  /-- Nothing more. -/
  | record
  /-- Reads addresses and the current command. -/
  | peek (addresses : List Int)
  /-- Fails on one call. -/
  | failAt (call : Int)
  /-- Fails whenever a move ends. -/
  | failAtEnd
  /-- Asks for a move to a position; a refusal is kept to itself if `caught`. -/
  | jumpTo (position : Int) (caught : Bool)
  /-- Asks for a move by a number of steps; a refusal is kept to itself if `caught`. -/
  | jumpBy (offset : Int) (caught : Bool)
  /-- Adds a listener on one call. -/
  | add (target : String) (call : Int)
  /-- Removes a listener on one call. -/
  | remove (target : String) (call : Int)
  /-- Writes every new value that it hears of to one address. -/
  | poke (address : Int)
  deriving Repr

/-- What a listener has heard, and what it saw at that moment. -/
structure Heard where
  listener : String
  message : Notification
  /-- The position of the cursor. -/
  position : Option Nat := none
  /-- The values of the addresses it reads, and the current command. -/
  seen : Option (List Int × Option Command) := none
  /-- The fault of a move that was refused. -/
  caught : Option Fault := none

/-- What scripted listeners keep together. -/
structure Troupe where
  scripts : List (String × Script) := []
  /-- The listener of every call so far. -/
  calls : List String := []
  heard : List Heard := []

namespace Troupe

/-- What listeners of a troupe do. -/
abbrev Act : Type := Reaction String Troupe

/-- Gives a name its script; a name keeps the script that it has. -/
def define (t : Troupe) (name : String) (script : Script) : Troupe :=
  if t.scripts.any fun s => s.1 = name then t else { t with scripts := t.scripts ++ [(name, script)] }

/-- The script of a name. -/
def scriptOf (t : Troupe) (name : String) : Script :=
  ((t.scripts.find? fun s => s.1 = name).map Prod.snd).getD .record

/-- Records that a listener is called with a message. -/
def hear (t : Troupe) (name : String) (n : Notification) : Troupe :=
  { t with calls := name :: t.calls, heard := t.heard ++ [{ listener := name, message := n }] }

/-- How often a listener has been called. -/
def callsOf (t : Troupe) (name : String) : Int := t.calls.count name

/-- Adds to what has been heard last. -/
def amend (t : Troupe) (f : Heard → Heard) : Troupe :=
  match t.heard.getLast? with
  | some h => { t with heard := t.heard.dropLast ++ [f h] }
  | none => t

/-- Forgets what has been heard. -/
def forget (t : Troupe) : Troupe := { t with heard := [] }

/-- Reads several addresses in order. -/
def readAll (t : Timeline String) : List Int → Except Fault (List Int)
  | [] => .ok []
  | a :: rest =>
    match t.get a with
    | .error e => .error e
    | .ok v => (readAll t rest).map (v :: ·)

/-- The values of some addresses and the current command. -/
def sight (t : Timeline String) (addresses : List Int) :
    Except Fault (List Int × Option Command) := do
  let values ← readAll t addresses
  let command ← t.currentCommand
  return (values, command)

/-- What is done about the answer to a move: a fault is passed on, or noted if it is caught. -/
def answered (caught : Bool) (answer : Except Fault Nat) : Act :=
  match answer with
  | .ok _ => .done
  | .error e =>
    if caught then .look fun kept _ => .keep (kept.amend ({ · with caught := some e })) .done
    else .fail e

/-- What a script does with a message on a call with a given number. -/
def play (name : String) (n : Notification) (call : Int) : Script → Act
  | .record => .done
  | .peek addresses =>
    .look fun kept t =>
      .keep (kept.amend ({ · with position := some t.cursor })) <|
        match sight t addresses with
        | .error e => .fail e
        | .ok seen => .look fun kept _ => .keep (kept.amend ({ · with seen := some seen })) .done
  | .failAt at_ => if call = at_ then .fail (.listenerFailed s!"listener {name} failed") else .done
  | .failAtEnd =>
    match n with
    | .cursorMoved _ => .fail (.listenerFailed s!"listener {name} failed")
    | .cellChanged .. => .done
  | .jumpTo position caught => .moveTo position (answered caught)
  | .jumpBy offset caught => .moveBy offset (answered caught)
  | .add target at_ => if call = at_ then .addListener target .done else .done
  | .remove target at_ => if call = at_ then .removeListener target .finish else .done
  | .poke address =>
    match n with
    | .cellChanged _ value => .poke address value .done
    | .cursorMoved _ => .done

/-- The behaviour of a troupe: every listener records the message and then plays its script. -/
def listeners : Listeners String Troupe := fun name n =>
  .look fun kept _ =>
    let kept := kept.hear name n
    .keep kept (play name n (kept.callsOf name) (kept.scriptOf name))

end Troupe

end Rewind
