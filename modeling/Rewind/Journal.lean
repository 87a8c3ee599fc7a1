/-!
# The journal

Calls leave entries in a journal: a level, the name of the part that speaks, and a message.
`Journaled ε α` is a result together with the entries made on the way.  `Channel` is the outlet for
the entries of one family of parts: it has a threshold and, once configured, a format for lines.
-/

namespace Rewind

/-- One message with its level and the name of the part that speaks. -/
structure JournalEntry where
  level : Int
  speaker : String
  message : String
  deriving DecidableEq, Repr

namespace JournalEntry

/-- A message for those who look for mistakes. -/
def debug (speaker message : String) : JournalEntry := ⟨10, speaker, message⟩

/-- A message for everyone. -/
def info (speaker message : String) : JournalEntry := ⟨20, speaker, message⟩

/-- The name of a level. -/
def levelName (level : Int) : String :=
  if level = 0 then "NOTSET"
  else if level = 10 then "DEBUG"
  else if level = 20 then "INFO"
  else if level = 30 then "WARNING"
  else if level = 40 then "ERROR"
  else if level = 50 then "CRITICAL"
  else s!"Level {level}"

end JournalEntry

/-- A result, and the journal entries made on the way to it. -/
structure Journaled (ε α : Type) where
  entries : List JournalEntry
  result : Except ε α

namespace Journaled

variable {ε ε' α β : Type}

/-- A result without entries. -/
def of (result : Except ε α) : Journaled ε α := ⟨[], result⟩

/-- An entry. -/
def note (entry : JournalEntry) : Journaled ε Unit := ⟨[entry], .ok ()⟩

/-- One call after another; a failure ends both. -/
def andThen (first : Journaled ε α) (next : α → Journaled ε β) : Journaled ε β :=
  match first.result with
  | .error e => ⟨first.entries, .error e⟩
  | .ok a => ⟨first.entries ++ (next a).entries, (next a).result⟩

instance : Monad (Journaled ε) where
  pure a := of (.ok a)
  bind := andThen

/-- The same with another sort of failure. -/
def mapError (f : ε → ε') (call : Journaled ε α) : Journaled ε' α :=
  ⟨call.entries, call.result.mapError f⟩

end Journaled

/-! ## Channels -/

/-- The family of parts whose entries a channel takes. -/
def Channel.family : String := "steptrace"

/-- The outlet for journal entries. -/
structure Channel where
  /-- The format of lines, once the channel has been configured. -/
  format : Option String := none
  /-- The lowest level that is let through; zero stands for that of warnings. -/
  level : Int := 0
  deriving DecidableEq, Repr

namespace Channel

/-- The level of warnings. -/
def warning : Int := 30

/-- The level of a channel that is configured without one. -/
def defaultLevel : Int := 20

/-- The format of a channel that is configured without one. -/
def defaultFormat : String := "%(asctime)s [%(levelname)s] %(name)s: %(message)s"

/-- Sets the threshold.  Only the first call sets the format. -/
def configure (c : Channel) (level : Int) (format : String) : Channel where
  format := some (c.format.getD format)
  level := level

/-- Whether a part belongs to the family. -/
def takesFrom (speaker : String) : Bool :=
  speaker = family || (family ++ ".").toList.isPrefixOf speaker.toList

/-- The threshold that applies. -/
def threshold (c : Channel) : Int := if c.level = 0 then warning else c.level

/-- The fields that a format may name, with what an entry puts there. -/
def fields (e : JournalEntry) : List (List Char × List Char) :=
  [("%(levelname)s".toList, (JournalEntry.levelName e.level).toList),
   ("%(name)s".toList, e.speaker.toList), ("%(message)s".toList, e.message.toList),
   ("%%".toList, ['%'])]

/-- A format with its fields filled in; `skip` characters belong to a field just filled. -/
def fill (e : JournalEntry) (skip : Nat) : List Char → List Char
  | [] => []
  | c :: rest =>
    match skip with
    | skip + 1 => fill e skip rest
    | 0 =>
      match (fields e).find? fun f => f.1.isPrefixOf (c :: rest) with
      | some (name, value) => value ++ fill e (name.length - 1) rest
      | none => c :: fill e 0 rest

/-- What an entry makes the channel write. -/
def write (c : Channel) (e : JournalEntry) : String :=
  let threshold := if takesFrom e.speaker then c.threshold else warning
  if e.level ≤ 0 || e.level < threshold then ""
  else
    match if takesFrom e.speaker then c.format else none with
    | some format => String.ofList (fill e 0 format.toList ++ ['\n'])
    | none => if e.level < warning then "" else e.message ++ "\n"

end Channel

end Rewind
