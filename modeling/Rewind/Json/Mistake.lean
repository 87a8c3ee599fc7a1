/-!
# Mistakes in JSON text

Where JSON text stops being JSON, and why.  A mistake is placed by a character offset;
`Mistake.message` words it with the line and column of that offset, where only a line feed ends a
line.
-/

namespace Rewind.Json

/-- Why text is not JSON. -/
inductive Reason where
  | expectedValue
  | expectedName
  | expectedColon
  | expectedComma
  | unterminatedText
  | controlCharacter
  | badEscape
  | badUnicodeEscape
  | extraData
  | byteOrderMark
  deriving DecidableEq, Repr

/-- The wording of a reason. -/
def Reason.message : Reason → String
  | expectedValue => "Expecting value"
  | expectedName => "Expecting property name enclosed in double quotes"
  | expectedColon => "Expecting ':' delimiter"
  | expectedComma => "Expecting ',' delimiter"
  | unterminatedText => "Unterminated string starting at"
  | controlCharacter => "Invalid control character at"
  | badEscape => "Invalid \\escape"
  | badUnicodeEscape => "Invalid \\uXXXX escape"
  | extraData => "Extra data"
  | byteOrderMark => "Unexpected UTF-8 BOM (decode using utf-8-sig)"

/-- A reason and the place it applies to. -/
structure Mistake where
  reason : Reason
  /-- The number of characters in front of the place. -/
  offset : Nat
  /-- The line of the place, counted from one. -/
  line : Nat
  /-- The column of the place, counted from one. -/
  column : Nat
  deriving DecidableEq, Repr

namespace Mistake

/-- The mistake with the given number of characters of the text still unread. -/
def ofUnread (reason : Reason) (text : List Char) (unread : Nat) : Mistake :=
  let before := text.take (text.length - unread)
  { reason
    offset := before.length
    line := before.count '\n' + 1
    column := (before.reverse.takeWhile (· ≠ '\n')).length + 1 }

/-- The wording of a mistake. -/
def message (m : Mistake) : String :=
  s!"{m.reason.message}: line {m.line} column {m.column} (char {m.offset})"

end Mistake

/-- Why a JSON text has no value here. -/
inductive Failure where
  | mistake (m : Mistake)
  /-- An integer with more digits than are read. -/
  | oversizedInteger
  /-- Lists and objects inside of each other, more than are read. -/
  | tooDeep
  deriving DecidableEq, Repr

end Rewind.Json
