import Rewind.Text.Basic

/-!
# Commands

A command is one assembled instruction placed at an address.  Moving a cursor needs only the address
and the encoded word; the other fields are carried for display.
-/

namespace Rewind

/-- An assembled instruction at an address. -/
structure Command where
  address : Int
  /-- The name of the instruction. -/
  mnemonic : Text := ""
  /-- The operand, if the instruction has one. -/
  argument : Option Int := none
  /-- The label written on the line. -/
  label : Option Text := none
  /-- The source line, counted from one. -/
  line : Option Int := none
  /-- The encoded word stored at the address. -/
  value : Int := 0
  deriving DecidableEq, Repr, Inhabited

/-- The short form for display: the mnemonic and, if there is one, the operand. -/
def Command.render (c : Command) : Text :=
  match c.argument with
  | none => c.mnemonic
  | some n => c.mnemonic ++ Text.ofString s!" {n}"

end Rewind
