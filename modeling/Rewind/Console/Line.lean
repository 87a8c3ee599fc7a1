import Rewind.Console.Markup
import Rewind.Console.Wrap

/-!
# Printed lines

What the console shows for a text with markup.  A line ends where the console does, so a long text
takes several.
-/

namespace Rewind.Console

/-- The columns of the console. -/
def consoleWidth : Nat := 1000

/-- The room for a printed text. -/
def lineRoom : Room := ⟨consoleWidth, true, none⟩

/-- The lines of a text in a room, in stretches of one style. -/
def Styled.layOut (room : Room) (t : Styled) :
    Except MarkupMistake (List (List (List CodePoint))) :=
  let lines := t.wrap room
  if lines.any Styled.isFaulty then .error .badColor else .ok (lines.map Styled.segments)

/-- What the console shows for a text with markup, with the end of the line. -/
def line (text : Text) : Except MarkupMistake Text := do
  let lines ← (← Markup.read text).layOut lineRoom
  return ⟨lines.flatMap fun l => (limitLine consoleWidth l).flatten ++ [.char '\n']⟩

end Rewind.Console
