/-!
# Notifications

What a listener is told during a move: a cell got a new value, or the move has ended.
-/

namespace Rewind

/-- A message to a listener. -/
inductive Notification where
  /-- The cell at `address` now holds `value`. -/
  | cellChanged (address value : Int)
  /-- The move ended with the cursor at `position`; no cell was touched. -/
  | cursorMoved (position : Int)
  deriving DecidableEq, Repr, Inhabited

namespace Notification

/-- The tag that tells the two messages apart in written form. -/
def kind : Notification → String
  | cellChanged .. => "cell_changed"
  | cursorMoved .. => "cursor_moved"

/-- The message that a write has happened. -/
def ofWrite (w : Int × Int) : Notification := cellChanged w.1 w.2

end Notification

end Rewind
