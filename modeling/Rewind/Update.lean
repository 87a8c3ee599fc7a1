/-!
# Updates

An update is one reversible cell write: the value that replaces and the value that was there.
`Update.reverted` swaps the two; it is an involution (`reverted_reverted`).
-/

namespace Rewind

/-- One write to the cell at `address`, with the value before and the value after. -/
structure Update where
  address : Int
  oldValue : Int
  newValue : Int
  deriving DecidableEq, Repr, Inhabited

namespace Update

/-- The inverse write. -/
def reverted (u : Update) : Update := ⟨u.address, u.newValue, u.oldValue⟩

/-- The write that replays the update. -/
def redo (u : Update) : Int × Int := (u.address, u.newValue)

/-- The write that takes the update back. -/
def undo (u : Update) : Int × Int := (u.address, u.oldValue)

@[simp] theorem reverted_reverted (u : Update) : u.reverted.reverted = u := rfl

@[simp] theorem address_reverted (u : Update) : u.reverted.address = u.address := rfl

@[simp] theorem redo_reverted (u : Update) : u.reverted.redo = u.undo := rfl

@[simp] theorem undo_reverted (u : Update) : u.reverted.undo = u.redo := rfl

end Update

/-- The writes of one executed instruction, in the order they were recorded. -/
abbrev Step := List Update

/-- A finished recording: one step per executed instruction. -/
abbrev Log := List Step

namespace Log

/-- The log of the recording played from its end to its start. -/
def reversed (log : Log) : Log := (log.map fun step => step.map Update.reverted).reverse

@[simp] theorem length_reversed (log : Log) : log.reversed.length = log.length := by
  simp [reversed]

@[simp] theorem reversed_reversed (log : Log) : log.reversed.reversed = log := by
  simp [reversed, List.map_reverse, Function.comp_def]

end Log

end Rewind
