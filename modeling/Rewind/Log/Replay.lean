import Rewind.Memory
import Rewind.Update

/-!
# Replaying a log

The writes of a step in both directions, and the cells after a stretch of the log.  `Cells.replay`
is what the position of a cursor is compared with: the start cells with all steps before it applied.
-/

namespace Rewind

namespace Step

/-- The writes that replay a step. -/
def redos (step : Step) : List (Int × Int) := step.map Update.redo

/-- The writes that take a step back, in the recorded order. -/
def undos (step : Step) : List (Int × Int) := step.map Update.undo

end Step

namespace Cells

/-- The cells after one step. -/
def replayStep (cells : Cells) (step : Step) : Cells := cells.insertAll step.redos

/-- The cells after all steps of a log. -/
def replay (cells : Cells) (log : Log) : Cells := log.foldl replayStep cells

@[simp] theorem replay_nil (cells : Cells) : cells.replay [] = cells := rfl

@[simp] theorem replay_cons (cells : Cells) (step : Step) (log : Log) :
    cells.replay (step :: log) = (cells.replayStep step).replay log := rfl

theorem replay_append (cells : Cells) (log more : Log) :
    cells.replay (log ++ more) = (cells.replay log).replay more := by
  simp [replay, List.foldl_append]

end Cells

end Rewind
