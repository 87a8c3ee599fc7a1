import Rewind.Log.Check
import Rewind.Proofs.Sweep

/-!
# The last write to an address

What an address holds, read off the records alone.  `Memory.programValue?` is what it holds in the
memory of a program: the start value, else the word that the last command has there, else zero in a
register.  `Log.startValue?` is what it holds before the first step, where the start address covers
what else would be in its register; `Log.HasStartValue` says where that is anything.
`Log.lastWritten?` is what the last update of the address wrote.  The start memory holds the start
values (`Log.get?_startMemory`, `Log.contains_startMemory`), and a replay leaves what was written
last, or what was there before (`Cells.get?_replay_last`).
-/

namespace Rewind

theorem lookup_map_reverse {α β γ : Type} [DecidableEq β] (f : α → β × γ) (as : List α) (k : β) :
    (as.map f).reverse.lookup k
      = (as.reverse.find? fun a => (f a).1 = k).map fun a => (f a).2 := by
  rw [← List.map_reverse]
  induction as.reverse with
  | nil => rfl
  | cons a as ih =>
    have hcons : (f a :: as.map f).lookup k =
        if k = (f a).1 then some (f a).2 else (as.map f).lookup k := by
      obtain ⟨k', v⟩ := f a
      rw [List.lookup_cons]
      by_cases h : k = k'
      · simp [h]
      · rw [beq_false_of_ne h, if_neg h]
    rw [List.map_cons, hcons, List.find?_cons, ih]
    by_cases h : (f a).1 = k
    · simp [h]
    · simp [h, Ne.symm h]

/-- What an address holds in the memory of a program: the start value, else the word that the last
command has there, else zero in a register. -/
def Memory.programValue? (commands : List Command) (initialValues : Cells) (a : Int) : Option Int :=
  (initialValues.get? a).or
    (((commands.reverse.find? fun c => c.address = a).map Command.value).or
      (if a = iar ∨ a = accu then some 0 else none))

/-- The memory of a program holds its values. -/
theorem Memory.get?_ofProgram {commands : List Command} {initialValues : Cells}
    {policy : MissingCellPolicy} (a : Int) :
    (ofProgram commands initialValues policy).cells.get? a =
      programValue? commands initialValues a := by
  -- the given values are written over those of the commands, and the registers only where both lack
  have hprogram : ((SortedMap.ofList (commands.map fun c => (c.address, c.value))).insertAll
      initialValues.entries).get? a = (initialValues.get? a).or
        ((commands.reverse.find? fun c => c.address = a).map Command.value) := by
    have hinitial : initialValues.entries.reverse.lookup a = initialValues.get? a := by
      rw [← SortedMap.get?_ofList, SortedMap.ofList_entries]
    rw [SortedMap.get?_insertAll, hinitial, SortedMap.get?_ofList, lookup_map_reverse]
  have hregisters : (if a = iar then some (0 : Int) else none).or (if a = accu then some 0 else none)
      = if a = iar ∨ a = accu then some 0 else none := by
    by_cases hiar : a = iar
    · rw [if_pos hiar, if_pos (Or.inl hiar), Option.some_or]
    · rw [if_neg hiar, Option.none_or]
      simp only [hiar, false_or]
  rw [programValue?, ← Option.or_assoc, ← hprogram, ofProgram, SortedMap.get?_insertNew,
    SortedMap.get?_insertNew, Option.or_assoc, hregisters]

namespace Log

/-- The new value of the last update of an address. -/
def lastWritten? (log : Log) (a : Int) : Option Int :=
  (log.flatten.reverse.find? fun u => u.address = a).map Update.newValue

/-- What an address holds before the first step. -/
def startValue? (commands : List Command) (initialValues : Cells) (start a : Int) : Option Int :=
  if a = iar then some start
  else
    (initialValues.get? a).or
      (((commands.reverse.find? fun c => c.address = a).map Command.value).or
        (if a = accu then some 0 else none))

/-- A command or a start value is at the address, or it is that of a register which always holds a
value. -/
def HasStartValue (commands : List Command) (initialValues : Cells) (a : Int) : Prop :=
  (∃ c ∈ commands, c.address = a) ∨ initialValues.contains a = true ∨ a = iar ∨ a = accu

variable {commands : List Command} {initialValues : Cells} {start : Int}
  {policy : MissingCellPolicy}

theorem isSome_startValue?_iff {a : Int} :
    (startValue? commands initialValues start a).isSome = true ↔
      HasStartValue commands initialValues a := by
  have hcommand : ((commands.reverse.find? fun c => c.address = a).map Command.value).isSome = true ↔
      ∃ c ∈ commands, c.address = a := by
    simp
  unfold startValue? HasStartValue
  by_cases hiar : a = iar
  · simp [hiar]
  · rw [if_neg hiar, Option.isSome_or, Option.isSome_or, Bool.or_eq_true, Bool.or_eq_true, hcommand]
    by_cases haccu : a = accu
    · simp [haccu]
    · simp [hiar, haccu, SortedMap.contains, or_comm]

/-- The start memory holds the start values. -/
theorem get?_startMemory (a : Int) :
    (startMemory commands initialValues start policy).cells.get? a =
      startValue? commands initialValues start a := by
  rw [startMemory, Memory.cells_set, startValue?]
  by_cases hiar : a = iar
  · rw [if_pos hiar, hiar, SortedMap.get?_insert_self]
  · have hregister : (a = iar ∨ a = accu) ↔ a = accu := or_iff_right hiar
    rw [if_neg hiar, SortedMap.get?_insert_of_ne _ _ hiar, Memory.get?_ofProgram,
      Memory.programValue?]
    simp only [hregister]

theorem contains_startMemory {a : Int} :
    (startMemory commands initialValues start policy).cells.contains a = true ↔
      HasStartValue commands initialValues a := by
  rw [SortedMap.contains, get?_startMemory, isSome_startValue?_iff]

end Log

/-- A replay leaves what the last update wrote, or what was there before. -/
theorem Cells.get?_replay_last (cells : Cells) (log : Log) (a : Int) :
    (cells.replay log).get? a = (log.lastWritten? a).or (cells.get? a) := by
  have hwrites : log.flatMap Step.redos = log.flatten.map Update.redo := by
    induction log with
    | nil => rfl
    | cons step log ih =>
      rw [List.flatMap_cons, ih, List.flatten_cons, List.map_append]
      rfl
  rw [replay_eq_insertAll, SortedMap.get?_insertAll, hwrites, lookup_map_reverse]
  rfl

end Rewind
