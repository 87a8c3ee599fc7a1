import Rewind.CommandLine.Inspection
import Rewind.Decoding.Trace
import Rewind.Proofs.Numeral
import Rewind.Proofs.Opening
import Rewind.Proofs.Violation

/-!
# Values from the records

`Trace.value?` is the value at an address after some steps, from the records alone: what the last
write to it in those steps wrote, or what it starts with.  That is what replaying the steps leaves
(`Trace.get?_replay`), and it is one of the integers of the trace or zero (`Trace.value?_mem`).  So a
log is refused with a violation that can be worded if all integers of the trace can be written
(`Timeline.build_violation_of_writable`).
-/

namespace Rewind

/-! ## The integers and the texts of a trace -/

/-- The texts of a command. -/
def Command.texts (c : Command) : List Text := c.mnemonic :: c.label.toList

namespace Trace

/-- The integers of a trace. -/
def integers (t : Trace) : List Int :=
  t.labels.entries.map Prod.snd ++ t.commands.flatMap Command.integers
    ++ t.initialValues.entries.flatMap (fun e => [e.1, e.2]) ++ t.log.flatten.flatMap Update.triple

/-- The texts of a trace. -/
def texts (t : Trace) : List Text :=
  t.schemaVersion :: t.source :: t.labels.keys ++ t.commands.flatMap Command.texts

section Integers

variable {t : Trace}

theorem mem_integers_of_label {e : Text × Int} (h : e ∈ t.labels.entries) : e.2 ∈ t.integers := by
  simp only [integers, List.mem_append]
  exact .inl (.inl (.inl (List.mem_map_of_mem h)))

theorem mem_integers_of_command {c : Command} (h : c ∈ t.commands) {n : Int}
    (hn : n ∈ c.integers) : n ∈ t.integers := by
  simp only [integers, List.mem_append]
  exact .inl (.inl (.inr (List.mem_flatMap.mpr ⟨c, h, hn⟩)))

theorem mem_integers_of_cell {e : Int × Int} (h : e ∈ t.initialValues.entries) :
    e.1 ∈ t.integers ∧ e.2 ∈ t.integers := by
  simp only [integers, List.mem_append]
  exact ⟨.inl (.inr (List.mem_flatMap.mpr ⟨e, h, by simp⟩)),
    .inl (.inr (List.mem_flatMap.mpr ⟨e, h, by simp⟩))⟩

theorem mem_integers_of_update {step : Step} (hstep : step ∈ t.log) {u : Update} (hu : u ∈ step)
    {n : Int} (hn : n ∈ u.triple) : n ∈ t.integers := by
  simp only [integers, List.mem_append]
  exact .inr (List.mem_flatMap.mpr ⟨u, List.mem_flatten.mpr ⟨step, hstep, hu⟩, hn⟩)

end Integers

end Trace

/-! ## The value at an address -/

namespace Trace

variable (trace : Trace) (options : Options)

/-- What an address holds before the first step: in the instruction-address register the start
address, else the start value, else the word that the last command there has, else zero in the
accumulator. -/
def startValue? (a : Int) : Option Int :=
  if a = iar then some (startAddress trace.labels options.startLabel)
  else
    (trace.initialValues.get? a).or
      (((trace.commands.reverse.find? fun c => c.address = a).map Command.value).or
        (if a = accu then some 0 else none))

/-- What an address holds after the first `p` steps: the new value of the last update of it in them,
else what it holds before them. -/
def value? (p : Nat) (a : Int) : Option Int :=
  (((trace.log.take p).flatten.reverse.find? fun u => u.address = a).map Update.newValue).or
    (trace.startValue? options a)

variable {trace options}

theorem get?_startMemory (a : Int) :
    (trace.startMemory options).cells.get? a = trace.startValue? options a :=
  Log.get?_startMemory a

/-- Replaying the first steps leaves the value at every address. -/
theorem get?_replay (p : Nat) (a : Int) :
    ((trace.startMemory options).replay (trace.log.take p)).cells.get? a
      = trace.value? options p a := by
  rw [Memory.replay, Cells.get?_replay_last, get?_startMemory]
  rfl

theorem isSome_value?_iar (p : Nat) : (trace.value? options p iar).isSome = true := by
  rw [value?, startValue?, if_pos rfl, Option.isSome_or, Option.isSome_some, Bool.or_true]

/-- The timeline of a trace with the cursor behind the first `p` steps. -/
def timelineAt (trace : Trace) (options : Options) (p : Nat) : Timeline Unit :=
  (Timeline.ofTrace trace options).sweepTo p

theorem memory_timelineAt (p : Nat) :
    (trace.timelineAt options p).memory
      = (trace.startMemory options).replay (trace.log.take p) := by
  show { trace.startMemory options with
    cells := (trace.startMemory options).cells.sweep trace.log 0 p } = _
  rw [Cells.sweep_of_le _ _ (Nat.zero_le p), Log.between_zero]
  rfl

/-- A read is answered with the value, or with zero where there is none under that policy. -/
theorem get_timelineAt {p : Nat} {a : Int}
    (h : options.missingCellPolicy = .zero ∨ (trace.value? options p a).isSome = true) :
    (trace.timelineAt options p).get a = .ok ((trace.value? options p a).getD 0) := by
  rw [Timeline.get, memory_timelineAt]
  rcases h with hzero | hvalue
  · rw [Memory.get_of_zero hzero, get?_replay]
  · obtain ⟨v, hv⟩ := Option.isSome_iff_exists.mp hvalue
    rw [Memory.get, get?_replay, hv]
    rfl

theorem get_timelineAt_missing {p : Nat} {a : Int} (hpolicy : options.missingCellPolicy = .raise)
    (h : trace.value? options p a = none) :
    (trace.timelineAt options p).get a = .error (.missingCell a) := by
  have hraise : ((trace.startMemory options).replay (trace.log.take p)).policy = .raise := hpolicy
  rw [Timeline.get, memory_timelineAt, Memory.get, get?_replay, h, hraise]

/-! ## What is written -/

theorem isWritable_small {n : Int} (h : n.natAbs < 10) : Integer.isWritable n = true := by
  refine (Integer.isWritable_iff rfl).mpr ?_
  rw [Nat.toDigits_of_lt_base h]
  exact (by decide : 1 ≤ Integer.maxDigits)

theorem startValue?_mem {a v : Int} (h : trace.startValue? options a = some v) :
    (a ∈ trace.integers ∨ a = iar ∨ a = accu) ∧ (v ∈ trace.integers ∨ v = 0) := by
  unfold startValue? at h
  -- the layers of the start value in turn: start address, given value, last command, register
  split at h
  · rename_i hiar
    refine ⟨.inr (.inl hiar), ?_⟩
    rw [Option.some.injEq, startAddress] at h
    cases hlabel : trace.labels.get? options.startLabel with
    | none => rw [hlabel] at h; exact .inr h.symm
    | some x =>
      rw [hlabel] at h
      obtain rfl : x = v := h
      exact .inl (mem_integers_of_label (SortedMap.mem_entries_iff.mpr hlabel))
  · rcases Option.or_eq_some_iff.mp h with hcell | ⟨-, h⟩
    · have hmem := mem_integers_of_cell (SortedMap.mem_entries_iff.mpr hcell)
      exact ⟨.inl hmem.1, .inl hmem.2⟩
    · rcases Option.or_eq_some_iff.mp h with hcommand | ⟨-, h⟩
      · obtain ⟨c, hc, rfl⟩ := Option.map_eq_some_iff.mp hcommand
        have hmem : c ∈ trace.commands := List.mem_reverse.mp (List.mem_of_find?_eq_some hc)
        obtain rfl : c.address = a := by simpa using List.find?_some hc
        exact ⟨.inl (mem_integers_of_command hmem (by simp [Command.integers])),
          .inl (mem_integers_of_command hmem (by simp [Command.integers]))⟩
      · split at h
        · rename_i haccu
          exact ⟨.inr (.inr haccu), .inr (Option.some.inj h).symm⟩
        · cases h

/-- What an address holds, and the address, are in the records or among what every trace has. -/
theorem value?_mem {p : Nat} {a v : Int} (h : trace.value? options p a = some v) :
    (a ∈ trace.integers ∨ a = iar ∨ a = accu) ∧ (v ∈ trace.integers ∨ v = 0) := by
  rcases Option.or_eq_some_iff.mp h with hupdate | ⟨-, hstart⟩
  · obtain ⟨u, hu, rfl⟩ := Option.map_eq_some_iff.mp hupdate
    obtain rfl : u.address = a := by simpa using List.find?_some hu
    obtain ⟨step, hstep, hmem⟩ :=
      List.mem_flatten.mp (List.mem_reverse.mp (List.mem_of_find?_eq_some hu))
    have hstep := List.mem_of_mem_take hstep
    exact ⟨.inl (mem_integers_of_update hstep hmem (by simp [Update.triple])),
      .inl (mem_integers_of_update hstep hmem (by simp [Update.triple]))⟩
  · exact startValue?_mem hstart

theorem isWritable_value? (h : ∀ n ∈ trace.integers, Integer.isWritable n = true) (p : Nat)
    (a : Int) : Integer.isWritable ((trace.value? options p a).getD 0) = true := by
  cases hv : trace.value? options p a with
  | none => exact isWritable_small (by decide)
  | some v =>
    rcases (value?_mem hv).2 with hmem | rfl
    · exact h v hmem
    · exact isWritable_small (by decide)

/-- A refused update can be named if the integers of the trace can be written. -/
theorem violation_of_writable (h : ∀ n ∈ trace.integers, Integer.isWritable n = true)
    {before : Log} {done : Step} {u : Update} {reason : ViolationReason}
    (hu : trace.log.Stands before done u)
    (hreason : Log.Blamed trace.commands trace.initialValues
      (startAddress trace.labels options.startLabel) options.missingCellPolicy before done u
      reason) :
    Log.violation before.length u reason = .inconsistentLog ⟨before.length, u.address, reason⟩ := by
  obtain ⟨rest, after, hlog⟩ := hu
  have hstep : done ++ u :: rest ∈ trace.log := by simp [hlog]
  have hrecord : ∀ n ∈ u.triple, Integer.isWritable n = true := fun n hn =>
    h n (mem_integers_of_update hstep (by simp) hn)
  have htake : before = trace.log.take before.length := by simp [hlog]
  -- what the cell holds is the value behind the steps before
  have hheld : Log.held trace.commands trace.initialValues
      (startAddress trace.labels options.startLabel) before u.address
        = (trace.value? options before.length u.address).getD 0 := by
    rw [value?, ← htake]
    rfl
  have haddress : Integer.isWritable u.address = true := hrecord _ (by simp [Update.triple])
  refine Log.violation_of_writable (List.forall_mem_cons.mpr ⟨haddress, ?_⟩)
  -- the reason decides which integers the wording names beside the address
  by_cases hfresh : u.address ∈ done.addresses
  · rw [(hreason.twice hfresh).1]
    exact List.forall_mem_nil _
  by_cases hpresent : options.missingCellPolicy = .raise →
      Log.HasStartValue trace.commands trace.initialValues u.address
  · rw [(hreason.stale hfresh hpresent).1, hheld]
    refine List.forall_mem_cons.mpr ⟨hrecord _ (by simp [Update.triple]), ?_⟩
    exact List.forall_mem_singleton.mpr (isWritable_value? h _ _)
  · rw [(hreason.missing hfresh hpresent).1]
    exact List.forall_mem_nil _

end Trace

/-- A trace whose integers can be written is refused for a violation, and it is named. -/
theorem Timeline.build_violation_of_writable {ι : Type} {trace : Trace} {options : Options}
    (h : ∀ n ∈ trace.integers, Integer.isWritable n = true) {e : Fault}
    (hbuild : (build trace options : Journaled Fault (Timeline ι)).result = .error e) :
    ∃ v, e = .inconsistentLog v := by
  rw [build_result] at hbuild
  split at hbuild
  · cases hcheck : trace.log.check trace.commands trace.initialValues
      (startAddress trace.labels options.startLabel) options.missingCellPolicy with
    | ok _ => rw [hcheck] at hbuild; cases hbuild
    | error e' =>
      obtain ⟨before, done, u, hu, -, -, -, reason, hreason, rfl⟩ := Log.check_stops hcheck
      rw [hcheck, Trace.violation_of_writable h hu hreason] at hbuild
      cases hbuild
      exact ⟨_, rfl⟩
  · cases hbuild

end Rewind
