import Rewind.Proofs.History
import Rewind.Proofs.Playback

/-!
# The check of a longer log

A log can be checked in parts.  The check of `log ++ more` fails where that of `log` fails.  If it
gets to the end of `log`, it goes on with `more` from the memory that it has built up
(`checkSteps_append`), and all that it knows of the way is how many steps it has passed
(`checkSteps_later`).  That memory is what a timeline over `log` holds at its end, and its cells are
their own start memory, so the rest is the check of `more` by itself (`verdict_append`).
-/

namespace Rewind

/-- The same fault `n` steps later in a log, if it names a step. -/
def Fault.later (n : Nat) : Fault → Fault
  | .inconsistentLog v => .inconsistentLog { v with step := v.step + n }
  | e => e

/-- What the check says of a log with the program, the start values and the start of a trace. -/
def Trace.verdict (trace : Trace) (options : Options) (log : Log) : Except Fault Unit :=
  log.check trace.commands trace.initialValues (startAddress trace.labels options.startLabel)
    options.missingCellPolicy

theorem mapError_eq_ok_iff {ε ε' α : Type} {f : ε → ε'} {result : Except ε α} {a : α} :
    result.mapError f = .ok a ↔ result = .ok a := by
  cases result with
  | error e => simp [Except.mapError]
  | ok b => simp [Except.mapError]

theorem Fault.later_worded (n : Nat) (v : Violation) :
    (worded (.inconsistentLog v)).later n =
      .worded (.inconsistentLog { v with step := v.step + n }) := by
  -- the number of the step is not among the integers that decide whether there is a wording
  have hsame : (inconsistentLog { v with step := v.step + n }).isWritable =
      (inconsistentLog v).isWritable := rfl
  unfold worded
  rw [hsame]
  split <;> rfl

namespace Log

/-! ## Where the steps are counted from -/

section Later

variable (k n : Nat)

theorem checkUpdate_later (seen : List Int) (m : Memory) (u : Update) :
    checkUpdate (k + n) seen m u = (checkUpdate k seen m u).mapError (Fault.later n) := by
  have hviolation : ∀ reason, violation (k + n) u reason = (violation k u reason).later n :=
    fun reason => (Fault.later_worded n ⟨k, u.address, reason⟩).symm
  unfold checkUpdate
  simp only [hviolation]
  split
  · rfl
  split
  · rfl
  -- a failing read does not name the step, so it is the same one further on
  cases hget : m.get u.address with
  | error e =>
    obtain ⟨-, -, rfl⟩ := Memory.get_eq_error_iff.mp hget
    rfl
  | ok v =>
    dsimp only
    split
    · rfl
    · rfl

theorem checkUpdates_later (seen : List Int) (m : Memory) (step : Step) :
    checkUpdates (k + n) seen m step = (checkUpdates k seen m step).mapError (Fault.later n) := by
  induction step generalizing seen m with
  | nil => rfl
  | cons u rest ih =>
    unfold checkUpdates
    rw [checkUpdate_later]
    cases checkUpdate k seen m u with
    | error e => rfl
    | ok m₁ => exact ih _ m₁

/-- The number of the first step matters only for the step that a fault names. -/
theorem checkSteps_later (m : Memory) (log : Log) :
    checkSteps (k + n) m log = (checkSteps k m log).mapError (Fault.later n) := by
  induction log generalizing k m with
  | nil => rfl
  | cons step rest ih =>
    unfold checkSteps
    rw [checkUpdates_later]
    cases checkUpdates k [] m step with
    | error e => rfl
    | ok m₁ =>
      have hnext : k + n + 1 = k + 1 + n := by omega
      show checkSteps (k + n + 1) m₁ rest = _
      rw [hnext]
      exact ih (k + 1) m₁

end Later

/-! ## One part after the other -/

theorem checkSteps_append (k : Nat) (m : Memory) (log more : Log) :
    checkSteps k m (log ++ more) =
      (checkSteps k m log).bind fun m' => checkSteps (k + log.length) m' more := by
  induction log generalizing k m with
  | nil => rfl
  | cons step rest ih =>
    simp only [List.cons_append, checkSteps]
    cases checkUpdates k [] m step with
    | error e => rfl
    | ok m₁ =>
      have hnext : k + (step :: rest).length = k + 1 + rest.length := by
        rw [List.length_cons]
        omega
      rw [hnext]
      exact ih (k + 1) m₁

section Check

variable {commands : List Command} {initialValues : Cells} {start : Int}
  {policy : MissingCellPolicy} {log : Log}

theorem check_append_of_error {e : Fault}
    (h : log.check commands initialValues start policy = .error e) (more : Log) :
    check (log ++ more) commands initialValues start policy = .error e := by
  rw [check_eq_error_iff] at h ⊢
  rw [checkSteps_append, h]
  rfl

/-- Behind a log that is accepted, the check goes on as from the cells that the log leads to. -/
theorem check_append_of_ok (h : log.check commands initialValues start policy = .ok ())
    {m : Memory} (hm : m = (startMemory commands initialValues start policy).replay log) {v : Int}
    (hv : m.cells.get? iar = some v) (more : Log) :
    check (log ++ more) commands initialValues start policy =
      (check more [] m.cells v policy).mapError (Fault.later log.length) := by
  have hsteps : checkSteps 0 (startMemory commands initialValues start policy) log = .ok m :=
    checkSteps_eq_ok_iff.mpr ⟨check_eq_ok_iff.mp h, hm⟩
  -- restarting from the cells reached with their own address changes none of them
  have hstart : startMemory [] m.cells v policy = m := by
    have hequipped : m.cells.Equipped := by
      rw [hm]
      exact (equipped_startMemory ..).replay log
    rw [startMemory_of_equipped hequipped hv, hm]
    rfl
  have hlater : checkSteps (0 + log.length) m more =
      (checkSteps 0 m more).mapError (Fault.later log.length) := checkSteps_later ..
  unfold check
  rw [checkSteps_append, hsteps, hstart, Except.bind, hlater]
  cases checkSteps 0 m more with
  | error e => rfl
  | ok m => rfl

end Check

end Log

namespace Session

variable {ι σ : Type} [DecidableEq ι]

/-- **The check goes part by part**, for any program, start values, start address and policy.  A log
that is refused is refused with the same fault whatever follows it.  If a log is accepted, a new
timeline over it gets to its end, and the cells that it holds there say what may follow: the check
takes the longer log exactly if it takes what follows from those cells with no program, and a fault
there is the fault of the longer log, with the step counted from the start. -/
theorem verdict_append (trace : Trace) (options : Options) (log more : Log)
    (listeners : Listeners ι σ) (kept : σ) :
    (∀ e, trace.verdict options log = .error e → trace.verdict options (log ++ more) = .error e) ∧
    (trace.verdict options log = .ok () →
      ∃ s : Session ι σ, start (Timeline.build (trace.withLog log) options) kept = .ok s ∧
        (moveTo listeners s log.length).1 = .ok log.length ∧
        let cells := (moveTo listeners s log.length).2.timeline.memory.cells
        ∃ v, cells.get? iar = some v ∧
          (trace.verdict options (log ++ more) = .ok () ↔
            more.check [] cells v options.missingCellPolicy = .ok ()) ∧
          ∀ e, more.check [] cells v options.missingCellPolicy = .error e →
            ∃ w, e = .worded (.inconsistentLog w) ∧ trace.verdict options (log ++ more) =
              .error (.worded (.inconsistentLog ⟨w.step + log.length, w.address, w.reason⟩))) := by
  refine ⟨fun e h => Log.check_append_of_error h more, fun h => ?_⟩
  obtain ⟨s, hstart, hanswer, hmoved⟩ :=
    end_of_start (trace.withLog log) (.inl h) listeners kept
  have hmemory : (moveTo listeners s log.length).2.timeline.memory =
      (trace.startMemory options).replay log := hmoved
  have hequipped : (moveTo listeners s log.length).2.timeline.memory.cells.Equipped := by
    rw [hmemory]
    exact (Log.equipped_startMemory ..).replay log
  obtain ⟨v, hv⟩ := Option.isSome_iff_exists.mp hequipped.iar
  have hmore : trace.verdict options (log ++ more) = _ :=
    Log.check_append_of_ok h hmemory hv more
  refine ⟨s, hstart, hanswer, v, hv, ?_, fun e he => ?_⟩
  · rw [hmore]
    exact mapError_eq_ok_iff
  -- a refusal is a violation, and only its step number depends on what went before
  · obtain ⟨w, rfl⟩ := Log.check_violation he
    refine ⟨w, rfl, ?_⟩
    rw [hmore, he, ← Fault.later_worded]
    rfl

/-- A log that is accepted, and one behind it that is refused: its second step records what the
cell held in the beginning and not what the first log has left there. -/
theorem verdict_append_stale :
    let trace : Trace := { commands := [⟨6, "LOAD", none, none, none, 3⟩] }
    let log : Log := [[⟨5, 0, 42⟩], [⟨6, 3, 1⟩, ⟨iar, 0, 1⟩]]
    let more : Log := [[⟨5, 42, 0⟩], [⟨6, 3, 2⟩]]
    trace.verdict {} log = .ok () ∧ ∃ s : Session Unit Unit,
      start (Timeline.build (trace.withLog log) {}) () = .ok s ∧
        more.check [] (moveTo (fun _ _ => .done) s 2).2.timeline.memory.cells 1 .zero =
          .error (.inconsistentLog ⟨1, 6, .staleValue 3 1⟩) ∧
        trace.verdict {} (log ++ more) = .error (.inconsistentLog ⟨3, 6, .staleValue 3 1⟩) := by
  intro trace log more
  have haccepted : trace.verdict {} log = .ok () := rfl
  obtain ⟨-, happend⟩ :=
    verdict_append trace {} log more (fun (_ : Unit) _ => (.done : Reaction Unit Unit)) ()
  obtain ⟨s, hstart, -, v, hv, -, hfault⟩ := happend haccepted
  have hcells : (moveTo (fun _ _ => .done) s 2).2.timeline.memory.cells =
      SortedMap.ofList [(accu, 0), (iar, 1), (5, 42), (6, 1)] := by
    cases hstart
    rfl
  rw [show ((log.length : Nat) : Int) = 2 from rfl, hcells] at hv hfault
  obtain rfl : 1 = v := Option.some.inj hv
  have hstale : more.check [] (SortedMap.ofList [(accu, 0), (iar, 1), (5, 42), (6, 1)]) 1 .zero =
      .error (.inconsistentLog ⟨1, 6, .staleValue 3 1⟩) := by decide +kernel
  obtain ⟨w, hw, hlonger⟩ := hfault _ hstale
  refine ⟨haccepted, s, hstart, hcells ▸ hstale, ?_⟩
  rw [hlonger, ← Fault.later_worded, ← hw]
  rfl

end Session

end Rewind
