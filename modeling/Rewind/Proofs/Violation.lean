import Rewind.Proofs.HeldCells
import Rewind.Proofs.LastWrite

/-!
# The first violation

What the check of a log decides, said of each update apart from any memory.  An update stands behind
some steps and, in its own step, behind some updates (`Log.Stands`).  It is good (`Log.Good`) if its
step has not written its address before, if under the policy of faults its address has a value from
the start, and if it records what the last update before its step has written there.

The check accepts a log exactly if all its updates are good, and otherwise it names the first one
that is not, and why (`check_first_violation`), unless an integer to be named has too many digits
(`check_oversized_value`).  The loop compares with a memory that it changes on
the way and that also holds what the step itself has written; up to the first update that is not
good, this makes no difference.
-/

namespace Rewind.Log

/-- The update stands in the log behind the steps `before` and, in its own step, behind the updates
`done`. -/
def Stands (log before : Log) (done : Step) (u : Update) : Prop :=
  ∃ rest after, log = before ++ (done ++ u :: rest) :: after

section Good

variable (commands : List Command) (initialValues : Cells) (start : Int)
  (policy : MissingCellPolicy)

/-- What an address holds behind some steps, with zero for no value. -/
def held (before : Log) (a : Int) : Int :=
  ((before.lastWritten? a).or (startValue? commands initialValues start a)).getD 0

/-- An update behind the steps `before` and the updates `done` of its step that can be taken back. -/
structure Good (before : Log) (done : Step) (u : Update) : Prop where
  /-- No earlier update of the step has its address. -/
  fresh : u.address ∉ done.addresses
  /-- Under the policy of faults its address has a value from the start. -/
  present : policy = .raise → HasStartValue commands initialValues u.address
  /-- It records what is there when its step is reached. -/
  current : u.oldValue = held commands initialValues start before u.address

/-- The reason that is given for an update that is not good. -/
structure Blamed (before : Log) (done : Step) (u : Update) (reason : ViolationReason) : Prop where
  twice : u.address ∈ done.addresses →
    reason = .writtenTwice ∧ reason.message = "address written twice in one step"
  missing : u.address ∉ done.addresses →
    ¬ (policy = .raise → HasStartValue commands initialValues u.address) →
      reason = .noInitialValue ∧ reason.message = "address has no initial value"
  stale : u.address ∉ done.addresses →
    (policy = .raise → HasStartValue commands initialValues u.address) →
      let there := held commands initialValues start before u.address
      reason = .staleValue u.oldValue there ∧
        reason.message = s!"recorded old value {u.oldValue} but cell holds {there}"

end Good

/-! ## Where the check stops -/

section Loops

variable {k : Nat} {m : Memory} {e : Fault}

/-- The loops stop at an update behind steps that fit and behind updates of its step that do. -/
theorem checkSteps_stops_at {log : Log} (h : checkSteps k m log = .error e) :
    ∃ before done u, log.Stands before done u ∧ before.Fits m ∧ Step.Fits (m.replay before) done ∧
      checkUpdate (k + before.length) done.addresses.reverse
        ((m.replay before).setAll done.redos) u = .error e := by
  obtain ⟨before, step, after, m₁, rfl, hbefore, hstep⟩ := checkSteps_stops h
  obtain ⟨hfits, rfl⟩ := checkSteps_eq_ok_iff.mp hbefore
  obtain ⟨done, u, rest, m₂, rfl, hdone, hu⟩ := checkUpdates_stops hstep
  obtain ⟨-, hdoneFits, rfl⟩ := checkUpdates_eq_ok_iff.mp hdone
  rw [List.append_nil] at hu
  exact ⟨before, done, u, ⟨rest, after, rfl⟩, hfits, hdoneFits, hu⟩

end Loops

/-! ## The fault of an update -/

section Fault

variable {k : Nat} {u : Update} {reason : ViolationReason}

theorem violation_of_writable
    (h : ∀ n ∈ u.address :: reason.integers, Integer.isWritable n = true) :
    violation k u reason = .inconsistentLog ⟨k, u.address, reason⟩ := by
  have hwritable : (Fault.inconsistentLog ⟨k, u.address, reason⟩).isWritable = true :=
    List.all_eq_true.mpr h
  exact Fault.worded_of_isWritable hwritable

theorem violation_of_oversized {n : Int} (hn : n ∈ u.address :: reason.integers)
    (h : Integer.isWritable n = false) : violation k u reason = .unwritable := by
  have hwritable : (Fault.inconsistentLog ⟨k, u.address, reason⟩).isWritable = false :=
    List.all_eq_false.mpr ⟨n, hn, Bool.eq_false_iff.mp h⟩
  exact Fault.worded_of_not_isWritable hwritable

end Fault

/-! ## Good updates and logs that fit -/

variable {commands : List Command} {initialValues : Cells} {start : Int}
  {policy : MissingCellPolicy} {log before : Log} {done : Step} {u : Update}

theorem getD_replay_startMemory (a : Int) :
    (((startMemory commands initialValues start policy).replay before).cells.get? a).getD 0 =
      held commands initialValues start before a := by
  rw [Memory.replay, Cells.get?_replay_last, get?_startMemory]
  rfl

/-- Under the policy of faults, steps that fit give no address its first value. -/
theorem Fits.contains_replay_iff
    (h : before.Fits (startMemory commands initialValues start policy)) (hraise : policy = .raise)
    (a : Int) :
    ((startMemory commands initialValues start policy).replay before).cells.contains a = true ↔
      HasStartValue commands initialValues a := by
  have hstart : (startMemory commands initialValues start policy).cells.contains a = true ↔
      HasStartValue commands initialValues a := contains_startMemory
  rw [Memory.replay, Cells.contains_replay, ← hstart]
  exact ⟨fun ha => ha.elim id (h.contains hraise), .inl⟩

/-- The updates of a log that fits are good. -/
theorem Fits.good (h : log.Fits (startMemory commands initialValues start policy))
    (hu : log.Stands before done u) : Good commands initialValues start policy before done u := by
  obtain ⟨rest, after, rfl⟩ := hu
  obtain ⟨-, hstep, -⟩ := fits_append.mp h
  have hmem : u ∈ done ++ u :: rest := by simp
  refine ⟨fun hfresh => ?_, fun hraise => ?_, ?_⟩
  · have hnodup := hstep.nodup
    simp only [Step.addresses, List.map_append, List.map_cons, List.nodup_append] at hnodup
    exact hnodup.2.2 _ hfresh _ (List.mem_cons_self ..) rfl
  · refine contains_startMemory.mp (h.contains hraise (mem_addresses.mpr ?_))
    exact ⟨_, by simp, List.mem_map_of_mem hmem⟩
  · rw [← hstep.getD hmem]
    exact getD_replay_startMemory u.address

/-- The update that is refused is not good, and the reason that is given is the right one. -/
theorem blamed_of_checkUpdate {k : Nat} {e : Fault}
    (hbefore : before.Fits (startMemory commands initialValues start policy))
    (h : checkUpdate k done.addresses.reverse
      (((startMemory commands initialValues start policy).replay before).setAll done.redos) u =
        .error e) :
    ¬ Good commands initialValues start policy before done u ∧
      ∃ reason, Blamed commands initialValues start policy before done u reason ∧
        e = violation k u reason := by
  -- what the step has written so far is elsewhere
  have hcell : u.address ∉ done.addresses.reverse →
      (((startMemory commands initialValues start policy).replay before).setAll
        done.redos).cells.get? u.address =
          ((startMemory commands initialValues start policy).replay before).cells.get? u.address :=
    fun hfresh => SortedMap.get?_insertAll_of_notMem _ (by simpa using hfresh)
  have hpresent : u.address ∉ done.addresses.reverse → policy = .raise →
      ((((startMemory commands initialValues start policy).replay before).setAll
        done.redos).contains u.address = true ↔
          HasStartValue commands initialValues u.address) := by
    intro hfresh hraise
    rw [Memory.contains, SortedMap.contains, hcell hfresh]
    exact hbefore.contains_replay_iff hraise _
  -- the three ways to fail, in the order in which they are looked for
  obtain ⟨htwice, rfl⟩ | ⟨hfresh, hraise, hmissing, rfl⟩ | ⟨hfresh, hthere, hstale, rfl⟩ :=
    checkUpdate_error h
  · have htwice := List.mem_reverse.mp htwice
    refine ⟨fun hgood => hgood.fresh htwice, .writtenTwice, ⟨fun _ => ⟨rfl, rfl⟩, ?_, ?_⟩, rfl⟩
    · exact fun hfresh => absurd htwice hfresh
    · exact fun hfresh => absurd htwice hfresh
  · have hnone : ¬ HasStartValue commands initialValues u.address := fun hstart => by
      rw [(hpresent hfresh hraise).mpr hstart] at hmissing
      cases hmissing
    refine ⟨fun hgood => hnone (hgood.present hraise), .noInitialValue,
      ⟨?_, fun _ _ => ⟨rfl, rfl⟩, ?_⟩, rfl⟩
    · exact fun htwice => absurd (List.mem_reverse.mpr htwice) hfresh
    · exact fun _ hstart => absurd (hstart hraise) hnone
  · rw [hcell hfresh, getD_replay_startMemory] at hstale ⊢
    refine ⟨fun hgood => hstale hgood.current.symm, _, ⟨?_, ?_, fun _ _ => ⟨rfl, rfl⟩⟩, rfl⟩
    · exact fun htwice => absurd (List.mem_reverse.mpr htwice) hfresh
    · exact fun _ hmissing => absurd (fun hraise =>
        (hpresent hfresh hraise).mp (hthere hraise)) hmissing

/-! ## What the check decides -/

theorem check_stops {e : Fault}
    (h : log.check commands initialValues start policy = .error e) :
    ∃ before done u, log.Stands before done u ∧
      before.Fits (startMemory commands initialValues start policy) ∧
      Step.Fits ((startMemory commands initialValues start policy).replay before) done ∧
      ¬ Good commands initialValues start policy before done u ∧
      ∃ reason, Blamed commands initialValues start policy before done u reason ∧
        e = violation before.length u reason := by
  obtain ⟨before, done, u, hu, hbefore, hdone, hupdate⟩ :=
    checkSteps_stops_at (check_eq_error_iff.mp h)
  rw [Nat.zero_add] at hupdate
  exact ⟨before, done, u, hu, hbefore, hdone, blamed_of_checkUpdate hbefore hupdate⟩

/-- **What the check of a log decides.**  It accepts a log exactly if all updates are good, whatever
the program, the start values, the start address and the policy.  Otherwise there is a first update
that is not good: all that stand in front of it, in earlier steps or in its own, are.  The check
then fails with its step, its address and the reason if the integers among them can be written, and
for want of a wording if not; it never fails because of a read. -/
theorem check_first_violation (log : Log) (commands : List Command) (initialValues : Cells)
    (start : Int) (policy : MissingCellPolicy) :
    (log.check commands initialValues start policy = .ok () ↔
      ∀ before done u, log.Stands before done u →
        Good commands initialValues start policy before done u) ∧
    ((¬ ∀ before done u, log.Stands before done u →
        Good commands initialValues start policy before done u) →
      ∃ before done u reason, log.Stands before done u ∧
        ¬ Good commands initialValues start policy before done u ∧
        (∀ before' done' u', Stands (before ++ [done]) before' done' u' →
          Good commands initialValues start policy before' done' u') ∧
        Blamed commands initialValues start policy before done u reason ∧
        ((∀ n ∈ u.address :: reason.integers, Integer.isWritable n = true) →
          log.check commands initialValues start policy =
            .error (.inconsistentLog ⟨before.length, u.address, reason⟩)) ∧
        ((∃ n ∈ u.address :: reason.integers, Integer.isWritable n = false) →
          log.check commands initialValues start policy = .error .unwritable)) ∧
    ∀ a, log.check commands initialValues start policy ≠ .error (.missingCell a) := by
  have haccepts : log.check commands initialValues start policy = .ok () →
      ∀ before done u, log.Stands before done u →
        Good commands initialValues start policy before done u :=
    fun h _ _ _ hu => (check_eq_ok_iff.mp h).good hu
  cases hcheck : log.check commands initialValues start policy with
  | ok _ =>
    have hgood := haccepts hcheck
    refine ⟨?_, ?_, ?_⟩
    · exact ⟨fun _ => hgood, fun _ => rfl⟩
    · intro hbad
      exact absurd hgood hbad
    · intro a h
      cases h
  | error e =>
    obtain ⟨before, done, u, hu, hbefore, hdone, hbad, reason, hreason, rfl⟩ := check_stops hcheck
    -- what stands in front of the update has been accepted
    have hearlier : (before ++ [done]).Fits (startMemory commands initialValues start policy) :=
      fits_append.mpr ⟨hbefore, hdone, trivial⟩
    refine ⟨⟨?_, ?_⟩, ?_, ?_⟩
    · intro h
      cases h
    · intro hgood
      exact absurd (hgood before done u hu) hbad
    · intro _
      refine ⟨before, done, u, reason, hu, hbad, fun _ _ _ h => hearlier.good h, hreason, ?_, ?_⟩
      -- the violation is raised if its wording can be composed, and the composing fails otherwise
      · intro hwritable
        rw [violation_of_writable hwritable]
      · rintro ⟨n, hn, hlong⟩
        rw [violation_of_oversized hn hlong]
    · intro a h
      obtain hfault | hfault :=
        Fault.worded_eq_or (.inconsistentLog ⟨before.length, u.address, reason⟩)
      · rw [violation, hfault] at h
        cases h
      · rw [violation, hfault] at h
        cases h

/-- The second step of the log has an update of an address without a value behind one that is good,
and the third step is no better. -/
theorem check_first_violation_second_update :
    let log : Log := [[⟨3, 7, 8⟩], [⟨3, 8, 9⟩, ⟨5, 0, 1⟩], [⟨3, 0, 0⟩]]
    let commands : List Command := [⟨3, "LOAD", none, none, none, 7⟩]
    log.check commands .empty 0 .raise = .error (.inconsistentLog ⟨1, 5, .noInitialValue⟩) ∧
      ∃ before done u reason, log.Stands before done u ∧
        ¬ Good commands .empty 0 .raise before done u ∧
        (∀ before' done' u', Stands (before ++ [done]) before' done' u' →
          Good commands .empty 0 .raise before' done' u') ∧
        Blamed commands .empty 0 .raise before done u reason ∧
        ((∀ n ∈ u.address :: reason.integers, Integer.isWritable n = true) →
          log.check commands .empty 0 .raise =
            .error (.inconsistentLog ⟨before.length, u.address, reason⟩)) ∧
        ((∃ n ∈ u.address :: reason.integers, Integer.isWritable n = false) →
          log.check commands .empty 0 .raise = .error .unwritable) := by
  intro log commands
  have hcheck : log.check commands .empty 0 .raise =
    .error (.inconsistentLog ⟨1, 5, .noInitialValue⟩) := by decide +kernel
  obtain ⟨haccepts, hfirst, -⟩ := check_first_violation log commands .empty 0 .raise
  refine ⟨hcheck, hfirst fun hgood => ?_⟩
  rw [haccepts.mpr hgood] at hcheck
  cases hcheck

/-- An update that records a value with more digits than are written, of a cell that holds zero.  It
is not good, and the check fails, but not with the place and the reason. -/
theorem check_oversized_value :
    let u : Update := ⟨5, Integer.writtenBound, 0⟩
    let log : Log := [[u]]
    log.Stands [] [] u ∧ ¬ Good [] .empty 0 .zero [] [] u ∧
      log.check [] .empty 0 .zero = .error .unwritable ∧
      ∀ v, log.check [] .empty 0 .zero ≠ .error (.inconsistentLog v) := by
  intro u log
  have hcheck : log.check [] .empty 0 .zero = .error .unwritable := by decide +kernel
  refine ⟨⟨[], [], rfl⟩, fun hgood => ?_, hcheck, fun v hv => ?_⟩
  · have hcurrent : (Integer.writtenBound : Int) = 0 := hgood.current
    exact absurd hcurrent (by decide +kernel)
  · rw [hcheck] at hv
    cases hv

end Rewind.Log
