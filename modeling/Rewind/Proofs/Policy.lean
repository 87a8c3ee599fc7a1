import Rewind.Proofs.Defined
import Rewind.Proofs.HeldCells
import Rewind.Proofs.Lockstep

/-!
# The policy for missing cells

What the policy of a timeline is good for.  It says how a read of an address without a value is
answered, and the timeline itself never makes one: applying and taking back a step only writes, and
the instruction-address register always holds a value.  So two sessions that differ in their policy
go in lockstep (`lockstep_withPolicy`), and only reads from outside tell them apart
(`policy_changes_reads_only`).  Listeners could make such reads; those that are left out of
`Reaction.IgnoresPolicy` are the ones that do otherwise under another policy.
-/

namespace Rewind

/-- The options with another policy. -/
def Options.withPolicy (options : Options) (policy : MissingCellPolicy) : Options :=
  { options with missingCellPolicy := policy }

/-- The timeline with another policy. -/
def Timeline.withPolicy {ι : Type} (t : Timeline ι) (policy : MissingCellPolicy) : Timeline ι :=
  { t with options := t.options.withPolicy policy, memory := { t.memory with policy := policy } }

/-- Whether a reaction is the same under every policy.  It may look at all of a timeline, its cells
included, and may fail, ask for moves and write. -/
inductive Reaction.IgnoresPolicy {ι σ : Type} : Reaction ι σ → Prop
  | done : IgnoresPolicy .done
  | fail (e : Fault) : IgnoresPolicy (.fail e)
  | look {k : σ → Timeline ι → Reaction ι σ} (same : ∀ s t p, k s (t.withPolicy p) = k s t)
    (h : ∀ s t, IgnoresPolicy (k s t)) : IgnoresPolicy (.look k)
  | keep (s : σ) {r : Reaction ι σ} (h : IgnoresPolicy r) : IgnoresPolicy (.keep s r)
  | moveTo (p : Int) {k : Except Fault Nat → Reaction ι σ} (h : ∀ a, IgnoresPolicy (k a)) :
    IgnoresPolicy (.moveTo p k)
  | addListener (l : ι) {r : Reaction ι σ} (h : IgnoresPolicy r) : IgnoresPolicy (.addListener l r)
  | removeListener (l : ι) {k : Except Fault Unit → Reaction ι σ} (h : ∀ a, IgnoresPolicy (k a)) :
    IgnoresPolicy (.removeListener l k)
  | poke (a v : Int) {r : Reaction ι σ} (h : IgnoresPolicy r) : IgnoresPolicy (.poke a v r)

theorem Timeline.advance_withPolicy {ι : Type} (t : Timeline ι) (policy : MissingCellPolicy) :
    (t.withPolicy policy).advance = t.advance.withPolicy policy := by
  unfold advance withPolicy
  dsimp only
  cases t.log[t.cursor]? with
  | none => rfl
  | some step => rfl

theorem Timeline.retreat_withPolicy {ι : Type} (t : Timeline ι) (policy : MissingCellPolicy) :
    (t.withPolicy policy).retreat = t.retreat.withPolicy policy := by
  obtain ⟨_, log, _, _, _, _, cursor, _, _⟩ := t
  unfold retreat withPolicy
  cases cursor with
  | zero => rfl
  | succ p =>
    dsimp only
    cases log[p]? with
    | none => rfl
    | some step => rfl

namespace Session

variable {ι σ : Type}

/-- The session with another policy. -/
def withPolicy (s : Session ι σ) (policy : MissingCellPolicy) : Session ι σ :=
  s.update (·.withPolicy policy)

/-! ## In lockstep -/

/-- The second session is the first one under the policy. -/
def Repolicied (policy : MissingCellPolicy) (s s' : Session ι σ) : Prop := s' = s.withPolicy policy

theorem lockstep_withPolicy (policy : MissingCellPolicy) :
    Lockstep (Repolicied policy : Session ι σ → Session ι σ → Prop) where
  log := by
    rintro s _ rfl
    rfl
  cursor := by
    rintro s _ rfl
    rfl
  registry := by
    rintro s _ rfl
    rfl
  moving := by
    rintro s _ rfl
    rfl
  advance := by
    rintro s _ rfl
    exact congrArg (fun t => { s with timeline := t }) (s.timeline.advance_withPolicy policy)
  retreat := by
    rintro s _ rfl
    exact congrArg (fun t => { s with timeline := t }) (s.timeline.retreat_withPolicy policy)
  setMoving := by
    rintro s _ rfl moving
    rfl
  register := by
    rintro s _ rfl registry
    rfl
  note := by
    rintro s _ rfl entry
    rfl

variable [DecidableEq ι]

/-- A reaction that ignores the policy goes in lockstep with itself. -/
theorem parallel_react {policy : MissingCellPolicy} {inner inner' : Mover ι σ}
    (hinner : ∀ s s', Repolicied policy s s' → ∀ position,
      Parallel (Repolicied policy) (inner s position) (inner' s' position))
    {r : Reaction ι σ} (hr : r.IgnoresPolicy) {s s' : Session ι σ} (h : Repolicied policy s s') :
    Parallel (Repolicied policy) (react inner r s) (react inner' r s') := by
  induction hr generalizing s s' with
  | done => exact ⟨rfl, h⟩
  | fail e => exact ⟨rfl, h⟩
  -- a reaction looks at nothing that the policy decides, so it goes on alike
  | look same _ ih =>
    obtain rfl := h
    simp only [react]
    rw [show (s.withPolicy policy).timeline = s.timeline.withPolicy policy from rfl, same]
    exact ih s.kept s.timeline rfl
  | keep kept _ ih =>
    obtain rfl := h
    exact ih rfl
  | moveTo position _ ih =>
    obtain ⟨hanswer, hsessions⟩ := hinner s s' h position
    simp only [react]
    rw [hanswer]
    exact ih _ hsessions
  | addListener l _ ih => exact ih ((lockstep_withPolicy policy).addListener h l)
  | removeListener l _ ih =>
    obtain ⟨hanswer, hsessions⟩ := (lockstep_withPolicy policy).removeListener h l
    simp only [react]
    rw [hanswer]
    exact ih _ hsessions
  | poke a v _ ih =>
    obtain rfl := h
    exact ih rfl

/-! ## What tells two policies apart -/

/-- Two sessions that only a read of an address without a value tells apart. -/
structure DifferInReads (s s' : Session ι σ) : Prop where
  cursor : s'.timeline.cursor = s.timeline.cursor
  cells : s'.timeline.memory.cells = s.timeline.memory.cells
  registry : s'.timeline.registry = s.timeline.registry
  /-- What listeners have recorded. -/
  kept : s'.kept = s.kept
  journal : s'.journal = s.journal
  current : ∃ command?, s.timeline.currentCommand = .ok command? ∧
    s'.timeline.currentCommand = .ok command?
  defined : ∀ a, s.timeline.memory.contains a = true →
    ∃ v, s.timeline.get a = .ok v ∧ s'.timeline.get a = .ok v
  undefined : ∀ a, s.timeline.memory.contains a = false →
    s.timeline.get a = .ok 0 ∧ s'.timeline.get a = .error (.missingCell a)

omit [DecidableEq ι] in
theorem differInReads_withPolicy {s : Session ι σ} (hzero : s.timeline.memory.policy = .zero)
    (hiar : s.timeline.memory.contains iar = true) : DifferInReads s (s.withPolicy .raise) := by
  have hdefined : ∀ a, s.timeline.memory.contains a = true →
      ∃ v, s.timeline.get a = .ok v ∧ (s.withPolicy .raise).timeline.get a = .ok v :=
    fun a ha => ⟨_, Memory.get_of_present fun _ => ha, Memory.get_of_present fun _ => ha⟩
  refine ⟨rfl, rfl, rfl, rfl, rfl, ?_, hdefined, fun a ha => ⟨?_, ?_⟩⟩
  · obtain ⟨v, hv, hv'⟩ := hdefined iar hiar
    unfold Timeline.currentCommand
    rw [hv, hv']
    exact ⟨_, rfl, rfl⟩
  · have hnone : s.timeline.memory.cells.get? a = none := by
      simpa [Memory.contains, SortedMap.contains] using ha
    rw [Timeline.get, Memory.get_of_zero hzero, hnone]
    rfl
  · exact Memory.get_eq_error_iff.mpr ⟨rfl, Bool.eq_false_iff.mp ha, rfl⟩

omit [DecidableEq ι] in
theorem start_withPolicy (trace : Trace) {options : Options} (hoff : options.checkLog = false)
    (kept : σ) (policy policy' : MissingCellPolicy) :
    ∃ s : Session ι σ, start (Timeline.build trace (options.withPolicy policy)) kept = .ok s ∧
      start (Timeline.build trace (options.withPolicy policy')) kept =
        .ok (s.withPolicy policy') := by
  obtain ⟨startLabel, missing, checkLog⟩ := options
  obtain rfl : checkLog = false := hoff
  exact ⟨_, rfl, rfl⟩

/-- **The policy matters for reads of undefined addresses only.**  Timelines that do not check their
log and differ in the policy are built both, whatever the log is, and in all runs with the same
listeners they answer alike, faults included, and stand alike after them, with the same cells,
current command and records of listeners.  A read of a defined address answers the same on both;
another one answers zero on the one and is a fault on the other.  If the log passes the check under
the policy of faults, no read of an address that it writes is ever a fault. -/
theorem policy_changes_reads_only (trace : Trace) {options : Options}
    (hoff : options.checkLog = false) {listeners : Listeners ι σ}
    (hlisteners : ∀ l n, (listeners l n).IgnoresPolicy) (kept : σ) :
    ∃ s s' : Session ι σ,
      start (Timeline.build trace (options.withPolicy .zero)) kept = .ok s ∧
      start (Timeline.build trace (options.withPolicy .raise)) kept = .ok s' ∧ ∀ calls,
        s'.answers listeners calls = s.answers listeners calls ∧
        DifferInReads (s.run listeners calls) (s'.run listeners calls) ∧
        (trace.Accepted (options.withPolicy .raise) → ∀ a ∈ trace.log.addresses,
          ∃ v, (s'.run listeners calls).timeline.get a = .ok v) := by
  obtain ⟨s, hstart, hstart'⟩ := start_withPolicy (ι := ι) trace hoff kept .zero .raise
  have hzero : s.timeline.memory.policy = .zero := by
    rw [timeline_of_start hstart]
    rfl
  refine ⟨s, s.withPolicy .raise, hstart, hstart', fun calls => ?_⟩
  -- the two sessions differ in the policy from the start, and in nothing else ever
  have hrelated : Repolicied .raise s (s.withPolicy .raise) := rfl
  obtain ⟨hanswers, hrun⟩ := (lockstep_withPolicy .raise).run
    (fun _ _ hinner l n _ _ h => parallel_react hinner (hlisteners l n) h) hrelated calls
  have hpolicy : (s.run listeners calls).timeline.memory.policy = .zero :=
    run_keeps_memory (Q := fun m => m.policy = .zero) (fun _ _ _ h => h) hzero calls
  have hiar : s.timeline.memory.contains iar = true :=
    (contains_of_start hstart iar).mpr (.inr (.inr (.inl rfl)))
  rw [Repolicied] at hrun
  rw [hrun]
  have hdiffer := differInReads_withPolicy hpolicy (contains_run hiar calls)
  refine ⟨hanswers, hdiffer, fun haccepted a ha => ?_⟩
  -- the check has found a start value wherever the log writes
  have hfits : trace.log.Fits (trace.startMemory (options.withPolicy .raise)) :=
    Log.check_eq_ok_iff.mp haccepted
  have hthere : s.timeline.memory.contains a = true :=
    (contains_of_start hstart a).mpr (Log.contains_startMemory.mp (hfits.contains rfl ha))
  obtain ⟨v, -, hv⟩ := hdiffer.defined a (contains_run hthere calls)
  exact ⟨v, hv⟩

/-- Two listeners that record what they hear, one of which gives up at the second write: the move to
the end stops there, and of what is read afterwards only the address that nothing writes differs. -/
theorem policy_changes_reads_only_stopped :
    let trace : Trace :=
      { log := [[⟨5, 3, 42⟩], [⟨6, 0, 1⟩]], initialValues := SortedMap.ofList [(5, 3), (6, 0)] }
    let listeners : Listeners Bool (List Notification) := fun l n => .look fun kept _ =>
      .keep (kept ++ [n])
        (if l = true ∧ n = .cellChanged 6 1 then .fail (.listenerFailed "no") else .done)
    let calls := [.addListener false, .addListener true, .moveTo 2, .moveBy (-1)]
    ∃ s s' : Session Bool (List Notification),
      start (Timeline.build trace (Options.withPolicy {} .zero)) [] = .ok s ∧
      start (Timeline.build trace (Options.withPolicy {} .raise)) [] = .ok s' ∧
      s'.answers listeners calls = s.answers listeners calls ∧
      (s'.run listeners calls).kept = (s.run listeners calls).kept ∧
      (s.run listeners calls).timeline.get 7 = .ok 0 ∧
      (s'.run listeners calls).timeline.get 7 = .error (.missingCell 7) ∧
      ∃ v, (s'.run listeners calls).timeline.get 6 = .ok v := by
  intro trace listeners calls
  have hlisteners : ∀ l n, (listeners l n).IgnoresPolicy := by
    intro l n
    refine .look (fun _ _ _ => rfl) fun kept _ => .keep _ ?_
    split
    · exact .fail _
    · exact .done
  have hoff : ({} : Options).checkLog = false := rfl
  obtain ⟨s, s', hstart, hstart', hruns⟩ := policy_changes_reads_only trace hoff hlisteners []
  obtain ⟨hanswers, hdiffer, hwritten⟩ := hruns calls
  have hmissing : (s.run listeners calls).timeline.memory.contains 7 = false := by
    cases hstart
    decide +kernel
  obtain ⟨hzero, hraise⟩ := hdiffer.undefined 7 hmissing
  have haccepted : trace.Accepted (Options.withPolicy {} .raise) := rfl
  exact ⟨s, s', hstart, hstart', hanswers, hdiffer.kept, hzero, hraise,
    hwritten haccepted 6 (by decide)⟩

end Session

end Rewind
