import Rewind.Proofs.Sweep

/-!
# Logs that fit

A step fits a memory when it writes no address twice and every update records as its old value what
the memory answers at its address (`Step.Fits`); a log fits when each step fits the memory that the
steps before it leave (`Log.Fits`).  `check_eq_ok_iff` says that `Log.check` decides this.  Where
the check fails, all that stands in front has passed (`checkSteps_stops`, `checkUpdates_stops`), and
`checkUpdate_error` says why the update there has not.
-/

namespace Rewind

namespace Memory

/-- The memory after all steps of a log. -/
def replay (m : Memory) (log : Log) : Memory := { m with cells := m.cells.replay log }

@[simp] theorem replay_nil (m : Memory) : m.replay [] = m := rfl

@[simp] theorem replay_cons (m : Memory) (step : Step) (log : Log) :
    m.replay (step :: log) = (m.setAll step.redos).replay log := rfl

theorem get_eq_of_get? {m n : Memory} {a : Int} (hpolicy : m.policy = n.policy)
    (h : m.cells.get? a = n.cells.get? a) : m.get a = n.get a := by
  unfold get
  rw [h, hpolicy]

theorem get_set_of_ne (m : Memory) {a b : Int} (v : Int) (h : b ≠ a) :
    (m.set a v).get b = m.get b :=
  get_eq_of_get? rfl (SortedMap.get?_insert_of_ne m.cells v h)

theorem get_of_get? {m : Memory} {a v : Int} (h : m.cells.get? a = some v) : m.get a = .ok v := by
  rw [get, h]

/-- A read has an answer where there is a value, and elsewhere unless the policy is that of faults. -/
theorem get_of_present {m : Memory} {a : Int} (h : m.policy = .raise → m.contains a = true) :
    m.get a = .ok ((m.cells.get? a).getD 0) := by
  unfold get
  cases hc : m.cells.get? a with
  | some v => rfl
  | none =>
    cases hpolicy : m.policy with
    | zero => rfl
    | raise => simp [contains, SortedMap.contains, hc, hpolicy] at h

/-- Under the policy of zeros every read has an answer. -/
theorem get_of_zero {m : Memory} (h : m.policy = .zero) (a : Int) :
    m.get a = .ok ((m.cells.get? a).getD 0) :=
  get_of_present fun hraise => by rw [h] at hraise; cases hraise

/-- Under the policy of faults a read has an answer where there is a value. -/
theorem get_eq_ok_of_raise {m : Memory} {a v : Int} (h : m.policy = .raise)
    (hget : m.get a = .ok v) : m.cells.get? a = some v := by
  unfold get at hget
  rw [h] at hget
  cases hc : m.cells.get? a with
  | none => rw [hc] at hget; cases hget
  | some w => rw [hc] at hget; cases hget; rfl

theorem get_eq_error_iff {m : Memory} {a : Int} {e : Fault} :
    m.get a = .error e ↔ m.policy = .raise ∧ ¬ m.contains a = true ∧ e = .missingCell a := by
  unfold get contains SortedMap.contains
  cases m.cells.get? a with
  | some v => simp
  | none => cases m.policy <;> simp [eq_comm]

end Memory

/-- The step writes no address twice, and its updates record what the memory answers. -/
structure Step.Fits (m : Memory) (step : Step) : Prop where
  nodup : step.addresses.Nodup
  old : ∀ u ∈ step, m.get u.address = .ok u.oldValue

namespace Log

/-- Each step fits the memory that the steps before it leave. -/
def Fits (m : Memory) : Log → Prop
  | [] => True
  | step :: rest => Step.Fits m step ∧ Fits (m.setAll step.redos) rest

theorem fits_iff {m : Memory} {log : Log} :
    log.Fits m ↔ ∀ p step, log[p]? = some step → Step.Fits (m.replay (log.take p)) step := by
  induction log generalizing m with
  | nil => simp [Fits]
  | cons first rest ih =>
    constructor
    · rintro ⟨hfirst, hrest⟩ p step hstep
      cases p with
      | zero =>
        obtain rfl : first = step := by simpa using hstep
        exact hfirst
      | succ p => exact ih.mp hrest p step (by simpa using hstep)
    · intro h
      exact ⟨h 0 first rfl, ih.mpr fun p step hstep => h (p + 1) step (by simpa using hstep)⟩

theorem fits_append {m : Memory} {log more : Log} :
    Fits m (log ++ more) ↔ log.Fits m ∧ more.Fits (m.replay log) := by
  induction log generalizing m with
  | nil => simp [Fits]
  | cons step rest ih => simp [Fits, ih, and_assoc]

/-! ## What the check accepts -/

theorem checkUpdate_eq_ok_iff {k : Nat} {seen : List Int} {m m' : Memory} {u : Update} :
    checkUpdate k seen m u = .ok m' ↔
      u.address ∉ seen ∧ m.get u.address = .ok u.oldValue ∧ m' = m.set u.address u.newValue := by
  unfold checkUpdate
  by_cases hseen : u.address ∈ seen
  · simp [hseen]
  · rw [if_neg hseen]
    cases hget : m.get u.address with
    | error e => split <;> simp
    | ok held =>
      -- an answered read passes the test for a missing value
      have hpass : ¬ ((!m.contains u.address && m.policy == .raise) = true) := by
        intro h
        simp only [Bool.and_eq_true, Bool.not_eq_true', beq_iff_eq] at h
        have := Memory.get_eq_ok_of_raise h.2 hget
        simp [Memory.contains, SortedMap.contains, this] at h
      rw [if_neg hpass]
      by_cases hold : held = u.oldValue
      · simp [hold, hseen, eq_comm]
      · simp [hold]

theorem checkUpdates_eq_ok_iff {k : Nat} {seen : List Int} {m m' : Memory} {step : Step} :
    checkUpdates k seen m step = .ok m' ↔
      (∀ a ∈ step.addresses, a ∉ seen) ∧ Step.Fits m step ∧ m' = m.setAll step.redos := by
  induction step generalizing seen m with
  | nil =>
    refine ⟨fun h => ?_, fun h => by rw [h.2.2]; rfl⟩
    obtain rfl : m = m' := by simpa [checkUpdates] using h
    exact ⟨by simp [Step.addresses], ⟨by simp [Step.addresses], by simp⟩, rfl⟩
  | cons u rest ih =>
    -- an update leaves the other cells of the step as they were, since none is written twice
    have hkeep : ∀ v ∈ rest, u.address ∉ Step.addresses rest →
        (m.set u.address u.newValue).get v.address = m.get v.address := by
      intro v hv hu
      refine m.get_set_of_ne u.newValue fun heq => hu (heq ▸ ?_)
      exact List.mem_map_of_mem hv
    unfold checkUpdates
    constructor
    · intro h
      cases hu : checkUpdate k seen m u with
      | error e => rw [hu] at h; cases h
      | ok m₁ =>
        rw [hu] at h
        obtain ⟨hseen, hold, rfl⟩ := checkUpdate_eq_ok_iff.mp hu
        -- what the rest demands of the addresses seen includes that `u` is not written again
        obtain ⟨hfresh, hfits, rfl⟩ := ih.mp h
        have hnotin : u.address ∉ Step.addresses rest := fun hmem =>
          hfresh _ hmem (List.mem_cons_self ..)
        refine ⟨?_, ⟨List.nodup_cons.mpr ⟨hnotin, hfits.nodup⟩, ?_⟩, rfl⟩
        · intro a ha
          rcases List.mem_cons.mp ha with rfl | ha
          · exact hseen
          · exact fun hs => hfresh a ha (List.mem_cons_of_mem _ hs)
        · intro v hv
          rcases List.mem_cons.mp hv with rfl | hv
          · exact hold
          · rw [← hkeep v hv hnotin]
            exact hfits.old v hv
    · rintro ⟨hseen, hfits, rfl⟩
      obtain ⟨hnotin, hnodup⟩ := List.nodup_cons.mp hfits.nodup
      have hu : checkUpdate k seen m u = .ok (m.set u.address u.newValue) :=
        checkUpdate_eq_ok_iff.mpr
          ⟨hseen _ (List.mem_cons_self ..), hfits.old u (List.mem_cons_self ..), rfl⟩
      rw [hu]
      refine ih.mpr ⟨?_, ⟨hnodup, ?_⟩, rfl⟩
      · intro a ha hs
        rcases List.mem_cons.mp hs with rfl | hs
        · exact hnotin ha
        · exact hseen a (List.mem_cons_of_mem _ ha) hs
      · intro v hv
        rw [hkeep v hv hnotin]
        exact hfits.old v (List.mem_cons_of_mem _ hv)

theorem checkSteps_eq_ok_iff {k : Nat} {m m' : Memory} {log : Log} :
    checkSteps k m log = .ok m' ↔ log.Fits m ∧ m' = m.replay log := by
  induction log generalizing k m with
  | nil => simp [checkSteps, Fits, eq_comm]
  | cons step rest ih =>
    unfold checkSteps
    constructor
    · intro h
      cases hs : checkUpdates k [] m step with
      | error e => rw [hs] at h; cases h
      | ok m₁ =>
        rw [hs] at h
        obtain ⟨-, hfits, rfl⟩ := checkUpdates_eq_ok_iff.mp hs
        obtain ⟨hrest, rfl⟩ := ih.mp h
        exact ⟨⟨hfits, hrest⟩, rfl⟩
    · rintro ⟨⟨hfits, hrest⟩, rfl⟩
      -- every step starts with no address seen, so its fit is all that is asked for
      have hs : checkUpdates k [] m step = .ok (m.setAll step.redos) :=
        checkUpdates_eq_ok_iff.mpr ⟨by simp, hfits, rfl⟩
      rw [hs]
      exact ih.mpr ⟨hrest, rfl⟩

/-- **The check accepts exactly the logs that fit** the start memory. -/
theorem check_eq_ok_iff {log : Log} {commands : List Command} {initialValues : Cells} {start : Int}
    {policy : MissingCellPolicy} :
    log.check commands initialValues start policy = .ok () ↔
      log.Fits (startMemory commands initialValues start policy) := by
  unfold check
  constructor
  · intro h
    cases hs : checkSteps 0 (startMemory commands initialValues start policy) log with
    | error e => rw [hs] at h; cases h
    | ok m => exact (checkSteps_eq_ok_iff.mp hs).1
  · intro h
    rw [checkSteps_eq_ok_iff.mpr ⟨h, rfl⟩]
    rfl

/-! ## What the check refuses with -/

variable {k : Nat} {m : Memory} {e : Fault}

/-- The three ways in which an update is refused, each tried after the ones above it.  A read that
is a fault has been refused as a missing value before. -/
theorem checkUpdate_error {seen : List Int} {u : Update}
    (h : checkUpdate k seen m u = .error e) :
    (u.address ∈ seen ∧ e = violation k u .writtenTwice) ∨
      (u.address ∉ seen ∧ m.policy = .raise ∧ m.contains u.address = false ∧
        e = violation k u .noInitialValue) ∨
      (u.address ∉ seen ∧ (m.policy = .raise → m.contains u.address = true) ∧
        (m.cells.get? u.address).getD 0 ≠ u.oldValue ∧
        e = violation k u (.staleValue u.oldValue ((m.cells.get? u.address).getD 0))) := by
  unfold checkUpdate at h
  by_cases hseen : u.address ∈ seen
  · rw [if_pos hseen] at h
    exact .inl ⟨hseen, (Except.error.inj h).symm⟩
  rw [if_neg hseen] at h
  by_cases hpresent : m.policy = .raise → m.contains u.address = true
  · have hthere : ¬ (!m.contains u.address && m.policy == .raise) = true := by
      intro hmissing
      simp only [Bool.and_eq_true, Bool.not_eq_true', beq_iff_eq] at hmissing
      rw [hpresent hmissing.2] at hmissing
      cases hmissing.1
    rw [if_neg hthere, Memory.get_of_present hpresent] at h
    dsimp only at h
    split at h
    · rename_i hstale
      exact .inr (.inr ⟨hseen, hpresent, hstale, (Except.error.inj h).symm⟩)
    · cases h
  · obtain ⟨hraise, hmissing⟩ := Classical.not_imp.mp hpresent
    have habsent : m.contains u.address = false := Bool.eq_false_iff.mpr hmissing
    rw [if_pos (by simp [hraise, habsent])] at h
    exact .inr (.inl ⟨hseen, hraise, habsent, (Except.error.inj h).symm⟩)

theorem checkUpdate_violation {seen : List Int} {u : Update}
    (h : checkUpdate k seen m u = .error e) : ∃ v, e = .worded (.inconsistentLog v) := by
  obtain ⟨-, he⟩ | ⟨-, -, -, he⟩ | ⟨-, -, -, he⟩ := checkUpdate_error h
  · exact ⟨_, he⟩
  · exact ⟨_, he⟩
  · exact ⟨_, he⟩

/-! ## Where the loops stop -/

theorem checkUpdates_stops {seen : List Int} {step : Step}
    (h : checkUpdates k seen m step = .error e) :
    ∃ (done : Step) (u : Update) (rest : Step) (m' : Memory), step = done ++ u :: rest ∧
      checkUpdates k seen m done = .ok m' ∧
      checkUpdate k (done.addresses.reverse ++ seen) m' u = .error e := by
  induction step generalizing seen m with
  | nil => cases h
  | cons v step ih =>
    unfold checkUpdates at h
    cases hv : checkUpdate k seen m v with
    | error e' =>
      rw [hv] at h
      cases h
      exact ⟨[], v, step, m, rfl, rfl, hv⟩
    | ok m₁ =>
      rw [hv] at h
      obtain ⟨done, u, rest, m', rfl, hdone, hu⟩ := ih h
      refine ⟨v :: done, u, rest, m', rfl, ?_, by simpa [Step.addresses] using hu⟩
      unfold checkUpdates
      rw [hv]
      exact hdone

theorem checkSteps_stops {log : Log} (h : checkSteps k m log = .error e) :
    ∃ before step after m', log = before ++ step :: after ∧ checkSteps k m before = .ok m' ∧
      checkUpdates (k + before.length) [] m' step = .error e := by
  induction log generalizing k m with
  | nil => cases h
  | cons first log ih =>
    unfold checkSteps at h
    cases hf : checkUpdates k [] m first with
    | error e' =>
      rw [hf] at h
      cases h
      exact ⟨[], first, log, m, rfl, rfl, hf⟩
    | ok m₁ =>
      rw [hf] at h
      obtain ⟨before, step, after, m', rfl, hbefore, hstep⟩ := ih h
      refine ⟨first :: before, step, after, m', rfl, ?_, ?_⟩
      · unfold checkSteps
        rw [hf]
        exact hbefore
      · rwa [List.length_cons, Nat.add_comm before.length, ← Nat.add_assoc]

section Check

variable {log : Log} {commands : List Command} {initialValues : Cells} {start : Int}
  {policy : MissingCellPolicy}

theorem check_eq_error_iff :
    log.check commands initialValues start policy = .error e ↔
      checkSteps 0 (startMemory commands initialValues start policy) log = .error e := by
  unfold check
  cases checkSteps 0 (startMemory commands initialValues start policy) log with
  | error e' => simp [Except.map]
  | ok m => simp [Except.map]

/-- A log is refused for a violation, and for nothing else. -/
theorem check_violation (h : log.check commands initialValues start policy = .error e) :
    ∃ v, e = .worded (.inconsistentLog v) := by
  obtain ⟨before, step, after, m, -, -, hstep⟩ := checkSteps_stops (check_eq_error_iff.mp h)
  obtain ⟨done, u, rest, m', -, -, hu⟩ := checkUpdates_stops hstep
  exact checkUpdate_violation hu

end Check

end Log

end Rewind
