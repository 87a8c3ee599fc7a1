import Rewind.Proofs.Fits
import Rewind.Proofs.Run

/-!
# The history of an address

`Log.history log a` is what a log does to one address: its updates in order, whatever steps they are
in and whatever stands between them.  A log whose steps write no address twice fits a memory exactly
if at every address each update records what the one before it has left (`Log.fits_iff_follows`),
and what a replay leaves at an address depends on its history only (`Cells.get?_replay`).  So of two
logs that are alike at every address the check accepts both or none, and both end in the same memory
(`alike_logs`), such as two logs that differ in the order of updates inside of a step, or of steps
that have no address in common.
-/

namespace Rewind

/-! ## Histories -/

/-- The updates that a step makes at an address. -/
def Step.history (step : Step) (a : Int) : List Update := step.filter fun u => u.address = a

/-- The updates that a log makes at an address, in order. -/
def Log.history (log : Log) (a : Int) : List Update := log.flatMap fun step => Step.history step a

namespace Step

variable {step : Step}

theorem history_of_notMem {a : Int} (ha : a ∉ step.addresses) : step.history a = [] := by
  rw [history, List.filter_eq_nil_iff]
  intro u hu hua
  apply ha
  simp at hua
  subst hua
  exact List.mem_map_of_mem hu

/-- A step that writes no address twice makes one update at each address that it writes. -/
theorem history_of_mem {u : Update} (hu : u ∈ step) (hstep : step.addresses.Nodup) :
    step.history u.address = [u] := by
  induction step with
  | nil => simp at hu
  | cons v step ih =>
    obtain ⟨hv, hstep⟩ := List.nodup_cons.mp hstep
    unfold history at ih ⊢
    rcases List.mem_cons.mp hu with rfl | hu
    · have hrest := history_of_notMem hv
      unfold history at hrest
      rw [List.filter_cons_of_pos (by simp), hrest]
    · have hne : v.address ≠ u.address := by
        intro heq
        apply hv
        rw [heq]
        exact List.mem_map_of_mem hu
      simpa [hne] using ih hu hstep

theorem history_perm {step' : Step} (h : step.Perm step') (hstep : step.addresses.Nodup) (a : Int) :
    step.history a = step'.history a := by
  have haddresses : step.addresses.Perm step'.addresses := h.map Update.address
  have hstep' : step'.addresses.Nodup := haddresses.nodup_iff.mp hstep
  by_cases ha : a ∈ step.addresses
  · obtain ⟨u, hu, rfl⟩ := List.mem_map.mp ha
    rw [history_of_mem hu hstep, history_of_mem (h.mem_iff.mp hu) hstep']
  · rw [history_of_notMem ha, history_of_notMem fun ha' => ha (haddresses.mem_iff.mpr ha')]

end Step

namespace Log

@[simp] theorem history_nil (a : Int) : history [] a = [] := rfl

@[simp] theorem history_cons (step : Step) (log : Log) (a : Int) :
    history (step :: log) a = step.history a ++ log.history a := rfl

@[simp] theorem history_append (log more : Log) (a : Int) :
    history (log ++ more) a = log.history a ++ more.history a := by
  simp [history]

/-- The first update records the value that is held, and every other one what the one before it has
left. -/
def Follows : Except Fault Int → List Update → Prop
  | _, [] => True
  | held, u :: rest => held = .ok u.oldValue ∧ Follows (.ok u.newValue) rest

/-- **A log fits where its histories do**, if its steps write no address twice. -/
theorem fits_iff_follows {log : Log} {m : Memory}
    (honce : ∀ step ∈ log, (Step.addresses step).Nodup) :
    log.Fits m ↔ ∀ a, Follows (m.get a) (log.history a) := by
  induction log generalizing m with
  | nil => simp [Fits, Follows]
  | cons step log ih =>
    have hstep : (Step.addresses step).Nodup := honce step (by simp)
    have hredos : (step.redos.map Prod.fst).Nodup := by simpa using hstep
    -- what the step leaves for the rest of the log
    have hwritten : ∀ u ∈ step, (m.setAll step.redos).get u.address = .ok u.newValue := by
      intro u hu
      have hcell : (m.setAll step.redos).cells.get? u.address = some u.newValue :=
        SortedMap.get?_insertAll_of_nodup _ (List.mem_map_of_mem (f := Update.redo) hu) hredos
      unfold Memory.get
      rw [hcell]
    have hkept : ∀ a, a ∉ Step.addresses step → (m.setAll step.redos).get a = m.get a := by
      intro a ha
      have hcell : (m.setAll step.redos).cells.get? a = m.cells.get? a :=
        SortedMap.get?_insertAll_of_notMem _ (by simpa using ha)
      exact Memory.get_eq_of_get? rfl hcell
    rw [Fits, ih fun rest hrest => honce rest (by simp [hrest])]
    constructor
    · rintro ⟨hfits, hrest⟩ a
      -- a step adds one update to the history of an address it writes, and none to any other
      by_cases ha : a ∈ Step.addresses step
      · obtain ⟨u, hu, rfl⟩ := List.mem_map.mp ha
        have hnext := hrest u.address
        rw [hwritten u hu] at hnext
        rw [history_cons, Step.history_of_mem hu hstep]
        exact ⟨hfits.old u hu, hnext⟩
      · have hnext := hrest a
        rw [hkept a ha] at hnext
        rwa [history_cons, Step.history_of_notMem ha]
    · intro h
      refine ⟨⟨hstep, fun u hu => ?_⟩, fun a => ?_⟩
      · have hfirst := h u.address
        rw [history_cons, Step.history_of_mem hu hstep] at hfirst
        exact hfirst.1
      · have hall := h a
        by_cases ha : a ∈ Step.addresses step
        · obtain ⟨u, hu, rfl⟩ := List.mem_map.mp ha
          rw [history_cons, Step.history_of_mem hu hstep] at hall
          rw [hwritten u hu]
          exact hall.2
        · rw [history_cons, Step.history_of_notMem ha] at hall
          rwa [hkept a ha]

end Log

namespace Cells

/-- What a replay leaves at an address is what the history of the address leaves there. -/
theorem get?_replay (cells : Cells) (log : Log) (a : Int) :
    (cells.replay log).get? a = (cells.insertAll ((log.history a).map Update.redo)).get? a := by
  have hwrites : (log.flatMap Step.redos).filter (fun w => w.1 = a) =
      (log.history a).map Update.redo := by
    rw [Log.history, List.filter_flatMap, List.map_flatMap]
    congr 1
    funext step
    rw [Step.redos, List.filter_map]
    rfl
  rw [replay_eq_insertAll, SortedMap.get?_insertAll_filter, hwrites]

theorem replay_congr (cells : Cells) {log log' : Log} (h : ∀ a, log.history a = log'.history a) :
    cells.replay log = cells.replay log' := by
  apply SortedMap.ext_get?
  intro a
  rw [get?_replay, get?_replay, h]

end Cells

/-! ## Logs that are alike -/

/-- Two logs whose steps write no address twice and that have the same history at every address. -/
structure Log.Alike (log log' : Log) : Prop where
  once : ∀ step ∈ log, (Step.addresses step).Nodup
  once' : ∀ step ∈ log', (Step.addresses step).Nodup
  history : ∀ a, log.history a = log'.history a

namespace Log

variable {before after : Log} {step step' : Step}

theorem Alike.fits_iff {log log' : Log} (h : log.Alike log') (m : Memory) :
    log.Fits m ↔ log'.Fits m := by
  rw [fits_iff_follows h.once, fits_iff_follows h.once']
  simp only [h.history]

/-- The order of the updates inside of a step does not matter. -/
theorem alike_of_perm (honce : ∀ s ∈ before ++ step :: after, (Step.addresses s).Nodup)
    (h : step.Perm step') : Alike (before ++ step :: after) (before ++ step' :: after) := by
  have hstep : (Step.addresses step).Nodup := honce step (by simp)
  refine ⟨honce, fun s hs => ?_, fun a => ?_⟩
  · rcases List.mem_append.mp hs with hs | hs
    · exact honce s (by simp [hs])
    rcases List.mem_cons.mp hs with rfl | hs
    · exact (h.map Update.address).nodup_iff.mp hstep
    · exact honce s (by simp [hs])
  · simp [Step.history_perm h hstep]

/-- Nor does the order of two steps that have no address in common. -/
theorem alike_swap (honce : ∀ s ∈ before ++ step :: step' :: after, (Step.addresses s).Nodup)
    (h : ∀ a ∈ Step.addresses step, a ∉ Step.addresses step') :
    Alike (before ++ step :: step' :: after) (before ++ step' :: step :: after) := by
  refine ⟨honce, fun s hs => honce s ?_, fun a => ?_⟩
  · simp at hs ⊢
    tauto
  · by_cases ha : a ∈ Step.addresses step
    · simp [Step.history_of_notMem (h a ha)]
    · simp [Step.history_of_notMem ha]

end Log

/-- The trace with another log. -/
def Trace.withLog (trace : Trace) (log : Log) : Trace := { trace with log := log }

namespace Session

variable {ι σ : Type} [DecidableEq ι]

/-- A new timeline moved to its end when nobody hears. -/
theorem end_of_start (trace : Trace) {options : Options}
    (h : trace.Accepted options ∨ options.checkLog = false) (listeners : Listeners ι σ) (kept : σ) :
    ∃ s : Session ι σ, start (Timeline.build trace options) kept = .ok s ∧
      (moveTo listeners s trace.log.length).1 = .ok trace.log.length ∧
      (moveTo listeners s trace.log.length).2.timeline.memory =
        (trace.startMemory options).replay trace.log := by
  obtain ⟨s, hstart⟩ : ∃ s : Session ι σ, start (Timeline.build trace options) kept = .ok s :=
    exists_start h kept
  have hready := ready_of_start hstart
  have htimeline := timeline_of_start hstart
  have hclamp : s.timeline.clamp trace.log.length = trace.log.length := by
    rw [htimeline]
    exact Nat.min_self _
  obtain ⟨hanswer, hmoved⟩ := moveTo_silent listeners hready.idle hready.cursor_le
    (by rw [htimeline]; rfl) trace.log.length
  refine ⟨s, hstart, by rw [hanswer, hclamp], ?_⟩
  have hall : (trace.startMemory options).cells.sweep trace.log 0 trace.log.length =
      (trace.startMemory options).cells.replay trace.log := by
    rw [Cells.sweep_of_le _ _ (Nat.zero_le _), Log.between_zero, List.take_length]
  rw [hmoved, hclamp, htimeline, Memory.replay, ← hall]
  rfl

/-- **Only the history of each address matters**, for any program, start values, start address and
policy.  Of two logs that are alike the check accepts both or none, and new timelines over them that
do not check them move to their ends and hold the same there.  Logs are alike that differ in the
order of the updates inside of a step, or in the order of two steps without a common address. -/
theorem alike_logs (trace : Trace) {options : Options} (hoff : options.checkLog = false)
    (listeners : Listeners ι σ) (kept : σ) :
    (∀ log log' : Log, log.Alike log' →
      ((trace.withLog log).Accepted options ↔ (trace.withLog log').Accepted options) ∧
      ∃ s s' : Session ι σ,
        start (Timeline.build (trace.withLog log) options) kept = .ok s ∧
        start (Timeline.build (trace.withLog log') options) kept = .ok s' ∧
        (moveTo listeners s log.length).1 = .ok log.length ∧
        (moveTo listeners s' log'.length).1 = .ok log'.length ∧
        (moveTo listeners s log.length).2.timeline.memory =
          (moveTo listeners s' log'.length).2.timeline.memory) ∧
    (∀ (before after : Log) (step step' : Step), step.Perm step' →
      (∀ s ∈ before ++ step :: after, (Step.addresses s).Nodup) →
      Log.Alike (before ++ step :: after) (before ++ step' :: after)) ∧
    (∀ (before after : Log) (step step' : Step),
      (∀ a ∈ Step.addresses step, a ∉ Step.addresses step') →
      (∀ s ∈ before ++ step :: step' :: after, (Step.addresses s).Nodup) →
      Log.Alike (before ++ step :: step' :: after) (before ++ step' :: step :: after)) := by
  refine ⟨fun log log' h => ⟨?_, ?_⟩, fun _ _ _ _ hperm honce => Log.alike_of_perm honce hperm,
    fun _ _ _ _ hapart honce => Log.alike_swap honce hapart⟩
  · unfold Trace.Accepted
    rw [Log.check_eq_ok_iff, Log.check_eq_ok_iff]
    exact h.fits_iff _
  · obtain ⟨s, hstart, hanswer, hmemory⟩ :=
      end_of_start (trace.withLog log) (.inr hoff) listeners kept
    obtain ⟨s', hstart', hanswer', hmemory'⟩ :=
      end_of_start (trace.withLog log') (.inr hoff) listeners kept
    refine ⟨s, s', hstart, hstart', hanswer, hanswer', ?_⟩
    -- the end is decided address by address, and the histories are the same
    have hsame : ((trace.withLog log).startMemory options).replay log =
        ((trace.withLog log').startMemory options).replay log' := by
      unfold Memory.replay
      rw [Cells.replay_congr _ h.history]
      rfl
    exact hmemory.trans (hsame.trans hmemory'.symm)

/-- The updates of a step in steps of their own, and the others exchanged. -/
theorem alike_logs_regrouped :
    let log : Log := [[⟨5, 0, 42⟩, ⟨6, 0, 1⟩], [⟨5, 42, 7⟩], [⟨accu, 0, 3⟩]]
    let log' : Log := [[⟨6, 0, 1⟩], [⟨5, 0, 42⟩], [⟨accu, 0, 3⟩], [⟨5, 42, 7⟩]]
    log.Alike log' ∧
      (({} : Trace).withLog log').Accepted {} ∧
      ∃ s s' : Session Empty Unit,
        start (Timeline.build (({} : Trace).withLog log) {}) () = .ok s ∧
        start (Timeline.build (({} : Trace).withLog log') {}) () = .ok s' ∧
        (moveTo (fun _ _ => .done) s log.length).2.timeline.memory =
          (moveTo (fun _ _ => .done) s' log'.length).2.timeline.memory := by
  intro log log'
  have halike : log.Alike log' := by
    refine ⟨by decide +zetaReduce, by decide +zetaReduce, fun a => ?_⟩
    by_cases h5 : 5 = a
    · subst h5; rfl
    by_cases h6 : 6 = a
    · subst h6; rfl
    by_cases h2 : accu = a
    · subst h2; rfl
    simp [log, log', Log.history, Step.history, h5, h6, h2]
  have hoff : ({} : Options).checkLog = false := rfl
  obtain ⟨haccepted, s, s', hstart, hstart', -, -, hmemory⟩ :=
    (alike_logs {} hoff (fun (_ : Empty) _ => .done) ()).1 log log' halike
  exact ⟨halike, haccepted.mp rfl, s, s', hstart, hstart', hmemory⟩

end Session

end Rewind
