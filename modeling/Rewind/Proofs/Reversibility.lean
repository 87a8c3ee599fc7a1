import Rewind.Proofs.Fits
import Rewind.Proofs.Run

/-!
# What the check is for

Taking a step back restores what was read before it exactly if its updates recorded what was read
(`Step.reversible_iff`).  So among the logs whose steps write no address twice, the check accepts
those that can be gone over and back everywhere, and no others (`accepted_iff_reversible`): a log
that it refuses has a step whose way back changes what some address reads.
-/

namespace Rewind

/-- Going over a step that writes no address twice and back restores all reads exactly if the step
recorded what was read before it. -/
theorem Step.reversible_iff {m : Memory} {step : Step} (hnodup : step.addresses.Nodup) :
    (∀ a, ((m.setAll step.redos).setAll step.undos).get a = m.get a) ↔ Step.Fits m step := by
  have hundos : (step.undos.map Prod.fst).Nodup := by rwa [Step.map_fst_undos]
  -- what the way back writes is read afterwards
  have hwritten : ∀ u ∈ step,
      ((m.setAll step.redos).setAll step.undos).get u.address = .ok u.oldValue := by
    intro u hu
    have hcell : ((m.setAll step.redos).setAll step.undos).cells.get? u.address = some u.oldValue :=
      SortedMap.get?_insertAll_of_nodup _ (List.mem_map_of_mem (f := Update.undo) hu) hundos
    unfold Memory.get
    rw [hcell]
  constructor
  · intro h
    exact ⟨hnodup, fun u hu => (h u.address).symm.trans (hwritten u hu)⟩
  · intro h a
    -- an address of the step is written on the way back, and any other is not written at all
    by_cases ha : a ∈ step.addresses
    · obtain ⟨u, hu, rfl⟩ := List.mem_map.mp ha
      rw [hwritten u hu, h.old u hu]
    · refine Memory.get_eq_of_get? rfl ?_
      unfold Memory.setAll
      rw [SortedMap.get?_insertAll_of_notMem _ (by rwa [Step.map_fst_undos]),
        SortedMap.get?_insertAll_of_notMem _ (by rwa [Step.map_fst_redos])]

namespace Timeline

variable {ι : Type}

/-- A timeline that goes on from where it is. -/
theorem sweepTo_succ_memory {t : Timeline ι} {step : Step} (h : t.log[t.cursor]? = some step) :
    (t.sweepTo (t.cursor + 1)).memory = t.memory.setAll step.redos := by
  unfold sweepTo
  rw [Cells.sweep_succ _ le_rfl h, Cells.sweep_self]
  rfl

theorem sweepTo_pred_memory {t : Timeline ι} {p : Nat} {step : Step} (hp : t.cursor = p + 1)
    (h : t.log[p]? = some step) : (t.sweepTo p).memory = t.memory.setAll step.undos := by
  unfold sweepTo
  rw [hp, Cells.sweep_pred _ (Nat.lt_succ_self p) h, Cells.sweep_self]
  rfl

theorem sweepTo_of_zero_memory {t : Timeline ι} (h : t.cursor = 0) (p : Nat) :
    (t.sweepTo p).memory = t.memory.replay (t.log.take p) := by
  unfold sweepTo
  rw [h, Cells.sweep_of_le _ _ (Nat.zero_le p), Log.between_zero]
  rfl

theorem clamp_of_le {t : Timeline ι} {p : Nat} (h : p ≤ t.count) : t.clamp p = p :=
  Nat.min_eq_right h

end Timeline

namespace Session

variable {ι σ : Type} [DecidableEq ι]

/-- The calls that go to a step, over it, and back. -/
def overAndBack (p : Nat) : List (Call ι) := [.moveTo p, .moveTo (p + 1 : Nat), .moveTo p]

theorem call_moveTo_silent (listeners : Listeners ι σ) {s : Session ι σ} (hs : s.Ready)
    (hregistry : s.timeline.registry = []) {p : Nat} (hp : p ≤ s.timeline.count) :
    (s.call listeners (.moveTo p)).1 = .ok (some p) ∧
      (s.call listeners (.moveTo p)).2.timeline = s.timeline.sweepTo p := by
  obtain ⟨hanswer, htimeline⟩ := moveTo_silent listeners hs.idle hs.cursor_le hregistry p
  rw [Timeline.clamp_of_le hp] at hanswer htimeline
  refine ⟨?_, htimeline⟩
  show (moveTo listeners s p).1.map some = _
  rw [hanswer]
  rfl

/-- Going over a step and back when nobody hears. -/
theorem run_overAndBack (listeners : Listeners ι σ) {s : Session ι σ} (hs : s.Ready)
    (hregistry : s.timeline.registry = []) {p : Nat} (hp : p < s.timeline.count) :
    s.answers listeners (overAndBack p) = [.ok (some p), .ok (some (p + 1)), .ok (some p)] ∧
      (s.run listeners [.moveTo p]).timeline = s.timeline.sweepTo p ∧
      (s.run listeners (overAndBack p)).timeline =
        ((s.timeline.sweepTo p).sweepTo (p + 1)).sweepTo p := by
  obtain ⟨hanswer₁, htimeline₁⟩ := call_moveTo_silent listeners hs hregistry hp.le
  have hs₁ : (s.call listeners (.moveTo p)).2.Ready := ready_call hs _
  -- three calls in turn; named, or else each would be unfolded in the next
  set s₁ := (s.call listeners (.moveTo p)).2 with hdef₁
  obtain ⟨hanswer₂, htimeline₂⟩ := call_moveTo_silent listeners (p := p + 1) hs₁
    (by rw [htimeline₁]; exact hregistry) (by rw [htimeline₁]; exact hp)
  have hs₂ : (s₁.call listeners (.moveTo (p + 1 : Nat))).2.Ready := ready_call hs₁ _
  set s₂ := (s₁.call listeners (.moveTo (p + 1 : Nat))).2 with hdef₂
  obtain ⟨hanswer₃, htimeline₃⟩ := call_moveTo_silent listeners (p := p) hs₂
    (by rw [htimeline₂, htimeline₁]; exact hregistry)
    (by rw [htimeline₂, htimeline₁]; exact hp.le)
  refine ⟨?_, htimeline₁, ?_⟩
  · unfold overAndBack answers answers answers answers
    rw [hanswer₁, ← hdef₁, hanswer₂, ← hdef₂, hanswer₃]
  · show (s₂.call listeners (.moveTo p)).2.timeline = _
    rw [htimeline₃, htimeline₂, htimeline₁]

/-- **The check accepts exactly the logs that can be gone back over**, among those whose steps write
no address twice.  On a new timeline that did not check its log, the moves to any step, over it and
back all return; they restore what every address reads, for every step, if and only if the check
accepts the log. -/
theorem accepted_iff_reversible {trace : Trace} {options : Options}
    (hoff : options.checkLog = false) (hnodup : ∀ step ∈ trace.log, (Step.addresses step).Nodup)
    (listeners : Listeners ι σ) (kept : σ) :
    ∃ s₀ : Session ι σ, start (Timeline.build trace options) kept = .ok s₀ ∧
      (∀ p < trace.log.length, s₀.answers listeners (overAndBack p) =
        [.ok (some p), .ok (some (p + 1)), .ok (some p)]) ∧
      (trace.Accepted options ↔ ∀ p < trace.log.length, ∀ a,
        (s₀.run listeners (overAndBack p)).timeline.get a =
          (s₀.run listeners [.moveTo p]).timeline.get a) := by
  obtain ⟨s₀, hstart⟩ := exists_start (ι := ι) (.inr hoff) kept
  have hready := ready_of_start hstart
  have htimeline := timeline_of_start hstart
  have hregistry : s₀.timeline.registry = [] := by rw [htimeline]; rfl
  have hlog : s₀.timeline.log = trace.log := by rw [htimeline]; rfl
  have hrun : ∀ p < trace.log.length, _ := fun p hp =>
    run_overAndBack listeners hready hregistry (p := p) (by rw [Timeline.count, hlog]; exact hp)
  refine ⟨s₀, hstart, fun p hp => (hrun p hp).1, ?_⟩
  -- step by step, the two sides are those of one step
  have hreads : ∀ p (hp : p < trace.log.length),
      (∀ a, (s₀.run listeners (overAndBack p)).timeline.get a =
        (s₀.run listeners [.moveTo p]).timeline.get a) ↔
      Step.Fits ((trace.startMemory options).replay (trace.log.take p)) trace.log[p] := by
    intro p hp
    have hstep : trace.log[p]? = some trace.log[p] := List.getElem?_eq_getElem hp
    have hbefore : (s₀.timeline.sweepTo p).memory =
        (trace.startMemory options).replay (trace.log.take p) := by
      rw [Timeline.sweepTo_of_zero_memory (by rw [htimeline]; rfl), hlog, htimeline]
      rfl
    have hover : ((s₀.timeline.sweepTo p).sweepTo (p + 1)).memory =
        (s₀.timeline.sweepTo p).memory.setAll (Step.redos trace.log[p]) :=
      Timeline.sweepTo_succ_memory (t := s₀.timeline.sweepTo p) (by rw [← hstep, ← hlog]; rfl)
    have hback : (((s₀.timeline.sweepTo p).sweepTo (p + 1)).sweepTo p).memory =
        ((s₀.timeline.sweepTo p).sweepTo (p + 1)).memory.setAll (Step.undos trace.log[p]) :=
      Timeline.sweepTo_pred_memory rfl (by rw [← hstep, ← hlog]; rfl)
    obtain ⟨-, hat, hafter⟩ := hrun p hp
    rw [hat, hafter, ← Step.reversible_iff (hnodup _ (List.getElem_mem hp))]
    unfold Timeline.get
    rw [hback, hover, hbefore]
  unfold Trace.Accepted
  rw [Log.check_eq_ok_iff, Log.fits_iff]
  constructor
  · intro h p hp
    exact (hreads p hp).mpr (h p _ (List.getElem?_eq_getElem hp))
  · intro h p step hstep
    obtain ⟨hp, rfl⟩ := List.getElem?_eq_some_iff.mp hstep
    exact (hreads p hp).mp (h p hp)

/-- The log of a step whose old value is not the one that is there cannot be gone back over. -/
theorem accepted_iff_reversible_stale :
    ∃ s₀ : Session Empty Unit,
      start (Timeline.build { log := [[⟨5, 3, 42⟩]] } {}) () = .ok s₀ ∧
        ¬ ∀ p < 1, ∀ a,
          (s₀.run (fun _ _ => .done) (overAndBack p)).timeline.get a =
            (s₀.run (fun _ _ => .done) [.moveTo p]).timeline.get a := by
  have hnodup : ∀ step ∈ ({ log := [[⟨5, 3, 42⟩]] } : Trace).log, (Step.addresses step).Nodup := by
    decide
  have hoff : ({} : Options).checkLog = false := rfl
  obtain ⟨s₀, hstart, -, hiff⟩ := accepted_iff_reversible hoff hnodup
    (fun (_ : Empty) _ => .done) ()
  refine ⟨s₀, hstart, fun h => ?_⟩
  have haccepted := hiff.mpr h
  cases haccepted

end Session

end Rewind
