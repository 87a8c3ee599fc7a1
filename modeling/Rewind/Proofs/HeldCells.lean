import Rewind.Proofs.Fits
import Rewind.Proofs.Run

/-!
# What the cells hold

The cells of a timeline are those of a replay up to the cursor, except that taking steps back leaves
zeros behind: an address that got its first value from a step that was taken back stays in the map.
`Cells.HeldAt` says so of cells with the cursor at `p` that has been as far as `top`, and
`HeldAt.sweep` carries it over any way of the cursor over a log that fits.  `run_holds_cells` is the
invariant of all runs, whatever the listeners answer.
-/

namespace Rewind

/-- What cells hold with the cursor at `p` that has been as far as `top`. -/
structure Cells.HeldAt (start : Cells) (log : Log) (p top : Nat) (cells : Cells) : Prop where
  /-- The value of the replay, where the start or a step before the cursor put one. -/
  replayed : ∀ a, start.contains a = true ∨ a ∈ Log.addresses (log.take p) →
    ∃ v, (start.replay (log.take p)).get? a = some v ∧ cells.get? a = some v
  /-- Zero, where only a step between the cursor and the highest position put a value. -/
  leftover : ∀ a, ¬ (start.contains a = true ∨ a ∈ Log.addresses (log.take p)) →
    a ∈ (log.between p top).addresses → cells.get? a = some 0
  /-- Nothing elsewhere. -/
  unwritten : ∀ a, ¬ (start.contains a = true ∨ a ∈ Log.addresses (log.take p)) →
    a ∉ (log.between p top).addresses → cells.get? a = none

/-! ## Logs that fit -/

theorem Step.Fits.getD {m : Memory} {step : Step} (h : Step.Fits m step) {u : Update}
    (hu : u ∈ step) : (m.cells.get? u.address).getD 0 = u.oldValue := by
  have hget := h.old u hu
  cases hpolicy : m.policy with
  | zero =>
    rw [Memory.get_of_zero hpolicy] at hget
    exact Except.ok.inj hget
  | raise => rw [Memory.get_eq_ok_of_raise hpolicy hget, Option.getD_some]

/-- Under the policy of faults a log that fits writes where there is a value already. -/
theorem Log.Fits.contains {m : Memory} {log : Log} (h : log.Fits m) (hpolicy : m.policy = .raise)
    {a : Int} (ha : a ∈ log.addresses) : m.cells.contains a = true := by
  induction log generalizing m with
  | nil => simp [addresses] at ha
  | cons step rest ih =>
    have hstep : ∀ b ∈ Step.addresses step, m.cells.contains b = true := by
      intro b hb
      obtain ⟨u, hu, rfl⟩ := List.mem_map.mp hb
      rw [SortedMap.contains, Memory.get_eq_ok_of_raise hpolicy (h.1.old u hu), Option.isSome_some]
    rcases mem_addresses_cons.mp ha with ha | ha
    · exact hstep a ha
    · have hrest := ih h.2 hpolicy ha
      rw [Memory.setAll, SortedMap.contains_insertAll, Step.map_fst_redos] at hrest
      exact hrest.elim id (hstep a)

namespace Cells

variable {start cells : Cells} {log : Log} {p top : Nat}

/-- The same in one equation. -/
theorem heldAt_iff :
    HeldAt start log p top cells ↔ ∀ a, cells.get? a =
      ((start.replay (log.take p)).get? a).or
        (if a ∈ (log.between p top).addresses then some 0 else none) := by
  have hdefined : ∀ a, ((start.replay (log.take p)).get? a).isSome = true ↔
      (start.contains a = true ∨ a ∈ Log.addresses (log.take p)) :=
    fun a => contains_replay start (log.take p) a
  constructor
  · intro h a
    -- either the replayed cells define the address, or a left-over zero may stand there
    by_cases hd : start.contains a = true ∨ a ∈ Log.addresses (log.take p)
    · obtain ⟨v, hv, hcell⟩ := h.replayed a hd
      rw [hcell, hv, Option.some_or]
    · have hnone : (start.replay (log.take p)).get? a = none := by
        rw [← Option.not_isSome_iff_eq_none, hdefined]
        exact hd
      rw [hnone, Option.none_or]
      split
      · exact h.leftover a hd ‹_›
      · exact h.unwritten a hd ‹_›
  · intro h
    have hnone : ∀ a, ¬ (start.contains a = true ∨ a ∈ Log.addresses (log.take p)) →
        (start.replay (log.take p)).get? a = none := by
      intro a hd
      rw [← Option.not_isSome_iff_eq_none, hdefined]
      exact hd
    refine ⟨fun a hd => ?_, fun a hd hw => ?_, fun a hd hw => ?_⟩
    · obtain ⟨v, hv⟩ := Option.isSome_iff_exists.mp ((hdefined a).mpr hd)
      exact ⟨v, hv, by rw [h a, hv, Option.some_or]⟩
    · rw [h a, hnone a hd, if_pos hw, Option.none_or]
    · rw [h a, hnone a hd, if_neg hw, Option.none_or]

theorem heldAt_start (log : Log) (start : Cells) : HeldAt start log 0 0 start := by
  rw [heldAt_iff]
  intro a
  rw [Log.between_of_le log le_rfl, List.take_zero, replay_nil]
  simp [Log.addresses]

/-! ## One step -/

/-- Going over a step, the cursor may reach a new height. -/
theorem HeldAt.replayStep (h : HeldAt start log p top cells) (hp : p ≤ top) {step : Step}
    (hstep : log[p]? = some step) :
    HeldAt start log (p + 1) (max top (p + 1)) (cells.replayStep step) := by
  rw [heldAt_iff] at h ⊢
  intro a
  rw [replay_take_succ start hstep]
  -- what the step writes is as replayed on both sides; what it leaves is as it was before
  by_cases ha : a ∈ Step.addresses step
  · have hw : a ∈ step.redos.map Prod.fst := by rwa [Step.map_fst_redos]
    have hsome :=
      (SortedMap.contains_insertAll (start.replay (log.take p)) step.redos a).mpr (.inr hw)
    obtain ⟨v, hv⟩ := Option.isSome_iff_exists.mp hsome
    unfold Cells.replayStep
    rw [SortedMap.get?_insertAll_of_mem cells (start.replay (log.take p)) hw, hv, Option.some_or]
  · have hw : a ∉ step.redos.map Prod.fst := by rwa [Step.map_fst_redos]
    -- the step itself does not write the address, so it does not matter which side it is on
    have hbetween : a ∈ (log.between (p + 1) (max top (p + 1))).addresses ↔
        a ∈ (log.between p top).addresses := by
      by_cases hlt : p < top
      · rw [Nat.max_eq_left hlt, Log.between_cons hlt hstep, Log.mem_addresses_cons]
        exact ⟨.inr, fun h => h.resolve_left ha⟩
      · rw [Log.between_of_le log (by omega), Log.between_of_le log (by omega)]
    unfold Cells.replayStep
    rw [SortedMap.get?_insertAll_of_notMem _ hw, SortedMap.get?_insertAll_of_notMem _ hw, h a]
    simp only [hbetween]

/-- Taking back a step that fits restores its old values, and zero where there was none. -/
theorem HeldAt.undoStep (h : HeldAt start log (p + 1) top cells) (hp : p + 1 ≤ top) {step : Step}
    (hstep : log[p]? = some step) {policy : MissingCellPolicy}
    (hfits : Step.Fits ⟨start.replay (log.take p), policy⟩ step) :
    HeldAt start log p top (cells.undoStep step) := by
  rw [heldAt_iff] at h ⊢
  intro a
  have hcons : log.between p top = step :: log.between (p + 1) top := Log.between_cons hp hstep
  -- an undone address holds the old value, and that is the replayed one or a left-over zero
  by_cases ha : a ∈ Step.addresses step
  · obtain ⟨u, hu, rfl⟩ := List.mem_map.mp ha
    have hwritten : (cells.undoStep step).get? u.address = some u.oldValue := by
      have hnodup : (step.undos.map Prod.fst).Nodup := by
        rw [Step.map_fst_undos]
        exact hfits.nodup
      have hmem : u.undo ∈ step.undos := List.mem_map_of_mem hu
      exact SortedMap.get?_insertAll_of_nodup cells hmem hnodup
    have hin : u.address ∈ (log.between p top).addresses := by
      rw [hcons, Log.mem_addresses_cons]
      exact .inl ha
    have hold := hfits.getD hu
    rw [hwritten, if_pos hin, ← hold]
    cases (start.replay (log.take p)).get? u.address <;> rfl
  · have hw : a ∉ step.undos.map Prod.fst := by rwa [Step.map_fst_undos]
    have hw' : a ∉ step.redos.map Prod.fst := by rwa [Step.map_fst_redos]
    have hbetween : a ∈ (log.between p top).addresses ↔
        a ∈ (log.between (p + 1) top).addresses := by
      rw [hcons, Log.mem_addresses_cons]
      exact ⟨fun h => h.resolve_left ha, .inr⟩
    have hcell := h a
    rw [replay_take_succ start hstep, Cells.replayStep,
      SortedMap.get?_insertAll_of_notMem _ hw'] at hcell
    unfold Cells.undoStep
    rw [SortedMap.get?_insertAll_of_notMem _ hw, hcell]
    simp only [hbetween]

/-! ## A way of the cursor -/

theorem HeldAt.sweep_forward (h : HeldAt start log p top cells) (hp : p ≤ top) (n : Nat)
    (hn : p + n ≤ log.length) :
    HeldAt start log (p + n) (max top (p + n)) (cells.sweep log p (p + n)) := by
  induction n with
  | zero =>
    rw [Nat.add_zero, sweep_self, Nat.max_eq_left hp]
    exact h
  | succ n ih =>
    have hstep : log[p + n]? = some log[p + n] := List.getElem?_eq_getElem (by omega)
    have hnext := (ih (by omega)).replayStep (Nat.le_max_right ..) hstep
    have hmax : max (max top (p + n)) (p + n + 1) = max top (p + (n + 1)) := by omega
    rw [hmax, ← sweep_succ cells (by omega) hstep] at hnext
    exact hnext

theorem HeldAt.sweep_backward (h : HeldAt start log p top cells) (hp : p ≤ top)
    {policy : MissingCellPolicy} (hfits : log.Fits ⟨start, policy⟩) (hlen : p ≤ log.length)
    (n q : Nat) (hn : q + n = p) : HeldAt start log q top (cells.sweep log p q) := by
  induction n generalizing q with
  | zero =>
    obtain rfl : q = p := hn
    rw [sweep_self]
    exact h
  | succ n ih =>
    have hstep : log[q]? = some log[q] := List.getElem?_eq_getElem (by omega)
    have hstepFits := Log.fits_iff.mp hfits q _ hstep
    have hnext := (ih (q + 1) (by omega)).undoStep (by omega) hstep hstepFits
    rw [← sweep_pred cells (by omega) hstep] at hnext
    exact hnext

/-- Any way of the cursor over a log that fits. -/
theorem HeldAt.sweep (h : HeldAt start log p top cells) (hp : p ≤ top)
    {policy : MissingCellPolicy} (hfits : log.Fits ⟨start, policy⟩) (hlen : p ≤ log.length)
    {q : Nat} (hq : q ≤ log.length) : HeldAt start log q (max top q) (cells.sweep log p q) := by
  by_cases hle : p ≤ q
  · have hforward := h.sweep_forward hp (q - p) (by omega)
    rwa [Nat.add_sub_cancel' hle] at hforward
  · rw [Nat.max_eq_left (by omega)]
    exact h.sweep_backward hp hfits hlen (p - q) q (by omega)

end Cells

/-! ## All runs -/

namespace Session

variable {ι σ : Type} [DecidableEq ι] {listeners : Listeners ι σ}

/-- What the invariant says of one timeline whose log started from `m`. -/
structure Holds (m : Memory) (log : Log) (top : Nat) (t : Timeline ι) : Prop where
  cursor_le : t.cursor ≤ top
  top_le : top ≤ log.length
  log_eq : t.log = log
  policy_eq : t.memory.policy = m.policy
  cells : Cells.HeldAt m.cells log t.cursor top t.memory.cells

theorem Holds.run (hlisteners : ∀ l n, (listeners l n).LeavesMemory) {m : Memory} {log : Log}
    (hfits : log.Fits m) {top : Nat} {s : Session ι σ} (hs : s.Ready)
    (h : Holds m log top s.timeline) (calls : List (Call ι)) :
    Holds m log (max top (s.top listeners calls)) (s.run listeners calls).timeline := by
  obtain ⟨htop, hcursor, hpolicy, hcells⟩ := run_keeps_top hlisteners log
    (P := fun top c m' =>
      c ≤ top ∧ m'.policy = m.policy ∧ Cells.HeldAt m.cells log c top m'.cells)
    (fun top c d m' hc htop hd ⟨_, hpolicy, hcells⟩ =>
      ⟨Nat.le_max_right .., hpolicy, hcells.sweep hc hfits (hc.trans htop) hd⟩)
    hs h.log_eq h.cursor_le h.top_le ⟨h.cursor_le, h.policy_eq, h.cells⟩ calls
  exact ⟨hcursor, htop, (log_run hs calls).trans h.log_eq, hpolicy, hcells⟩

theorem run_holds {trace : Trace} {options : Options} (haccepted : trace.Accepted options)
    (hlisteners : ∀ l n, (listeners l n).LeavesMemory) {kept : σ} {s₀ : Session ι σ}
    (hstart : start (Timeline.build trace options) kept = .ok s₀) (calls : List (Call ι)) :
    Holds (trace.startMemory options) trace.log (s₀.top listeners calls)
      (s₀.run listeners calls).timeline := by
  have htimeline := timeline_of_start hstart
  have hinitial : Holds (trace.startMemory options) trace.log 0 s₀.timeline := by
    rw [htimeline]
    exact ⟨le_rfl, Nat.zero_le _, rfl, rfl, Cells.heldAt_start ..⟩
  have hrun := hinitial.run hlisteners (Log.check_eq_ok_iff.mp haccepted) (ready_of_start hstart)
    calls
  rwa [Nat.max_eq_right (Nat.zero_le _)] at hrun

/-- **The cells after any run** over a log that the check accepts, whatever listeners answer: those
of the replay up to the cursor, zeros left over up to the highest position, and nothing else.  Under
the policy of faults nothing is ever left over. -/
theorem run_holds_cells {trace : Trace} {options : Options} (haccepted : trace.Accepted options)
    (hlisteners : ∀ l n, (listeners l n).LeavesMemory) (kept : σ) (calls : List (Call ι)) :
    ∃ s₀ : Session ι σ, start (Timeline.build trace options) kept = .ok s₀ ∧
      (s₀.run listeners calls).timeline.cursor ≤ s₀.top listeners calls ∧
      s₀.top listeners calls ≤ trace.log.length ∧
      Cells.HeldAt (trace.startMemory options).cells trace.log
        (s₀.run listeners calls).timeline.cursor (s₀.top listeners calls)
        (s₀.run listeners calls).timeline.memory.cells ∧
      (options.missingCellPolicy = .raise → (s₀.run listeners calls).timeline.memory.cells =
        (trace.startMemory options).cells.replay
          (trace.log.take (s₀.run listeners calls).timeline.cursor)) := by
  have hfits : trace.log.Fits (trace.startMemory options) := Log.check_eq_ok_iff.mp haccepted
  obtain ⟨s₀, hstart⟩ := exists_start (ι := ι) (.inl haccepted) kept
  have hrun := run_holds haccepted hlisteners hstart calls
  refine ⟨s₀, hstart, hrun.cursor_le, hrun.top_le, hrun.cells, fun hraise => ?_⟩
  refine SortedMap.ext_get? fun a => ?_
  by_cases hd : (trace.startMemory options).cells.contains a = true ∨
      a ∈ Log.addresses (trace.log.take (s₀.run listeners calls).timeline.cursor)
  · obtain ⟨v, hv, hcell⟩ := hrun.cells.replayed a hd
    rw [hcell, hv]
  · -- an address that only later steps write has a value from the start
    have hnot : a ∉ (trace.log.between (s₀.run listeners calls).timeline.cursor
        (s₀.top listeners calls)).addresses := by
      intro ha
      obtain ⟨step, hstep, hin⟩ := Log.mem_addresses.mp ha
      have hmem : step ∈ trace.log := List.mem_of_mem_take (List.mem_of_mem_drop hstep)
      exact hd (.inl (hfits.contains hraise (Log.mem_addresses.mpr ⟨step, hmem, hin⟩)))
    rw [hrun.cells.unwritten a hd hnot, eq_comm, ← Option.not_isSome_iff_eq_none]
    exact fun hsome => hd ((Cells.contains_replay _ _ a).mp hsome)

/-- A run to the end and back, with one listener that asks for a move and passes on the refusal, and
one that returns: the cell that both steps wrote is left over. -/
theorem run_holds_cells_refused_move :
    ∃ s₀ : Session Bool Unit,
      start (Timeline.build { log := [[⟨5, 0, 42⟩], [⟨5, 42, 7⟩]] } {}) () = .ok s₀ ∧
        Cells.HeldAt (Log.startMemory [] .empty 0 .zero).cells [[⟨5, 0, 42⟩], [⟨5, 42, 7⟩]] 0 2
          (s₀.run (fun l _ => if l then .moveTo 7 Reaction.finish else .done)
            [.moveTo 1, .addListener true, .moveTo 9, .removeListener true, .moveTo 2,
              .addListener false, .moveBy (-3)]).timeline.memory.cells := by
  have haccepted : Trace.Accepted { log := [[⟨5, 0, 42⟩], [⟨5, 42, 7⟩]] } {} := rfl
  have hlisteners : ∀ (l : Bool) (_ : Notification),
      (if l then .moveTo 7 Reaction.finish else .done : Reaction Bool Unit).LeavesMemory := by
    intro l _
    cases l with
    | false => exact .done
    | true =>
      refine .moveTo 7 fun answer => ?_
      cases answer with
      | ok _ => exact .done
      | error e => exact .fail e
  obtain ⟨s₀, hstart, -, -, hcells, -⟩ := run_holds_cells haccepted hlisteners () [.moveTo 1,
    .addListener true, .moveTo 9, .removeListener true, .moveTo 2, .addListener false, .moveBy (-3)]
  refine ⟨s₀, hstart, ?_⟩
  cases hstart
  exact hcells

end Session

end Rewind
