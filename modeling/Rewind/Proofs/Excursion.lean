import Rewind.Proofs.Stream

/-!
# Excursions

A cursor that has gone from `p` to `q` may wander about between the two: when it is back at `q`, the
cells are the same again, whatever the log says.  The invariant is that going on to `q` at once
would give the cells of the direct way (`sweep_wander`): what the rest of the way writes, it writes
again, and what it does not write has not been touched since.
-/

namespace Rewind

/-- Wandering off from `c` to `d`, between the ends of a way from `p` to `q`, does not change what
the rest of the way leads to. -/
theorem Cells.sweep_wander {start cells : Cells} {log : Log} {p q c d : Nat}
    (hc : min p q ≤ c) (hc' : c ≤ max p q) (hd : min p q ≤ d) (hd' : d ≤ max p q)
    (h : cells.sweep log c q = start.sweep log p q) :
    (cells.sweep log c d).sweep log d q = start.sweep log p q := by
  -- either the stop lies on the way to `q`, or the walk has turned away from it
  by_cases hon : min c q ≤ d ∧ d ≤ max c q
  · rw [sweep_sweep cells log hon.1 hon.2, h]
  · -- going away from `q`: the way from `d` to `q` leads over `c`
    have hsplit : log.sweepWrites d c ++ log.sweepWrites c q = log.sweepWrites d q :=
      Log.sweepWrites_append log (by omega) (by omega)
    refine SortedMap.ext_get? fun a => ?_
    -- an address written on the way back has the value it gets there, and any other is not touched
    by_cases ha : a ∈ (log.sweepWrites d q).map Prod.fst
    · rw [← sweep_sweep start log hd hd', sweep_eq_insertAll _ log d q,
        sweep_eq_insertAll (start.sweep log p d) log d q]
      exact SortedMap.get?_insertAll_of_mem _ _ ha
    · have ha' := ha
      rw [← hsplit, List.map_append, List.mem_append, not_or, Log.mem_sweepWrites_comm] at ha'
      calc ((cells.sweep log c d).sweep log d q).get? a
          = (cells.sweep log c d).get? a := by
            rw [sweep_eq_insertAll _ log d q, SortedMap.get?_insertAll_of_notMem _ ha]
        _ = cells.get? a := by
            rw [sweep_eq_insertAll, SortedMap.get?_insertAll_of_notMem _ ha'.1]
        _ = (cells.sweep log c q).get? a := by
            rw [sweep_eq_insertAll, SortedMap.get?_insertAll_of_notMem _ ha'.2]
        _ = (start.sweep log p q).get? a := by rw [h]

namespace Session

variable {ι σ : Type} [DecidableEq ι] {listeners : Listeners ι σ}

/-- Calls that keep the cursor between `p` and `q` do not change what the rest of the way leads to.
-/
theorem run_wander (hlisteners : ∀ l m, (listeners l m).LeavesMemory) {start : Cells} {log : Log}
    {p q : Nat} {s : Session ι σ} (hs : s.Ready) (hlog : s.timeline.log = log)
    (h : s.timeline.memory.cells.sweep log s.timeline.cursor q = start.sweep log p q)
    (calls : List (Call ι))
    (hstay : ∀ made, made <+: calls → min p q ≤ (s.run listeners made).timeline.cursor ∧
      (s.run listeners made).timeline.cursor ≤ max p q) :
    (s.run listeners calls).timeline.memory.cells.sweep log
        (s.run listeners calls).timeline.cursor q = start.sweep log p q ∧
      (s.run listeners calls).timeline.memory.policy = s.timeline.memory.policy := by
  induction calls generalizing s with
  | nil => exact ⟨h, rfl⟩
  | cons c calls ih =>
    -- the walk stands between the two ends before the call and after it
    obtain ⟨hc, hc'⟩ := hstay [] List.nil_prefix
    obtain ⟨hd, hd'⟩ := hstay [c] (List.cons_prefix_cons.mpr ⟨rfl, List.nil_prefix⟩)
    have hlog' : (s.call listeners c).2.timeline.log = log := (log_call hs c).trans hlog
    have hnext : (s.call listeners c).2.timeline.memory.cells.sweep log
        (s.call listeners c).2.timeline.cursor q = start.sweep log p q := by
      rw [cells_call hlisteners hs c, hlog]
      exact Cells.sweep_wander hc hc' hd hd' h
    obtain ⟨hrest, hpolicy⟩ := ih (ready_call hs c) hlog' hnext fun made hmade =>
      hstay (c :: made) (List.cons_prefix_cons.mpr ⟨rfl, hmade⟩)
    refine ⟨hrest, hpolicy.trans ?_⟩
    rw [memory_call hlisteners hs c]
    rfl

/-- **Excursions are harmless**, over any log, in a ready session, as all reachable ones are
(`Reachable.ready`).  A move to a position of the log gets there unless a listener gives up or
touches the registry; and once it has got there, all further calls that keep the cursor between the
two ends of the move and end at its target leave the memory as the move has left it. -/
theorem excursion_harmless (hlisteners : ∀ l m, (listeners l m).LeavesMemory) {s : Session ι σ}
    (hs : s.Ready) {q : Nat} (hq : q ≤ s.timeline.count) :
    let p := s.timeline.cursor
    let s₁ := (moveTo listeners s q).2
    ((∀ l ∈ s.timeline.registry, ∀ m, (listeners l m).LeavesRegistry) →
      s.Unfailing listeners q →
      (moveTo listeners s q).1 = .ok q ∧ s₁.timeline.cursor = q) ∧
    (s₁.timeline.cursor = q → ∀ calls : List (Call ι),
      (∀ made, made <+: calls → min p q ≤ (s₁.run listeners made).timeline.cursor ∧
        (s₁.run listeners made).timeline.cursor ≤ max p q) →
      (s₁.run listeners calls).timeline.cursor = q →
      (s₁.run listeners calls).timeline.memory = s₁.timeline.memory) := by
  have hclamp : s.timeline.clamp q = q := Nat.min_eq_right hq
  refine ⟨fun hregistry hunfailing => ?_, fun hreached calls hstay hend => ?_⟩
  · have hanswer := hunfailing.answer hs hregistry
    have hcursor := (hunfailing.landed hs hregistry).1
    rw [hclamp] at hanswer hcursor
    exact ⟨hanswer, hcursor⟩
  · have hready : (moveTo listeners s q).2.Ready := ready_call hs (.moveTo q)
    have hlog : (moveTo listeners s q).2.timeline.log = s.timeline.log := log_call hs (.moveTo q)
    have hcells : (moveTo listeners s q).2.timeline.memory.cells =
        s.timeline.memory.cells.sweep s.timeline.log s.timeline.cursor q := by
      have hway := cells_call hlisteners hs (.moveTo q)
      change (moveTo listeners s q).2.timeline.memory.cells = Cells.sweep _ _ _
        (moveTo listeners s q).2.timeline.cursor at hway
      rwa [hreached] at hway
    have hthere : (moveTo listeners s q).2.timeline.memory.cells.sweep s.timeline.log
        (moveTo listeners s q).2.timeline.cursor q =
          s.timeline.memory.cells.sweep s.timeline.log s.timeline.cursor q := by
      -- having arrived there is nothing left of the way, so the cells are as the first move left
      -- them
      rw [hreached, Cells.sweep_self, hcells]
    obtain ⟨hwander, hpolicy⟩ := run_wander hlisteners hready hlog hthere calls hstay
    rw [hend, Cells.sweep_self, ← hcells] at hwander
    exact Memory.ext hwander hpolicy

/-- Forth over a log that replays nowhere, and then back, forth and back between the two ends. -/
theorem excursion_harmless_zigzag :
    let listeners : Listeners Empty Unit := fun _ _ => .done
    let s : Session Empty Unit :=
      ⟨Timeline.ofTrace { log := [[⟨5, 9, 1⟩, ⟨5, 7, 2⟩], [⟨6, 3, 4⟩], [⟨5, 8, 3⟩]] } {}, (), []⟩
    let s₁ := (moveTo listeners s (2 : Nat)).2
    let calls : List (Call Empty) := [.moveTo 1, .moveTo 0, .moveBy 1, .moveBy (-1), .moveTo 2]
    s₁.timeline.memory.cells.entries = [(-2, 0), (-1, 0), (5, 2), (6, 4)] ∧
      (s₁.run listeners [.moveTo 1]).timeline.memory.cells.entries =
        [(-2, 0), (-1, 0), (5, 2), (6, 3)] ∧
      (s₁.run listeners calls).timeline.memory = s₁.timeline.memory := by
  intro listeners s s₁ calls
  have hlisteners : ∀ l m, (listeners l m).LeavesMemory := fun l => nomatch l
  have hs : s.Ready := ⟨rfl, Nat.zero_le _⟩
  have hthere : s₁.timeline.cursor = 2 := by decide +zetaReduce
  have hend : (s₁.run listeners calls).timeline.cursor = 2 := by decide +zetaReduce
  have hprefixes : ∀ k < 6,
      min s.timeline.cursor 2 ≤ (s₁.run listeners (calls.take k)).timeline.cursor ∧
        (s₁.run listeners (calls.take k)).timeline.cursor ≤ max s.timeline.cursor 2 := by
    decide +zetaReduce
  have hstay : ∀ made, made <+: calls →
      min s.timeline.cursor 2 ≤ (s₁.run listeners made).timeline.cursor ∧
        (s₁.run listeners made).timeline.cursor ≤ max s.timeline.cursor 2 := by
    intro made hmade
    rw [List.prefix_iff_eq_take.mp hmade]
    exact hprefixes _ (Nat.lt_succ_of_le hmade.length_le)
  have hq : 2 ≤ s.timeline.count := by decide +zetaReduce
  have hreturns : s₁.timeline.cursor = 2 → ∀ calls : List (Call Empty),
      (∀ made, made <+: calls → min s.timeline.cursor 2 ≤ (s₁.run listeners made).timeline.cursor ∧
        (s₁.run listeners made).timeline.cursor ≤ max s.timeline.cursor 2) →
      (s₁.run listeners calls).timeline.cursor = 2 →
      (s₁.run listeners calls).timeline.memory = s₁.timeline.memory :=
    (excursion_harmless hlisteners hs hq).2
  refine ⟨?_, ?_, hreturns hthere calls hstay hend⟩
  · decide +zetaReduce
  · decide +zetaReduce

end Session

end Rewind
