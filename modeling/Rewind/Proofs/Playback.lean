import Rewind.Proofs.HeldCells
import Rewind.Proofs.LastWrite
import Rewind.Proofs.Stream

/-!
# Playing a log back

Going back over a log is going forward over the reversed log.  The two ways make the same writes in
the same order (`Log.sweepWrites_reversed`), so two timelines whose cursors add up to the length of
the log stay opposite in opposite moves (`Timeline.Opposes.sweepTo`).  `Opposed.move` is one pair of
moves of two sessions, with what is heard of it; `Opposed.moves` follows by induction on the moves.
A log that fits fits in reverse from where it ends (`Log.Fits.reversed`), which is where a run to
its end leaves the cells (`run_to_end`).
-/

namespace Rewind

/-! ## The reversed log -/

namespace Step

@[simp] theorem redos_reverted (step : Step) :
    Step.redos (step.map Update.reverted) = step.undos := by
  simp [redos, undos, Function.comp_def]

@[simp] theorem undos_reverted (step : Step) :
    Step.undos (step.map Update.reverted) = step.redos := by
  simp [redos, undos, Function.comp_def]

@[simp] theorem addresses_reverted (step : Step) :
    Step.addresses (step.map Update.reverted) = step.addresses := by
  simp [addresses, Function.comp_def]

end Step

namespace Log

theorem reversed_redos (log : Log) :
    log.reversed.flatMap Step.redos = log.reverse.flatMap Step.undos := by
  rw [reversed, ← List.map_reverse, List.flatMap_map]
  simp only [Step.redos_reverted]

theorem reversed_undos (log : Log) :
    log.reversed.reverse.flatMap Step.undos = log.flatMap Step.redos := by
  rw [reversed, List.reverse_reverse, List.flatMap_map]
  simp only [Step.undos_reverted]

theorem getElem?_reversed (log : Log) {i : Nat} (hi : i < log.length) :
    log.reversed[log.length - 1 - i]? = log[i]?.map fun step => step.map Update.reverted := by
  have hlen : (log.map fun step => step.map Update.reverted).length = log.length :=
    List.length_map ..
  have hback : log.length - 1 - (log.length - 1 - i) = i := by omega
  rw [reversed, List.getElem?_reverse (by omega), List.getElem?_map, hlen, hback]

theorem between_reversed {log : Log} {i j : Nat} (hij : i ≤ j) (hj : j ≤ log.length) :
    log.reversed.between (log.length - j) (log.length - i) = reversed (log.between i j) := by
  have hlen : (log.map fun step => step.map Update.reverted).length = log.length :=
    List.length_map ..
  have htake : log.length - (log.length - i) = i := by omega
  have hdrop : log.length - i - (log.length - j) = j - i := by omega
  unfold between reversed
  rw [List.take_reverse, hlen, htake, List.drop_reverse, List.length_drop, hlen, hdrop,
    ← List.drop_take, List.map_drop, List.map_take]

/-- The way between two positions of a log and that between the opposite positions of the reversed
log make the same writes. -/
theorem sweepWrites_reversed {log : Log} {c d : Nat} (hc : c ≤ log.length) (hd : d ≤ log.length) :
    log.reversed.sweepWrites (log.length - c) (log.length - d) = log.sweepWrites c d := by
  rcases Nat.le_total c d with hle | hle
  · rw [sweepWrites_of_le log hle, sweepWrites_of_ge _ (by omega), between_reversed hle hd,
      reversed_undos]
  · rw [sweepWrites_of_ge log hle, sweepWrites_of_le _ (by omega), between_reversed hle hc,
      reversed_redos]

end Log

theorem Cells.sweep_reversed (cells : Cells) {log : Log} {c d : Nat} (hc : c ≤ log.length)
    (hd : d ≤ log.length) :
    cells.sweep log.reversed (log.length - c) (log.length - d) = cells.sweep log c d := by
  rw [sweep_eq_insertAll, sweep_eq_insertAll, Log.sweepWrites_reversed hc hd]

/-! ## A log that fits, from its end -/

namespace Cells

variable {start : Cells} {log : Log}

/-- Nothing is left over at the end of the log. -/
theorem heldAt_length_iff {cells : Cells} :
    HeldAt start log log.length log.length cells ↔ cells = start.replay log := by
  rw [heldAt_iff, Log.between_of_le log le_rfl, List.take_length]
  have hnone : ∀ a, (if a ∈ Log.addresses [] then some (0 : Int) else none) = none := by
    intro a
    rw [if_neg (by simp [Log.addresses])]
  simp only [hnone, Option.or_none]
  constructor
  · intro h
    exact SortedMap.ext_get? h
  · rintro rfl a
    rfl

/-- A step that fits, taken in reverse, fits the cells behind it. -/
theorem HeldAt.fits_reverted {cells : Cells} {p top : Nat} {policy : MissingCellPolicy}
    (h : HeldAt start log (p + 1) top cells) {step : Step} (hstep : log[p]? = some step)
    (hnodup : step.addresses.Nodup) :
    Step.Fits ⟨cells, policy⟩ (step.map Update.reverted) := by
  refine ⟨by rwa [Step.addresses_reverted], fun u' hu' => ?_⟩
  obtain ⟨u, hu, rfl⟩ := List.mem_map.mp hu'
  have hredo : u.redo ∈ step.redos := List.mem_map_of_mem hu
  have hreplayed : (start.replay (log.take (p + 1))).get? u.address = some u.newValue := by
    rw [replay_take_succ start hstep]
    exact SortedMap.get?_insertAll_of_nodup _ hredo (by rwa [Step.map_fst_redos])
  -- the step has written the address, so the replayed cells define it
  have hdefined : (start.replay (log.take (p + 1))).contains u.address = true := by
    rw [SortedMap.contains, hreplayed, Option.isSome_some]
  obtain ⟨v, hv, hcell⟩ := h.replayed u.address ((contains_replay _ _ _).mp hdefined)
  obtain rfl : u.newValue = v := Option.some.inj (hreplayed.symm.trans hv)
  show Memory.get ⟨cells, policy⟩ u.address = .ok u.newValue
  unfold Memory.get
  rw [hcell]

end Cells

/-- **A log that fits fits in reverse** from where it ends, under the same policy. -/
theorem Log.Fits.reversed {start : Cells} {log : Log} {policy : MissingCellPolicy}
    (h : log.Fits ⟨start, policy⟩) : log.reversed.Fits ⟨start.replay log, policy⟩ := by
  rw [fits_iff]
  intro k step' hstep'
  have hk : k < log.length := by
    rw [← length_reversed log]
    exact (List.getElem?_eq_some_iff.mp hstep').1
  -- the step in front of position `p + 1`, which is `k` steps from the end
  obtain ⟨p, hp⟩ : ∃ p, p + 1 + k = log.length := ⟨log.length - 1 - k, by omega⟩
  have hindex : log.length - 1 - p = k := by omega
  have hmirror := log.getElem?_reversed (show p < log.length by omega)
  rw [hindex, hstep'] at hmirror
  obtain ⟨step, hstep, rfl⟩ := Option.map_eq_some_iff.mp hmirror.symm
  -- at the end of the log the cells are held at full height, and sweeping back keeps them so
  have hend : Cells.HeldAt start log log.length log.length (start.replay log) :=
    Cells.heldAt_length_iff.mpr rfl
  have hheld := hend.sweep le_rfl h le_rfl (q := p + 1) (by omega)
  -- replaying the first `k` reverted steps is undoing the last `k` steps
  have hcells : (start.replay log).replay (log.reversed.take k) =
      (start.replay log).sweep log log.length (p + 1) := by
    have hstart : log.length - log.length = 0 := Nat.sub_self _
    have hreached : log.length - (p + 1) = k := by omega
    rw [← Cells.sweep_reversed _ le_rfl (show p + 1 ≤ log.length by omega), hstart, hreached,
      Cells.sweep_of_le _ _ (Nat.zero_le k), between_zero]
  show Step.Fits ⟨(start.replay log).replay (log.reversed.take k), policy⟩ _
  rw [hcells]
  exact hheld.fits_reverted hstep (fits_iff.mp h p step hstep).nodup

/-! ## Starting from a snapshot -/

/-- Both registers that always hold a value have one. -/
structure Cells.Equipped (cells : Cells) : Prop where
  iar : cells.contains iar = true
  accu : cells.contains accu = true

theorem Cells.Equipped.sweep {cells : Cells} (h : cells.Equipped) (log : Log) (c d : Nat) :
    (cells.sweep log c d).Equipped := by
  constructor
  · rw [contains_sweep]
    exact .inl h.iar
  · rw [contains_sweep]
    exact .inl h.accu

theorem Cells.Equipped.replay {cells : Cells} (h : cells.Equipped) (log : Log) :
    (cells.replay log).Equipped := by
  constructor
  · rw [contains_replay]
    exact .inl h.iar
  · rw [contains_replay]
    exact .inl h.accu

namespace Log

theorem equipped_startMemory (commands : List Command) (initialValues : Cells) (start : Int)
    (policy : MissingCellPolicy) :
    (startMemory commands initialValues start policy).cells.Equipped := by
  constructor
  · exact contains_startMemory.mpr (.inr (.inr (.inl rfl)))
  · exact contains_startMemory.mpr (.inr (.inr (.inr rfl)))

/-- Given cells are their own start memory. -/
theorem startMemory_of_equipped {cells : Cells} (h : cells.Equipped) {start : Int}
    (hstart : cells.get? iar = some start) (policy : MissingCellPolicy) :
    startMemory [] cells start policy = ⟨cells, policy⟩ := by
  have hprogram : (SortedMap.ofList []).insertAll cells.entries = cells :=
    SortedMap.ofList_entries cells
  unfold startMemory Memory.ofProgram
  rw [List.map_nil, hprogram, SortedMap.insertNew_of_contains _ h.iar,
    SortedMap.insertNew_of_contains _ h.accu]
  unfold Memory.set
  dsimp only
  rw [SortedMap.insert_of_get? hstart]

end Log

/-- A trace that plays back a timeline from where it is: the log in reverse, from the cells of the
timeline, with no program, and with the start label at the address in the instruction-address
register. -/
structure Trace.PlaysBack {ι : Type} (trace : Trace) (startLabel : Text) (t : Timeline ι) :
    Prop where
  log : trace.log = t.log.reversed
  commands : trace.commands = []
  initialValues : trace.initialValues = t.memory.cells
  start : trace.labels.get? startLabel = t.memory.cells.get? iar

theorem Trace.PlaysBack.startMemory {ι : Type} {trace : Trace} {startLabel : Text}
    {t : Timeline ι} (h : trace.PlaysBack startLabel t) (ht : t.memory.cells.Equipped)
    (policy : MissingCellPolicy) :
    Log.startMemory trace.commands trace.initialValues (startAddress trace.labels startLabel)
      policy = ⟨t.memory.cells, policy⟩ := by
  obtain ⟨start, hstart⟩ := Option.isSome_iff_exists.mp ht.iar
  have haddress : startAddress trace.labels startLabel = start := by
    rw [startAddress, h.start, hstart, Option.getD_some]
  rw [h.commands, h.initialValues, haddress]
  exact Log.startMemory_of_equipped ht hstart policy

/-! ## Opposite timelines -/

namespace Timeline

variable {ι ι' : Type} {t : Timeline ι} {t' : Timeline ι'}

/-- The same cells, over a log and the reversed log, with as many steps in front of the one cursor
as there are behind the other. -/
structure Opposes (t : Timeline ι) (t' : Timeline ι') : Prop where
  log : t'.log = t.log.reversed
  cursors : t.cursor + t'.cursor = t.count
  cells : t.memory.cells = t'.memory.cells

theorem Opposes.count (h : t.Opposes t') : t'.count = t.count := by
  unfold Timeline.count
  rw [h.log, Log.length_reversed]

/-- Opposite ways make the same writes. -/
theorem Opposes.sweepWrites (h : t.Opposes t') {d d' : Nat} (hd : d + d' = t.count) :
    t'.log.sweepWrites t'.cursor d' = t.log.sweepWrites t.cursor d := by
  have hcursors := h.cursors
  unfold Timeline.count at hd hcursors
  have hc : t'.cursor = t.log.length - t.cursor := by omega
  have hd' : d' = t.log.length - d := by omega
  rw [h.log, hc, hd', Log.sweepWrites_reversed (by omega) (by omega)]

/-- Opposite timelines that go to opposite positions stay opposite. -/
theorem Opposes.sweepTo (h : t.Opposes t') {d d' : Nat} (hd : d + d' = t.count) :
    (t.sweepTo d).Opposes (t'.sweepTo d') := by
  refine ⟨h.log, hd, ?_⟩
  show t.memory.cells.sweep t.log t.cursor d = t'.memory.cells.sweep t'.log t'.cursor d'
  rw [Cells.sweep_eq_insertAll, Cells.sweep_eq_insertAll, h.sweepWrites hd, h.cells]

/-- The positions nearest to opposite numbers are opposite. -/
theorem Opposes.clamp (h : t.Opposes t') (position : Int) :
    t.clamp (t.count - position) + t'.clamp position = t.count := by
  unfold Timeline.clamp
  rw [h.count]
  omega

end Timeline

/-! ## Opposite moves -/

namespace Session

variable {ι σ : Type} [DecidableEq ι] {listeners : Listeners ι σ}

variable (listeners) in
/-- Nobody gives up in several moves, one after another. -/
def UnfailingAll (s : Session ι σ) : List Int → Prop
  | [] => True
  | position :: positions =>
    s.Unfailing listeners position ∧ (moveTo listeners s position).2.UnfailingAll positions

/-- Nobody gives up in any moves if no registered listener ever does. -/
theorem unfailingAll_of_returns {s : Session ι σ} (hs : s.Ready)
    (hregistry : ∀ l ∈ s.timeline.registry, ∀ m, (listeners l m).LeavesRegistry)
    (hreturns : ∀ l ∈ s.timeline.registry, ∀ m, (listeners l m).Returns) (positions : List Int) :
    s.UnfailingAll listeners positions := by
  induction positions generalizing s with
  | nil => trivial
  | cons position positions ih =>
    have hsame := moveTo_registry hs.cursor_le hregistry hs.idle position
    refine ⟨unfailing_of_returns hs hregistry position hreturns, ?_⟩
    refine ih (ready_call hs (.moveTo position)) ?_ ?_
    · rw [hsame]
      exact hregistry
    · rw [hsame]
      exact hreturns

variable (listeners) in
/-- Some listeners come, one after another. -/
theorem run_addListeners (s : Session ι σ) (registered : List ι) :
    (s.run listeners (registered.map .addListener)).timeline =
      { s.timeline with registry := s.timeline.registry ++ registered } := by
  induction registered generalizing s with
  | nil =>
    rw [List.append_nil]
    rfl
  | cons l registered ih =>
    rw [List.map_cons, run_cons, ih]
    show { s.timeline with registry := s.timeline.registry ++ [l] ++ registered } = _
    rw [List.append_assoc, List.singleton_append]

variable {ι' σ' : Type} [DecidableEq ι'] {listeners' : Listeners ι' σ'}

variable (listeners listeners') in
/-- What the move of one session to `n - t` and that of another to `t` have in common. -/
structure Mirrored (s : Session ι σ) (s' : Session ι' σ') (n : Nat) (t : Int) : Prop where
  /-- The positions that the moves return add up. -/
  answers : ∃ p p', (moveTo listeners s (n - t)).1 = .ok p ∧
    (moveTo listeners' s' t).1 = .ok p' ∧ p + p' = n
  /-- So do the cursors afterwards. -/
  cursors : (moveTo listeners s (n - t)).2.timeline.cursor +
    (moveTo listeners' s' t).2.timeline.cursor = n
  /-- The cells afterwards are the same. -/
  cells : (moveTo listeners s (n - t)).2.timeline.memory.cells =
    (moveTo listeners' s' t).2.timeline.memory.cells
  /-- All registered with either session are told the same changes. -/
  changes : ∃ changes : List (Int × Int),
    (s.heard listeners (n - t)).map (fun x => (x.listener, x.message)) =
      (Notification.ofMove changes (moveTo listeners s (n - t)).2.timeline.cursor).flatMap
        (fun m => s.timeline.registry.map (·, m)) ∧
    (s'.heard listeners' t).map (fun x => (x.listener, x.message)) =
      (Notification.ofMove changes (moveTo listeners' s' t).2.timeline.cursor).flatMap
        (fun m => s'.timeline.registry.map (·, m))

variable (listeners listeners') in
/-- Two sessions over opposite timelines of `n` steps, with listeners that only listen. -/
structure Opposed (s : Session ι σ) (s' : Session ι' σ') (n : Nat) : Prop where
  ready : s.Ready
  ready' : s'.Ready
  count : s.timeline.count = n
  opposes : s.timeline.Opposes s'.timeline
  registry : ∀ l ∈ s.timeline.registry, ∀ m, (listeners l m).LeavesRegistry
  registry' : ∀ l ∈ s'.timeline.registry, ∀ m, (listeners' l m).LeavesRegistry
  memory : ∀ l ∈ s.timeline.registry, ∀ m, (listeners l m).LeavesMemory
  memory' : ∀ l ∈ s'.timeline.registry, ∀ m, (listeners' l m).LeavesMemory

/-- Opposite moves of opposed sessions mirror each other, and the sessions are still opposed. -/
theorem Opposed.move {s : Session ι σ} {s' : Session ι' σ'} {n : Nat}
    (h : Opposed listeners listeners' s s' n) {t : Int} (hgo : s.Unfailing listeners (n - t))
    (hgo' : s'.Unfailing listeners' t) :
    Mirrored listeners listeners' s s' n t ∧
      Opposed listeners listeners' (moveTo listeners s (n - t)).2 (moveTo listeners' s' t).2 n := by
  have htimeline := hgo.timeline h.ready h.registry h.memory
  have htimeline' := hgo'.timeline h.ready' h.registry' h.memory'
  -- the two targets lie opposite each other, clamped or not
  have hd := h.opposes.clamp t
  rw [h.count] at hd
  have hopposes := h.opposes.sweepTo (hd.trans h.count.symm)
  refine ⟨⟨?_, ?_, ?_, ?_⟩, ?_⟩
  · exact ⟨_, _, hgo.answer h.ready h.registry, hgo'.answer h.ready' h.registry', hd⟩
  · rw [htimeline, htimeline']
    exact hd
  · rw [htimeline, htimeline']
    exact hopposes.cells
  -- the crossed writes, read one way for the one timeline and the other way for the other
  · refine ⟨s.timeline.log.sweepWrites s.timeline.cursor (s.timeline.clamp (n - t)), ?_, ?_⟩
    · rw [htimeline]
      exact hgo.heard_messages h.ready h.registry
    · rw [htimeline', ← h.opposes.sweepWrites (hd.trans h.count.symm)]
      exact hgo'.heard_messages h.ready' h.registry'
  · have hready : (moveTo listeners s (n - t)).2.Ready := ready_call h.ready (.moveTo (n - t))
    have hready' : (moveTo listeners' s' t).2.Ready := ready_call h.ready' (.moveTo t)
    refine ⟨hready, hready', ?_, ?_, ?_, ?_, ?_, ?_⟩
    · rw [htimeline]
      exact h.count
    · rw [htimeline, htimeline']
      exact hopposes
    · rw [htimeline]
      exact h.registry
    · rw [htimeline']
      exact h.registry'
    · rw [htimeline]
      exact h.memory
    · rw [htimeline']
      exact h.memory'

/-- Of any number of opposite moves, the last ones mirror each other. -/
theorem Opposed.moves {s : Session ι σ} {s' : Session ι' σ'} {n : Nat}
    (h : Opposed listeners listeners' s s' n) (ts : List Int) (t : Int)
    (hgo : s.UnfailingAll listeners ((ts ++ [t]).map fun t => n - t))
    (hgo' : s'.UnfailingAll listeners' (ts ++ [t])) :
    Mirrored listeners listeners' (s.run listeners (ts.map fun t => .moveTo (n - t)))
      (s'.run listeners' (ts.map .moveTo)) n t := by
  induction ts generalizing s s' with
  | nil => exact (h.move hgo.1 hgo'.1).1
  | cons u ts ih => exact ih (h.move hgo.1 hgo'.1).2 hgo.2 hgo'.2

/-! ## Playing back a timeline from its end -/

/-- The start memory has the registers, and so have the cells after every run. -/
theorem equipped_run (hlisteners : ∀ l n, (listeners l n).LeavesMemory) {trace : Trace}
    {options : Options} {kept : σ} {s₀ : Session ι σ}
    (hstart : start (Timeline.build trace options) kept = .ok s₀) (calls : List (Call ι)) :
    (s₀.run listeners calls).timeline.memory.cells.Equipped := by
  have hinitial : s₀.timeline.memory.cells.Equipped := by
    rw [timeline_of_start hstart]
    exact Log.equipped_startMemory ..
  exact run_keeps hlisteners s₀.timeline.log (P := fun _ cells => cells.Equipped)
    (fun c d cells _ _ h => h.sweep _ c d) (ready_of_start hstart) rfl hinitial calls

/-- A run over a log that fits and ends at its end leaves the cells of the replay, whatever the
policy of the timeline. -/
theorem run_to_end (hlisteners : ∀ l n, (listeners l n).LeavesMemory) {trace : Trace}
    {options : Options} {kept : σ} {s₀ : Session ι σ}
    (hstart : start (Timeline.build trace options) kept = .ok s₀) (calls : List (Call ι))
    (hend : (s₀.run listeners calls).timeline.cursor = trace.log.length)
    {policy : MissingCellPolicy}
    (hfits : trace.log.Fits ⟨(trace.startMemory options).cells, policy⟩) :
    (s₀.run listeners calls).timeline.memory.cells =
      (trace.startMemory options).cells.replay trace.log := by
  have htimeline := timeline_of_start hstart
  -- the height is forgotten on the way: at the end of the log nothing can be left over
  let P (p : Nat) (cells : Cells) : Prop := ∃ top, p ≤ top ∧ top ≤ trace.log.length ∧
    Cells.HeldAt (trace.startMemory options).cells trace.log p top cells
  have hinitial : P 0 (trace.startMemory options).cells :=
    ⟨0, le_rfl, Nat.zero_le _, Cells.heldAt_start ..⟩
  -- a sweep raises the height to the furthest position reached, and never past the end
  have hsweep : ∀ c d cells, c ≤ trace.log.length → d ≤ trace.log.length → P c cells →
      P d (cells.sweep trace.log c d) := by
    rintro c d cells hc hd ⟨top, hle, htop, hheld⟩
    refine ⟨max top d, Nat.le_max_right .., ?_, hheld.sweep hle hfits hc hd⟩
    omega
  have hrun : P (s₀.run listeners calls).timeline.cursor
      (s₀.run listeners calls).timeline.memory.cells := by
    refine run_keeps hlisteners trace.log hsweep (ready_of_start hstart) ?_ ?_ calls
    · rw [htimeline]
      rfl
    · rw [htimeline]
      exact hinitial
  obtain ⟨top, hle, htop, hheld⟩ := hrun
  rw [hend] at hle hheld
  rw [Nat.le_antisymm htop hle] at hheld
  exact Cells.heldAt_length_iff.mp hheld

/-- Under each policy under which the log of a session is accepted, so is the log that plays it
back. -/
theorem accepted_of_playsBack (hlisteners : ∀ l n, (listeners l n).LeavesMemory) {trace : Trace}
    {options : Options} {kept : σ} {s₀ : Session ι σ}
    (hstart : start (Timeline.build trace options) kept = .ok s₀) (calls : List (Call ι))
    (hend : (s₀.run listeners calls).timeline.cursor = trace.log.length) {back : Trace}
    {options' : Options}
    (hback : back.PlaysBack options'.startLabel (s₀.run listeners calls).timeline)
    {policy : MissingCellPolicy}
    (haccepted : trace.Accepted { options with missingCellPolicy := policy }) :
    back.Accepted { options' with missingCellPolicy := policy } := by
  have hfits : trace.log.Fits ⟨(trace.startMemory options).cells, policy⟩ :=
    Log.check_eq_ok_iff.mp haccepted
  -- acceptance of a log is a matter of its start cells, and those of `back` are the final cells
  have hreversed := hfits.reversed
  rw [← run_to_end hlisteners hstart calls hend hfits] at hreversed
  have hmemory := hback.startMemory (equipped_run hlisteners hstart calls) policy
  refine Log.check_eq_ok_iff.mpr ?_
  dsimp only
  rw [hmemory, hback.log, log_run (ready_of_start hstart) calls, timeline_of_start hstart]
  exact hreversed

omit [DecidableEq ι] in
/-- A session at the end of its log and a new one that plays it back are opposed. -/
theorem opposed_of_playsBack {s : Session ι σ} (hs : s.Ready)
    (hequipped : s.timeline.memory.cells.Equipped) (hend : s.timeline.cursor = s.timeline.count)
    (hregistry : ∀ l ∈ s.timeline.registry, ∀ m, (listeners l m).LeavesRegistry)
    (hmemory : ∀ l ∈ s.timeline.registry, ∀ m, (listeners l m).LeavesMemory)
    {back : Trace} {options' : Options} (hback : back.PlaysBack options'.startLabel s.timeline)
    {kept' : σ'} {s₀' : Session ι' σ'}
    (hstart' : start (Timeline.build back options') kept' = .ok s₀') {registered : List ι'}
    (hregistry' : ∀ l ∈ registered, ∀ m, (listeners' l m).LeavesRegistry)
    (hmemory' : ∀ l ∈ registered, ∀ m, (listeners' l m).LeavesMemory) :
    Opposed listeners listeners' s (s₀'.run listeners' (registered.map .addListener))
      s.timeline.count := by
  have htimeline := run_addListeners listeners' s₀' registered
  rw [timeline_of_start hstart'] at htimeline
  have hstartMemory := hback.startMemory hequipped options'.missingCellPolicy
  refine ⟨hs, ready_run (ready_of_start hstart') _, rfl, ⟨?_, ?_, ?_⟩, hregistry, ?_, hmemory, ?_⟩
  · rw [htimeline]
    exact hback.log
  · rw [htimeline]
    exact hend
  · rw [htimeline]
    exact (congrArg Memory.cells hstartMemory).symm
  · rw [htimeline]
    exact hregistry'
  · rw [htimeline]
    exact hmemory'

/-- **Going back is going forward over the reversed log.**  Take a session at the end of its log,
whatever the log says, and a new one that plays it back.  Moving the one to `n - t` and the other to
`t`, again and again, they stay mirrored, unless a listener gives up; and under each policy under
which the log is accepted so is the reversed one. -/
theorem playback_mirrored (hlisteners : ∀ l m, (listeners l m).LeavesMemory) {trace : Trace}
    {options : Options} {kept : σ} {s₀ : Session ι σ}
    (hstart : start (Timeline.build trace options) kept = .ok s₀) {calls : List (Call ι)}
    (hend : (s₀.run listeners calls).timeline.cursor = trace.log.length)
    (hregistry : ∀ l ∈ (s₀.run listeners calls).timeline.registry, ∀ m,
      (listeners l m).LeavesRegistry)
    {back : Trace} {options' : Options} (hoff : options'.checkLog = false)
    (hback : back.PlaysBack options'.startLabel (s₀.run listeners calls).timeline) (kept' : σ')
    {registered : List ι'} (hregistry' : ∀ l ∈ registered, ∀ m, (listeners' l m).LeavesRegistry)
    (hmemory' : ∀ l ∈ registered, ∀ m, (listeners' l m).LeavesMemory) :
    let n := trace.log.length
    let s := s₀.run listeners calls
    (∃ s₀' : Session ι' σ', start (Timeline.build back options') kept' = .ok s₀' ∧
      let s' := s₀'.run listeners' (registered.map .addListener)
      s.timeline.memory.cells = s'.timeline.memory.cells ∧
        ∀ (ts : List Int) (t : Int),
          s.UnfailingAll listeners ((ts ++ [t]).map fun t => n - t) →
          s'.UnfailingAll listeners' (ts ++ [t]) →
          Mirrored listeners listeners' (s.run listeners (ts.map fun t => .moveTo (n - t)))
            (s'.run listeners' (ts.map .moveTo)) n t) ∧
    ∀ policy, trace.Accepted { options with missingCellPolicy := policy } →
      back.Accepted { options' with missingCellPolicy := policy } := by
  intro n s
  have hready : s.Ready := ready_run (ready_of_start hstart) calls
  have hcount : s.timeline.count = n := by
    unfold Timeline.count
    rw [log_run (ready_of_start hstart) calls, timeline_of_start hstart]
    rfl
  -- acceptance does not depend on the sessions; the rest is the relation kept by all moves
  refine ⟨?_, fun policy haccepted =>
    accepted_of_playsBack hlisteners hstart calls hend hback haccepted⟩
  obtain ⟨s₀', hstart'⟩ := exists_start (ι := ι') (.inr hoff) kept'
  have hopposed := opposed_of_playsBack hready (equipped_run hlisteners hstart calls)
    (hend.trans hcount.symm) hregistry (fun l _ => hlisteners l) hback hstart' hregistry' hmemory'
  rw [hcount] at hopposed
  exact ⟨s₀', hstart', hopposed.opposes.cells, hopposed.moves⟩

/-- Two steps that write to one address, played back by a session with two registrations: the way
from position 1 of the one to the start mirrors that from position 1 of the other to the end. -/
theorem playback_mirrored_two_steps :
    let listeners : Listeners Unit Unit := fun _ _ => .done
    let trace : Trace := { log := [[⟨5, 0, 1⟩], [⟨5, 1, 7⟩, ⟨6, 0, 3⟩]] }
    let back : Trace :=
      { log := [[⟨5, 7, 1⟩, ⟨6, 3, 0⟩], [⟨5, 1, 0⟩]]
        initialValues := .ofList [(-2, 0), (-1, 0), (5, 7), (6, 3)]
        labels := .ofList [("START", 0)] }
    ∃ s₀ s₀' : Session Unit Unit, start (Timeline.build trace {}) () = .ok s₀ ∧
      start (Timeline.build back {}) () = .ok s₀' ∧
      Mirrored listeners listeners (s₀.run listeners [.moveTo 9, .addListener (), .moveTo (2 - 1)])
        (s₀'.run listeners [.addListener (), .addListener (), .moveTo 1]) 2 5 ∧
      back.Accepted {} := by
  intro listeners trace back
  have hlisteners : ∀ l m, (listeners l m).LeavesMemory := fun _ _ => .done
  have hregistry : ∀ l m, (listeners l m).LeavesRegistry := fun _ _ => .done
  have hreturns : ∀ l m, (listeners l m).Returns := fun _ _ => .done
  have hoff : ({} : Options).checkLog = false := rfl
  have hregistry' : ∀ l ∈ [(), ()], ∀ m, (listeners l m).LeavesRegistry := fun _ _ _ => .done
  have hbegins : ∃ s₀ : Session Unit Unit, start (Timeline.build trace {}) () = .ok s₀ :=
    exists_start (.inr hoff) ()
  obtain ⟨s₀, hstart⟩ := hbegins
  have hready : (s₀.run listeners [.moveTo 9, .addListener ()]).Ready :=
    ready_run (ready_of_start hstart) _
  have hend : (s₀.run listeners [.moveTo 9, .addListener ()]).timeline.cursor = 2 := by
    cases hstart
    decide +zetaReduce
  have hback : back.PlaysBack "START" (s₀.run listeners [.moveTo 9, .addListener ()]).timeline := by
    cases hstart
    exact ⟨by decide +zetaReduce, rfl, by decide +zetaReduce, by decide +zetaReduce⟩
  obtain ⟨⟨s₀', hstart', -, hmirrored⟩, haccepted⟩ :=
    playback_mirrored hlisteners hstart hend (fun l _ => hregistry l) hoff hback () hregistry'
      (fun l _ => hlisteners l)
  refine ⟨s₀, s₀', hstart, hstart', hmirrored [1] 5 ?_ ?_, haccepted .zero rfl⟩
  · exact unfailingAll_of_returns hready (fun l _ => hregistry l) (fun l _ => hreturns l) _
  · exact unfailingAll_of_returns (ready_run (ready_of_start hstart') _) (fun l _ => hregistry l)
      (fun l _ => hreturns l) _

end Session

end Rewind
