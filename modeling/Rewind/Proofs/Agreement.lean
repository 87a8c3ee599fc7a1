import Rewind.Proofs.PathIndependence
import Rewind.Proofs.Report

/-!
# Inspections and moves agree

An inspection goes to its position from the start; a request that shows a move goes to a position
and from there to another.  `step_agrees_with_inspect` relates the two: writing what the move tells
into the cells that are reported where it starts gives the cells that are reported where it ends,
and on the way back as well if the log is valid, up to zeros.
-/

namespace Rewind

/-- The entries of a map, read off its keys. -/
theorem SortedMap.map_keys_getD {α β : Type} [Ord α] [Std.LawfulEqOrd α] (m : SortedMap α β)
    (default : β) : m.keys.map (fun k => (k, (m.get? k).getD default)) = m.entries := by
  rw [keys, List.map_map]
  refine (List.map_congr_left fun e he => ?_).trans (List.map_id _)
  show (e.1, (m.get? e.1).getD default) = e
  rw [mem_entries_iff.mp (show (e.1, e.2) ∈ m.entries from he)]
  rfl

namespace Trace

variable (trace : Trace) (options : Options)

/-- The cells behind the first `p` steps. -/
def cellsAt (p : Nat) : Cells := ((trace.startMemory options).replay (trace.log.take p)).cells

theorem cellsAt_eq_sweep (p : Nat) :
    trace.cellsAt options p = (trace.startMemory options).cells.sweep trace.log 0 p := by
  rw [Cells.sweep_of_le _ _ (Nat.zero_le p), Log.between_zero]
  rfl

/-- An inspection that names no address shows all cells. -/
theorem cells_inspection_all (p : Nat) :
    (trace.inspection options p []).cells = (trace.cellsAt options p).entries := by
  show (trace.cellsAt options p).keys.map (fun a => (a, (trace.value? options p a).getD 0)) = _
  rw [← SortedMap.map_keys_getD (trace.cellsAt options p) 0]
  exact List.map_congr_left fun a _ => by rw [← get?_replay]; rfl

variable {trace options}

/-- The writes of a move forward lead from cells to cells. -/
theorem cellsAt_forward {p q : Nat} (h : p ≤ q) :
    (trace.cellsAt options p).insertAll (trace.log.sweepWrites p q) = trace.cellsAt options q := by
  rw [← Cells.sweep_eq_insertAll, cellsAt_eq_sweep, cellsAt_eq_sweep,
    Cells.sweep_sweep _ _ (by omega) (by omega)]

/-- The writes of a move back lead to cells that read the same, if the log is accepted. -/
theorem cellsAt_backward (haccepted : trace.Accepted options) {p q : Nat} (h : q ≤ p)
    (hp : p ≤ trace.log.length) (a : Int) :
    (((trace.cellsAt options p).insertAll (trace.log.sweepWrites p q)).get? a).getD 0
      = ((trace.cellsAt options q).get? a).getD 0 := by
  have hfits : trace.log.Fits (trace.startMemory options) := Log.check_eq_ok_iff.mp haccepted
  have hthere : Cells.HeldAt (trace.startMemory options).cells trace.log p p
      (trace.cellsAt options p) := by
    have hsweep := (Cells.heldAt_start trace.log (trace.startMemory options).cells).sweep le_rfl
      hfits (Nat.zero_le _) hp
    rwa [Nat.max_eq_right (Nat.zero_le p), ← cellsAt_eq_sweep] at hsweep
  have hback := hthere.sweep le_rfl hfits hp (h.trans hp)
  rw [Nat.max_eq_left h, Cells.sweep_eq_insertAll] at hback
  exact hback.getD a

end Trace

namespace CommandLine

variable {files : Files} {path : Path} {config : Option Path} {trace : Trace} {options : Options}

/-- A trace is valid only if the check accepts its log. -/
theorem Opens.accepted_of_validate (hopen : Opens files path config trace options)
    (h : (run files (.validate path config)).code = 0) : trace.Accepted options := by
  cases hcheck : trace.log.check trace.commands trace.initialValues
    (startAddress trace.labels options.startLabel) options.missingCellPolicy with
  | ok u => exact hcheck
  | error e =>
    have hbuild : (Timeline.build trace { options with checkLog := true } :
        Journaled Fault (Timeline Unit)).result = .error e := by
      rw [Timeline.build_result, if_pos rfl, hcheck]
      rfl
    have hrun : run files (.validate path config) = .reportedFault "Validation failed" e := by
      simp only [run, withTimeline, hopen.configured, Timeline.ofFile_of_load hopen.loaded, hbuild,
        Except.mapError, unopened]
    rw [hrun, code_reportedFault] at h
    cases h

/-- A printed inspection with a position and the cells of the whole memory. -/
def Ending.ShowsCells (ending : Ending) (p : Nat) (cells : Cells) : Prop :=
  ∃ v, ending.Prints v ∧ v.field? "position" = some (.int p) ∧
    v.field? "cells"
      = some (.object (cells.entries.map fun c => ((toString c.1 : String), .int c.2)))

theorem showsCells_inspect (hopen : Opens files path config trace options)
    (hwritable : ∀ n ∈ trace.integers, Integer.isWritable n = true)
    (hsteps : Integer.isWritable trace.log.length = true) (position : Int) :
    (run files (.inspect path config position [] true)).ShowsCells (trace.nearest position)
      (trace.cellsAt options (trace.nearest position)) := by
  have hanswered : trace.Answered options (trace.nearest position) [] :=
    fun _ _ h => nomatch h
  have hprints := run_inspect_answered hopen (by simpa using hwritable) hsteps hanswered
  rw [Inspection.joined_toJson] at hprints
  refine ⟨_, hprints, rfl, ?_⟩
  rw [← Trace.cells_inspection_all]
  rfl

/-- **Inspections and moves agree.**  The move that is shown tells its writes and the position that
the inspection of its end reports.  Its writes lead from the cells reported at its start to those
reported at its end; on the way back they do so if the trace is valid, where an address without a
value counts as zero. -/
theorem step_agrees_with_inspect (hopen : Opens files path config trace options)
    (hwritable : ∀ n ∈ trace.integers, Integer.isWritable n = true)
    (hsteps : Integer.isWritable trace.log.length = true) (start offset : Int) :
    let p := trace.nearest start
    let q := trace.nearest (p + offset)
    ∃ before after writes t,
      (run files (.inspect path config start [] true)).ShowsCells p before ∧
      (run files (.inspect path config (p + offset) [] true)).ShowsCells q after ∧
      told (.ofTrace trace options) start offset
        = .ok (writes.map Notification.ofWrite ++ [.cursorMoved q], t) ∧
      run files (.step path config start offset) = .ofParts 0
        ((writes.map Notification.ofWrite ++ [.cursorMoved q]).map (notificationPart t)) ∧
      (0 ≤ offset → before.insertAll writes = after) ∧
      (offset < 0 → (run files (.validate path config)).code = 0 →
        ∀ a, ((before.insertAll writes).get? a).getD 0 = (after.get? a).getD 0) := by
  intro p q
  have hp : p ≤ trace.log.length := trace.nearest_le start
  -- the listener is registered where the offset starts from, so it hears the second move only
  have htold : told (.ofTrace trace options) start offset = .ok
      (Notification.ofMove (trace.log.sweepWrites p q) q,
        (((Timeline.ofTrace trace options).sweepTo p).addListener ()).sweepTo q) := by
    rw [told_eq rfl (Nat.zero_le _) rfl, Trace.clamp_eq_nearest, Trace.clamp_eq_nearest]
    rfl
  refine ⟨trace.cellsAt options p, trace.cellsAt options q, trace.log.sweepWrites p q, _,
    showsCells_inspect hopen hwritable hsteps start,
    showsCells_inspect hopen hwritable hsteps (p + offset), htold, ?_, fun hoffset => ?_,
    fun hoffset hvalid a => ?_⟩
  · refine (hopen.withTimeline_eq "Error" _).trans ?_
    rw [htold]
    rfl
  -- going forward writes what replaying further would have written
  · exact Trace.cellsAt_forward (by simp only [q, Trace.nearest]; omega)
  -- going back restores values only if the log fits, and then it may leave zeros behind
  · exact Trace.cellsAt_backward (hopen.accepted_of_validate hvalid)
      (by simp only [q, Trace.nearest]; omega) hp a

/-- One step back from the end of a log, over an address that has no value in front of it. -/
theorem step_agrees_with_inspect_back :
    let trace : Trace := { log := [[⟨5, 0, 42⟩], [⟨5, 42, 8⟩, ⟨6, 0, 1⟩]] }
    let path : Path := ⟨"", ["t.json"]⟩
    let files : Files := {
      read := fun _ => .ok ((trace.toJson fun _ _ => .triple).canonicalChars.flatMap
        String.utf8EncodeChar)
      jsonDepth := 990
      yamlDepth := 490 }
    ∃ before after writes t,
      (run files (.inspect path none 9 [] true)).ShowsCells 2 before ∧
      (run files (.inspect path none 1 [] true)).ShowsCells 1 after ∧
      told (.ofTrace trace {}) 9 (-1)
        = .ok (writes.map Notification.ofWrite ++ [.cursorMoved 1], t) ∧
      run files (.step path none 9 (-1)) = .ofParts 0
        ((writes.map Notification.ofWrite ++ [.cursorMoved 1]).map (notificationPart t)) ∧
      ((run files (.validate path none)).code = 0 →
        ∀ a, ((before.insertAll writes).get? a).getD 0 = (after.get? a).getD 0) := by
  intro trace path files
  have hwritable : ∀ n ∈ trace.integers, Integer.isWritable n = true :=
    Integer.forall_isWritable (by decide)
  have hopen : Opens files path none trace {} :=
    ⟨rfl, Trace.load_written hwritable (by decide) (by decide) (by decide) rfl, fun h => nomatch h⟩
  obtain ⟨before, after, writes, t, hbefore, hafter, htold, hstep, -, hback⟩ :=
    step_agrees_with_inspect hopen hwritable (Trace.isWritable_small (by decide)) 9 (-1)
  exact ⟨before, after, writes, t, hbefore, hafter, htold, hstep, hback (by decide)⟩

end CommandLine

end Rewind
