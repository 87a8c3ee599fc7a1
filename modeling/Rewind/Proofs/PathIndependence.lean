import Rewind.Fingerprint
import Rewind.Proofs.HeldCells

/-!
# Two ways to one position

Two runs over one log that end at the same position need not leave the same cells: the run that has
been further on may have left a zero where the other has nothing.  Under the policy of zeros nobody
can tell by reading, but the addresses, their number and the cells as a whole do tell.
`Cells.Covered` is the condition on the log, exact for all three (`run_paths_agree_iff`): every
address that is written between the two heights had a value already at the lower one.
-/

namespace Rewind

namespace Cells

/-- Every address that a step between two heights writes has a value at the lower one. -/
def Covered (start : Cells) (log : Log) (m n : Nat) : Prop :=
  ∀ a ∈ (log.between (min m n) (max m n)).addresses,
    start.contains a = true ∨ a ∈ Log.addresses (log.take (min m n))

instance (start : Cells) (log : Log) (m n : Nat) : Decidable (Covered start log m n) :=
  inferInstanceAs (Decidable (∀ a ∈ _, _))

variable {start cells : Cells} {log : Log} {p m n : Nat}

theorem covered_iff_of_le (h : m ≤ n) :
    Covered start log m n ↔ ∀ a,
      (start.contains a = true ∨ a ∈ Log.addresses (log.take m)) ↔
        (start.contains a = true ∨ a ∈ Log.addresses (log.take n)) := by
  unfold Covered
  rw [Nat.min_eq_left h, Nat.max_eq_right h]
  constructor
  · intro hcovered a
    rw [Log.mem_addresses_take h]
    constructor
    · rintro (ha | ha)
      · exact .inl ha
      · exact .inr (.inl ha)
    · rintro (ha | ha | ha)
      · exact .inl ha
      · exact .inr ha
      · exact hcovered a ha
  · intro hsame a ha
    exact (hsame a).mpr (.inr ((Log.mem_addresses_take h).mpr (.inr ha)))

theorem covered_comm : Covered start log m n ↔ Covered start log n m := by
  unfold Covered
  rw [Nat.min_comm, Nat.max_comm]

/-- The condition says that both heights give values to the same addresses. -/
theorem covered_iff :
    Covered start log m n ↔ ∀ a,
      (start.contains a = true ∨ a ∈ Log.addresses (log.take m)) ↔
        (start.contains a = true ∨ a ∈ Log.addresses (log.take n)) := by
  rcases Nat.le_total m n with h | h
  · exact covered_iff_of_le h
  · rw [covered_comm, covered_iff_of_le h]
    exact forall_congr' fun a => iff_comm

/-! ## Cells at one position -/

/-- The addresses with a value are those of the highest position. -/
theorem HeldAt.contains_iff (h : HeldAt start log p m cells) (hp : p ≤ m) (a : Int) :
    cells.contains a = true ↔ start.contains a = true ∨ a ∈ Log.addresses (log.take m) := by
  have hcell := heldAt_iff.mp h a
  have hreplay : ((start.replay (log.take p)).get? a).isSome = true ↔
      start.contains a = true ∨ a ∈ Log.addresses (log.take p) := contains_replay _ _ a
  rw [SortedMap.contains, hcell, Option.isSome_or, Bool.or_eq_true, hreplay,
    Log.mem_addresses_take hp, or_assoc]
  refine or_congr_right (or_congr_right ?_)
  split <;> simp [*]

/-- Where zero stands for no value, the cells read like those of the replay. -/
theorem HeldAt.getD (h : HeldAt start log p m cells) (a : Int) :
    (cells.get? a).getD 0 = ((start.replay (log.take p)).get? a).getD 0 := by
  rw [heldAt_iff.mp h a]
  cases (start.replay (log.take p)).get? a with
  | some v => rfl
  | none =>
    rw [Option.none_or]
    split <;> rfl

/-- Cells at one position are the same if they have values at the same addresses. -/
theorem HeldAt.eq_iff {others : Cells} (h : HeldAt start log p m cells)
    (h' : HeldAt start log p n others) :
    cells = others ↔ ∀ a, cells.contains a = true ↔ others.contains a = true := by
  refine ⟨fun heq a => by rw [heq], fun hsame => SortedMap.ext_get? fun a => ?_⟩
  -- both read as replayed, so they can only differ in what they leave undefined
  have hread : (cells.get? a).getD 0 = (others.get? a).getD 0 := by rw [h.getD, h'.getD]
  have hdefined := hsame a
  unfold SortedMap.contains at hdefined
  cases hc : cells.get? a with
  | none =>
    have hnone : (others.get? a).isSome = false := by
      rw [Bool.eq_false_iff, Ne, ← hdefined, hc]
      decide
    exact (Option.isNone_iff_eq_none.mp (Option.isSome_eq_false_iff.mp hnone)).symm
  | some v =>
    rw [hc] at hdefined
    obtain ⟨w, hw⟩ := Option.isSome_iff_exists.mp (hdefined.mp rfl)
    rw [hc, hw, Option.getD_some, Option.getD_some] at hread
    rw [hw, hread]

section Heights

variable {others : Cells} (h : HeldAt start log p m cells) (h' : HeldAt start log p n others)
  (hm : p ≤ m) (hn : p ≤ n)
include h h' hm hn

theorem HeldAt.contains_iff_covered :
    (∀ a, cells.contains a = true ↔ others.contains a = true) ↔ Covered start log m n := by
  rw [covered_iff]
  exact forall_congr' fun a => by rw [h.contains_iff hm, h'.contains_iff hn]

theorem HeldAt.eq_iff_covered : cells = others ↔ Covered start log m n := by
  rw [h.eq_iff h', h.contains_iff_covered h' hm hn]

theorem HeldAt.keys_eq_iff_covered : cells.keys = others.keys ↔ Covered start log m n := by
  rw [SortedMap.keys_eq_iff, h.contains_iff_covered h' hm hn]

theorem HeldAt.size_eq_iff_covered : cells.size = others.size ↔ Covered start log m n := by
  -- going further only adds addresses, so the key sets are nested one way or the other
  have hmono : ∀ {i j : Nat} {a : Int}, i ≤ j →
      start.contains a = true ∨ a ∈ Log.addresses (log.take i) →
        start.contains a = true ∨ a ∈ Log.addresses (log.take j) :=
    fun hij ha => ha.imp id (Log.mem_addresses_take_mono hij)
  rcases Nat.le_total m n with hle | hle
  · have hsub : ∀ a, cells.contains a = true → others.contains a = true := by
      intro a
      rw [h.contains_iff hm, h'.contains_iff hn]
      exact hmono hle
    rw [SortedMap.size_eq_iff hsub, h.contains_iff_covered h' hm hn]
  · have hsub : ∀ a, others.contains a = true → cells.contains a = true := by
      intro a
      rw [h.contains_iff hm, h'.contains_iff hn]
      exact hmono hle
    rw [eq_comm, SortedMap.size_eq_iff hsub, h'.contains_iff_covered h hn hm, covered_comm]

end Heights

end Cells

namespace Session

variable {ι σ : Type} [DecidableEq ι] {listeners : Listeners ι σ}

/-- **When two runs agree** that end at one position of a log that the check accepts under the
policy of zeros: reads always do; cells, addresses and sizes do exactly if what is written between
the heights of the two runs is covered, and so do fingerprints in that case. -/
theorem run_paths_agree_iff {trace trace' : Trace} {options options' : Options}
    (hlog : trace'.log = trace.log)
    (hmemory : trace'.startMemory options' = trace.startMemory options)
    (hzero : options.missingCellPolicy = .zero) (haccepted : trace.Accepted options)
    (hlisteners : ∀ l n, (listeners l n).LeavesMemory) (kept kept' : σ)
    (calls calls' : List (Call ι)) :
    ∃ s s' : Session ι σ, start (Timeline.build trace options) kept = .ok s ∧
      start (Timeline.build trace' options') kept' = .ok s' ∧
      ((s.run listeners calls).timeline.cursor = (s'.run listeners calls').timeline.cursor →
        let t := (s.run listeners calls).timeline
        let t' := (s'.run listeners calls').timeline
        let covered := Cells.Covered (trace.startMemory options).cells trace.log
          (s.top listeners calls) (s'.top listeners calls')
        (∀ a, t.get a = t'.get a) ∧ (t.memory.cells = t'.memory.cells ↔ covered) ∧
          (t.memory.addresses = t'.memory.addresses ↔ covered) ∧
          (t.memory.size = t'.memory.size ↔ covered) ∧
          (covered → t.memory.cells.fingerprint? = t'.memory.cells.fingerprint?)) := by
  have haccepted' : trace'.Accepted options' := by
    have hfits := Log.check_eq_ok_iff.mp haccepted
    change trace.log.Fits (trace.startMemory options) at hfits
    rw [← hlog, ← hmemory] at hfits
    exact Log.check_eq_ok_iff.mpr hfits
  obtain ⟨s, hstart⟩ := exists_start (ι := ι) (.inl haccepted) kept
  obtain ⟨s', hstart'⟩ := exists_start (ι := ι) (.inl haccepted') kept'
  refine ⟨s, s', hstart, hstart', fun hcursor => ?_⟩
  have h := run_holds haccepted hlisteners hstart calls
  have h' := run_holds haccepted' hlisteners hstart' calls'
  -- both runs are about one log and one start, so they hold the same cells but for their heights
  rw [hlog, hmemory] at h'
  have hcells := h.cells
  have hcells' := h'.cells
  rw [← hcursor] at hcells'
  have hle : (s.run listeners calls).timeline.cursor ≤ s'.top listeners calls' :=
    hcursor ▸ h'.cursor_le
  refine ⟨fun a => ?_, hcells.eq_iff_covered hcells' h.cursor_le hle,
    hcells.keys_eq_iff_covered hcells' h.cursor_le hle,
    hcells.size_eq_iff_covered hcells' h.cursor_le hle, fun hcovered => ?_⟩
  · have hpolicy : (trace.startMemory options).policy = .zero := hzero
    unfold Timeline.get
    rw [Memory.get_of_zero (h.policy_eq.trans hpolicy),
      Memory.get_of_zero (h'.policy_eq.trans hpolicy), hcells.getD, hcells'.getD]
  · rw [(hcells.eq_iff_covered hcells' h.cursor_le hle).mpr hcovered]

/-- A step that writes to the accumulator, which always has a value, can be gone over and back. -/
theorem run_paths_agree_accumulator :
    ∃ s s' : Session Empty Unit,
      start (Timeline.build { log := [[⟨accu, 0, 42⟩]] } {}) () = .ok s ∧
        start (Timeline.build { log := [[⟨accu, 0, 42⟩]] } {}) () = .ok s' ∧
        (s.run (fun _ _ => .done) [.moveTo 1, .moveTo 0]).timeline.memory.cells =
          (s'.run (fun _ _ => .done) []).timeline.memory.cells := by
  have haccepted : Trace.Accepted { log := [[⟨accu, 0, 42⟩]] } {} := rfl
  have hlisteners : ∀ (_ : Empty) (_ : Notification), (.done : Reaction Empty Unit).LeavesMemory :=
    fun _ _ => .done
  obtain ⟨s, s', hstart, hstart', hagree⟩ := run_paths_agree_iff rfl rfl rfl haccepted hlisteners
    () () [.moveTo 1, .moveTo 0] []
  refine ⟨s, s', hstart, hstart', ?_⟩
  cases hstart
  cases hstart'
  exact (hagree rfl).2.1.mpr (by decide)

/-- A step that writes where there was no value leaves a zero behind, so going over it and back is
not the same as staying. -/
theorem run_paths_disagree :
    ∃ s : Session Empty Unit,
      start (Timeline.build { log := [[⟨5, 0, 42⟩]] } {}) () = .ok s ∧
        Trace.Accepted { log := [[⟨5, 0, 42⟩]] } {} ∧
        (s.run (fun _ _ => .done) [.moveTo 1, .moveTo 0]).timeline.cursor =
          (s.run (fun _ _ => .done) []).timeline.cursor ∧
        (s.run (fun _ _ => .done) [.moveTo 1, .moveTo 0]).timeline.memory.addresses = [-2, -1, 5] ∧
        (s.run (fun _ _ => .done) []).timeline.memory.addresses = [-2, -1] :=
  ⟨_, rfl, rfl, rfl, by decide, by decide⟩

end Session

end Rewind
