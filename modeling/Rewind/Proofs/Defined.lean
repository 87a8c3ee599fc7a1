import Rewind.Proofs.Fits
import Rewind.Proofs.LastWrite
import Rewind.Proofs.Run

/-!
# Defined addresses

Which addresses have a value.  Those with a start value have one from the beginning, and a step
that is applied gives one to the addresses that it writes.  A step that is taken back writes the
same addresses, so none ever loses its value: what counts is how far the cursor has been, not where
it is (`Cells.contains_sweep_take`).  `run_defines` says this of all runs, over logs about which
nothing is assumed.
-/

namespace Rewind

/-- The addresses that have a value once the cursor has been as far as `top`. -/
def Trace.Defined (trace : Trace) (top : Nat) (a : Int) : Prop :=
  Log.HasStartValue trace.commands trace.initialValues a ∨ a ∈ Log.addresses (trace.log.take top)

/-- All that a timeline with this policy tells about which addresses have a value. -/
structure Timeline.Defines {ι : Type} (t : Timeline ι) (policy : MissingCellPolicy)
    (P : Int → Prop) : Prop where
  contains : ∀ a, t.memory.contains a = true ↔ P a
  listed : ∀ a, a ∈ t.memory.addresses ↔ P a
  ascending : t.memory.addresses.Pairwise (· < ·)
  size : t.memory.size = t.memory.addresses.length
  /-- A read of another address is a fault under the policy of faults, and no other read is. -/
  missing : ∀ a e, t.get a = .error e ↔ policy = .raise ∧ ¬ P a ∧ e = .missingCell a
  /-- The command at the cursor can always be looked up. -/
  current : ∃ command?, t.currentCommand = .ok command?

/-! ## What is said by the cells -/

namespace Memory

variable {m : Memory}

theorem mem_addresses {a : Int} : a ∈ m.addresses ↔ m.contains a = true :=
  SortedMap.mem_keys_iff

theorem ascending_addresses : m.addresses.Pairwise (· < ·) :=
  m.cells.ascending_keys.imp fun h => Int.compare_eq_lt.mp h

end Memory

theorem Timeline.defines_of_contains {ι : Type} {t : Timeline ι} {P : Int → Prop}
    (h : ∀ a, t.memory.contains a = true ↔ P a) (hiar : P iar) :
    t.Defines t.memory.policy P where
  contains := h
  listed a := Memory.mem_addresses.trans (h a)
  ascending := Memory.ascending_addresses
  size := (List.length_map ..).symm
  missing a e := by rw [get, Memory.get_eq_error_iff, h a]
  current := by
    unfold currentCommand
    cases hget : t.get iar with
    | ok v => exact ⟨t.commandAt? v, rfl⟩
    | error e =>
      rw [get, Memory.get_eq_error_iff, h iar] at hget
      exact absurd hiar hget.2.1

/-! ## What sweeps do to it -/

/-- A sweep defines what lies on its way, and nothing if the cursor has been there. -/
theorem Cells.contains_sweep_take {start cells : Cells} {log : Log} {top c : Nat} (hc : c ≤ top)
    (h : ∀ a, cells.contains a = true ↔
      start.contains a = true ∨ a ∈ Log.addresses (log.take top)) (d : Nat) (a : Int) :
    (cells.sweep log c d).contains a = true ↔
      start.contains a = true ∨ a ∈ Log.addresses (log.take (max top d)) := by
  -- going forward defines what is written below `d`, and going back nothing new
  have hforward : a ∈ (log.between c d).addresses → a ∈ Log.addresses (log.take d) := by
    intro ha
    by_cases hle : c ≤ d
    · exact (Log.mem_addresses_take hle).mpr (.inr ha)
    · rw [Log.between_of_le log (by omega)] at ha
      cases ha
  have hback : a ∈ (log.between d c).addresses → a ∈ Log.addresses (log.take top) := by
    intro ha
    by_cases hle : d ≤ c
    · exact Log.mem_addresses_take_mono hc ((Log.mem_addresses_take hle).mpr (.inr ha))
    · rw [Log.between_of_le log (by omega)] at ha
      cases ha
  rw [contains_sweep, Log.mem_sweepWrites, h a]
  constructor
  · rintro ((hstart | ha) | ha | ha)
    · exact .inl hstart
    · exact .inr (Log.mem_addresses_take_mono (Nat.le_max_left ..) ha)
    · exact .inr (Log.mem_addresses_take_mono (Nat.le_max_right ..) (hforward ha))
    · exact .inr (Log.mem_addresses_take_mono (Nat.le_max_left ..) (hback ha))
  · rintro (hstart | ha)
    · exact .inl (.inl hstart)
    · by_cases hle : d ≤ top
      · rw [Nat.max_eq_left hle] at ha
        exact .inl (.inr ha)
      · -- beyond the highest position there is only what the way itself writes
        rw [Nat.max_eq_right (by omega), Log.mem_addresses_take (by omega : c ≤ d)] at ha
        rcases ha with ha | ha
        · exact .inl (.inr (Log.mem_addresses_take_mono hc ha))
        · exact .inr (.inl ha)

/-! ## All runs -/

namespace Session

variable {ι σ : Type} [DecidableEq ι] {listeners : Listeners ι σ}

omit [DecidableEq ι] in
theorem contains_of_start {trace : Trace} {options : Options} {kept : σ} {s : Session ι σ}
    (h : start (Timeline.build trace options) kept = .ok s) (a : Int) :
    s.timeline.memory.contains a = true ↔
      Log.HasStartValue trace.commands trace.initialValues a := by
  rw [timeline_of_start h]
  exact Log.contains_startMemory

/-- A defined address stays defined, also if listeners write. -/
theorem contains_run {s : Session ι σ} {a : Int}
    (ha : s.timeline.memory.contains a = true) (calls : List (Call ι)) :
    (s.run listeners calls).timeline.memory.contains a = true := by
  refine run_keeps_memory (Q := fun m => m.contains a = true) ?_ ha calls
  intro m b v hm
  unfold Memory.contains SortedMap.contains at hm ⊢
  rw [Memory.cells_set, SortedMap.get?_insert]
  split
  · rfl
  · exact hm

/-- The invariant of runs: policy and defined addresses. -/
theorem run_contains (hlisteners : ∀ l n, (listeners l n).LeavesMemory) {trace : Trace}
    {options : Options} {kept : σ} {s₀ : Session ι σ}
    (hstart : start (Timeline.build trace options) kept = .ok s₀) (calls : List (Call ι)) :
    (s₀.run listeners calls).timeline.memory.policy = options.missingCellPolicy ∧
      ∀ a, (s₀.run listeners calls).timeline.memory.contains a = true ↔
        trace.Defined (s₀.top listeners calls) a := by
  have htimeline := timeline_of_start hstart
  have hcursor : s₀.timeline.cursor ≤ 0 := by rw [htimeline]; exact le_rfl
  -- what is carried along is which addresses are defined, for the highest position so far
  obtain ⟨-, hpolicy, hcontains⟩ := run_keeps_top hlisteners trace.log
    (P := fun top _ m => m.policy = options.missingCellPolicy ∧ ∀ a, m.cells.contains a = true ↔
      s₀.timeline.memory.contains a = true ∨ a ∈ Log.addresses (trace.log.take top))
    (fun _ _ d _ hc _ _ ⟨hpolicy, hcells⟩ => ⟨hpolicy, Cells.contains_sweep_take hc hcells d⟩)
    (ready_of_start hstart) (by rw [htimeline]; rfl) hcursor (Nat.zero_le _)
    ⟨by rw [htimeline]; rfl, fun a => by simp [Log.addresses, Memory.contains]⟩ calls
  rw [Nat.max_eq_right (Nat.zero_le _)] at hcontains
  refine ⟨hpolicy, fun a => ?_⟩
  rw [Memory.contains, hcontains a, contains_of_start hstart]
  rfl

/-- **The defined addresses after any run**, over any log, with listeners that return or give up:
those with a start value, and all that the steps below the highest position so far write.  They are
listed in ascending order and counted, and a read faults outside of them only.  A call never makes
one of them undefined. -/
theorem run_defines {trace : Trace} {options : Options}
    (h : trace.Accepted options ∨ options.checkLog = false)
    (hlisteners : ∀ l n, (listeners l n).LeavesMemory) (kept : σ) :
    ∃ s₀ : Session ι σ, start (Timeline.build trace options) kept = .ok s₀ ∧ ∀ calls,
      (s₀.run listeners calls).timeline.Defines options.missingCellPolicy
        (trace.Defined (s₀.top listeners calls)) ∧
      ∀ c a, (s₀.run listeners calls).timeline.memory.contains a = true →
        ((s₀.run listeners calls).call listeners c).2.timeline.memory.contains a = true := by
  obtain ⟨s₀, hstart⟩ := exists_start (ι := ι) h kept
  refine ⟨s₀, hstart, fun calls => ⟨?_, fun c a ha => ?_⟩⟩
  · obtain ⟨hpolicy, hcontains⟩ := run_contains hlisteners hstart calls
    rw [← hpolicy]
    exact Timeline.defines_of_contains hcontains (.inl (.inr (.inr (.inl rfl))))
  · exact contains_run ha [c]

/-- A move to the end that a listener stops behind the second of three steps, and the way back: the
log does not fit, what the second step writes stays defined and what the third one writes is not. -/
theorem run_defines_stopped :
    let trace : Trace := { log := [[⟨5, 3, 42⟩], [⟨6, 0, 1⟩], [⟨7, 0, 2⟩]] }
    let options : Options := { missingCellPolicy := .raise }
    let listeners : Listeners Unit Unit := fun _ n =>
      if n = .cellChanged 6 1 then .fail (.listenerFailed "no") else .done
    ∃ s₀ : Session Unit Unit, start (Timeline.build trace options) () = .ok s₀ ∧
      let t := (s₀.run listeners
        [.addListener (), .moveTo 9, .removeListener (), .moveTo 0]).timeline
      t.memory.contains 6 = true ∧ t.get 7 = .error (.missingCell 7) := by
  intro trace options listeners
  have hlisteners : ∀ l n, (listeners l n).LeavesMemory := by
    intro l n
    unfold listeners
    split
    · exact .fail _
    · exact .done
  have hoff : trace.Accepted options ∨ options.checkLog = false := .inr rfl
  obtain ⟨s₀, hstart, hrun⟩ := run_defines hoff hlisteners ()
  obtain ⟨hdefines, -⟩ := hrun [.addListener (), .moveTo 9, .removeListener (), .moveTo 0]
  refine ⟨s₀, hstart, (hdefines.contains 6).mpr (.inr ?_), (hdefines.missing 7 _).mpr ?_⟩
  · cases hstart
    decide +kernel
  · refine ⟨rfl, ?_, rfl⟩
    rintro ((⟨c, hc, -⟩ | h | h | h) | h)
    · cases hc
    · cases h
    · cases h
    · cases h
    · cases hstart
      revert h
      decide +kernel

end Session

end Rewind
