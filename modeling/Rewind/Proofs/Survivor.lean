import Rewind.Proofs.Round

/-!
# The write that survives

A move writes an address as often as the steps on its way do, and the last one of these writes
survives: that of the highest step on the way forward, and of the lowest one on the way back, where
within a step the recorded order counts both ways.  `Log.Settles` says so of the way from one
position to another, over logs about which nothing is assumed.  A single step leaves what its last
update of the address writes (`Step.LastUpdate.get?_insertAll`), and a way is one step after another
(`Cells.settles_sweep`).  `moveTo_settles` says it of moves: as far as the cursor gets, whatever
listeners do, and all the way to the target if no listener gives up.
-/

namespace Rewind

/-- `u` is the last update of address `a` in a step. -/
def Step.LastUpdate (step : Step) (a : Int) (u : Update) : Prop :=
  ∃ before after, step = before ++ u :: after ∧ u.address = a ∧ a ∉ Step.addresses after

namespace Log

/-- Step number `i` writes address `a`. -/
def WritesAt (log : Log) (i : Nat) (a : Int) : Prop :=
  ∃ step, log[i]? = some step ∧ a ∈ Step.addresses step

/-- `u` is the last update of address `a` in step number `i`. -/
def LastUpdateAt (log : Log) (i : Nat) (a : Int) (u : Update) : Prop :=
  ∃ step, log[i]? = some step ∧ Step.LastUpdate step a u

/-- The cursor goes from `o` to `t`, and what address `a` holds changes from `held` to `left`. -/
structure Settles (log : Log) (o t : Nat) (a : Int) (held left : Option Int) : Prop where
  /-- What it held, be it nothing, if no step on the way writes it. -/
  untouched : (∀ i, min o t ≤ i → i < max o t → ¬ log.WritesAt i a) → left = held
  /-- Else, forward, the new value of its last update in the highest step that writes it. -/
  forward : o < t → (∃ i, o ≤ i ∧ i < t ∧ log.WritesAt i a) →
    ∃ i u, o ≤ i ∧ i < t ∧ log.LastUpdateAt i a u ∧ (∀ j, i < j → j < t → ¬ log.WritesAt j a) ∧
      left = some u.newValue
  /-- Else, on the way back, the old value of its last update in the lowest step that writes it. -/
  backward : t < o → (∃ i, t ≤ i ∧ i < o ∧ log.WritesAt i a) →
    ∃ i u, t ≤ i ∧ i < o ∧ log.LastUpdateAt i a u ∧ (∀ j, t ≤ j → j < i → ¬ log.WritesAt j a) ∧
      left = some u.oldValue

theorem writesAt_iff {log : Log} {i : Nat} {a : Int} {step : Step} (h : log[i]? = some step) :
    log.WritesAt i a ↔ a ∈ Step.addresses step := by
  constructor
  · rintro ⟨step', h', ha⟩
    rw [h, Option.some.injEq] at h'
    exact h' ▸ ha
  · exact fun ha => ⟨step, h, ha⟩

theorem LastUpdateAt.writesAt {log : Log} {i : Nat} {a : Int} {u : Update}
    (h : log.LastUpdateAt i a u) : log.WritesAt i a := by
  obtain ⟨step, hstep, before, after, rfl, rfl, -⟩ := h
  exact ⟨_, hstep, by simp [Step.addresses]⟩

end Log

/-! ## One step -/

namespace Step

variable {step : Step} {a : Int} {u : Update}

theorem exists_lastUpdate (h : a ∈ step.addresses) : ∃ u, step.LastUpdate a u := by
  induction step with
  | nil => simp [addresses] at h
  | cons v rest ih =>
    by_cases hrest : a ∈ Step.addresses rest
    · obtain ⟨u, before, after, rfl, hu, hafter⟩ := ih hrest
      exact ⟨u, v :: before, after, rfl, hu, hafter⟩
    · rcases List.mem_cons.mp h with hv | ha
      · exact ⟨v, [], rest, rfl, hv.symm, hrest⟩
      · exact absurd ha hrest

section Writes

variable {write : Update → Int × Int} (hwrite : ∀ v, (write v).1 = v.address) (cells : Cells)
include hwrite

theorem LastUpdate.get?_insertAll (h : step.LastUpdate a u) :
    (cells.insertAll (step.map write)).get? a = some (write u).2 := by
  obtain ⟨before, after, rfl, rfl, hafter⟩ := h
  have hnot : u.address ∉ (after.map write).map Prod.fst := by
    simpa [addresses, hwrite] using hafter
  rw [List.map_append, List.map_cons, SortedMap.insertAll_append, SortedMap.insertAll_cons,
    SortedMap.get?_insertAll_of_notMem _ hnot, ← hwrite u, SortedMap.get?_insert_self]

/-- A step leaves an address alone, or leaves there what its last update of the address writes, in
the one direction and in the other. -/
theorem get?_insertAll_cases (step : Step) (a : Int) :
    (a ∉ step.addresses ∧ (cells.insertAll (step.map write)).get? a = cells.get? a) ∨
      ∃ u, step.LastUpdate a u ∧ (cells.insertAll (step.map write)).get? a = some (write u).2 := by
  by_cases ha : a ∈ step.addresses
  · obtain ⟨u, hu⟩ := exists_lastUpdate ha
    exact .inr ⟨u, hu, hu.get?_insertAll hwrite cells⟩
  · refine .inl ⟨ha, SortedMap.get?_insertAll_of_notMem cells ?_⟩
    simpa [addresses, hwrite] using ha

end Writes

end Step

/-! ## One step after another -/

namespace Cells

variable {log : Log} {o t : Nat} (cells : Cells) (a : Int)

/-- Forward, by induction on the target: the step in front of it is the highest one so far. -/
theorem get?_sweep_forward (h : o ≤ t) (ht : t ≤ log.length) :
    ((∀ i, o ≤ i → i < t → ¬ log.WritesAt i a) ∧ (cells.sweep log o t).get? a = cells.get? a) ∨
      ∃ i u, o ≤ i ∧ i < t ∧ log.LastUpdateAt i a u ∧ (∀ j, i < j → j < t → ¬ log.WritesAt j a) ∧
        (cells.sweep log o t).get? a = some u.newValue := by
  have hredo : ∀ u, (Update.redo u).1 = u.address := fun _ => rfl
  -- on the target: the last step crossed either writes the address, and decides, or does not
  induction t, h using Nat.le_induction with
  | base => exact .inl ⟨fun i _ _ => by omega, by rw [sweep_self]⟩
  | succ t hot ih =>
    have hstep : log[t]? = some log[t] := List.getElem?_eq_getElem (by omega)
    rw [sweep_succ cells hot hstep]
    rcases Step.get?_insertAll_cases hredo (cells.sweep log o t) log[t] a with
      ⟨ha, hsame⟩ | ⟨u, hu, hget⟩
    · rw [← Log.writesAt_iff hstep] at ha
      rw [replayStep, Step.redos, hsame]
      rcases ih (by omega) with ⟨hnone, hget⟩ | ⟨i, u, hoi, hit, hu, hlast, hget⟩
      -- neither does this step write it, so the value is the one from before the move
      · refine .inl ⟨fun i hi hit => ?_, hget⟩
        rcases Nat.lt_succ_iff_lt_or_eq.mp hit with hlt | rfl
        · exact hnone i hi hlt
        · exact ha
      -- an earlier step wrote it, and no step from there on has
      · refine .inr ⟨i, u, hoi, by omega, hu, fun j hij hjt => ?_, hget⟩
        rcases Nat.lt_succ_iff_lt_or_eq.mp hjt with hlt | rfl
        · exact hlast j hij hlt
        · exact ha
    · exact .inr ⟨t, u, hot, by omega, ⟨log[t], hstep, hu⟩, fun j _ _ => by omega, hget⟩

/-- Back, by induction from the start of the way down: the step behind the target is the lowest one
so far. -/
theorem get?_sweep_backward (h : t ≤ o) (ho : o ≤ log.length) :
    ((∀ i, t ≤ i → i < o → ¬ log.WritesAt i a) ∧ (cells.sweep log o t).get? a = cells.get? a) ∨
      ∃ i u, t ≤ i ∧ i < o ∧ log.LastUpdateAt i a u ∧ (∀ j, t ≤ j → j < i → ¬ log.WritesAt j a) ∧
        (cells.sweep log o t).get? a = some u.oldValue := by
  have hundo : ∀ u, (Update.undo u).1 = u.address := fun _ => rfl
  -- on the target, downwards: the last step undone either writes the address or does not
  induction h using Nat.decreasingInduction with
  | self => exact .inl ⟨fun i _ _ => by omega, by rw [sweep_self]⟩
  | of_succ t hto ih =>
    have hstep : log[t]? = some log[t] := List.getElem?_eq_getElem (by omega)
    rw [sweep_pred cells hto hstep]
    rcases Step.get?_insertAll_cases hundo (cells.sweep log o (t + 1)) log[t] a with
      ⟨ha, hsame⟩ | ⟨u, hu, hget⟩
    · rw [← Log.writesAt_iff hstep] at ha
      rw [undoStep, Step.undos, hsame]
      rcases ih with ⟨hnone, hget⟩ | ⟨i, u, hti, hio, hu, hlast, hget⟩
      -- neither does this step write it, so the value is the one from before the move
      · refine .inl ⟨fun i hi hio => ?_, hget⟩
        rcases Nat.eq_or_lt_of_le hi with rfl | hlt
        · exact ha
        · exact hnone i hlt hio
      -- a later step wrote it, and no step undone since has
      · refine .inr ⟨i, u, by omega, hio, hu, fun j htj hji => ?_, hget⟩
        rcases Nat.eq_or_lt_of_le htj with rfl | hlt
        · exact ha
        · exact hlast j hlt hji
    · exact .inr ⟨t, u, le_rfl, hto, ⟨log[t], hstep, hu⟩, fun j _ _ => by omega, hget⟩

/-- What a way of the cursor leaves at an address. -/
theorem settles_sweep (ho : o ≤ log.length) (ht : t ≤ log.length) :
    log.Settles o t a (cells.get? a) ((cells.sweep log o t).get? a) := by
  rcases Nat.le_total o t with hle | hle
  · rcases cells.get?_sweep_forward a hle ht with ⟨hnone, hget⟩ | hsome
    -- a move one way is none the other way, so that half of the statement asks for nothing
    · refine ⟨fun _ => hget, fun _ ⟨i, hoi, hit, hi⟩ => absurd hi (hnone i hoi hit), ?_⟩
      exact fun hlt => absurd hlt (by omega)
    · refine ⟨fun hnone => ?_, fun _ _ => hsome, fun hlt => absurd hlt (by omega)⟩
      obtain ⟨i, u, hoi, hit, hu, -, -⟩ := hsome
      exact absurd hu.writesAt (hnone i (by omega) (by omega))
  · rcases cells.get?_sweep_backward a hle ho with ⟨hnone, hget⟩ | hsome
    · refine ⟨fun _ => hget, fun hlt => absurd hlt (by omega), ?_⟩
      exact fun _ ⟨i, hti, hio, hi⟩ => absurd hi (hnone i hti hio)
    · refine ⟨fun hnone => ?_, fun hlt => absurd hlt (by omega), fun _ _ => hsome⟩
      obtain ⟨i, u, hti, hio, hu, -, -⟩ := hsome
      exact absurd hu.writesAt (hnone i (by omega) (by omega))

end Cells

/-! ## Moves -/

namespace Session

variable {ι σ : Type} [DecidableEq ι] {listeners : Listeners ι σ}

/-- **The last write on the way survives a move**, over any log, in a ready session, as all
reachable ones are (`Reachable.ready`).  Whatever the listeners answer, the way to where the cursor
stops settles what every address holds.  If nobody gives up, the cursor stops at the target and the
move returns it, unless listeners register more than `additionLimit` others in one delivery. -/
theorem moveTo_settles (hlisteners : ∀ l m, (listeners l m).LeavesMemory) {s : Session ι σ}
    (hs : s.Ready) (position : Int) :
    let o := s.timeline.cursor
    let t := s.timeline.clamp position
    let after := (moveTo listeners s position).2.timeline
    (∀ a, s.timeline.log.Settles o after.cursor a (s.timeline.memory.cells.get? a)
      (after.memory.cells.get? a)) ∧
    (s.Unfailing listeners position →
      ((moveTo listeners s position).1 = .ok t ∧ after.cursor = t) ∨
        ((moveTo listeners s position).1 = .error .endlessDelivery ∧
          s.Overruns listeners position)) := by
  intro o t after
  have hready : (moveTo listeners s position).2.Ready := ready_call hs (.moveTo position)
  have hlog : after.log = s.timeline.log := log_call hs (.moveTo position)
  have hcells : after.memory.cells = s.timeline.memory.cells.sweep s.timeline.log o after.cursor :=
    cells_call hlisteners hs (.moveTo position)
  refine ⟨fun a => ?_, fun hunfailing => ?_⟩
  -- the move stops somewhere on the log, whoever fails on the way
  · have hstop : after.cursor ≤ s.timeline.log.length := hlog ▸ hready.cursor_le
    rw [hcells]
    exact Cells.settles_sweep _ a hs.cursor_le hstop
  · refine (hunfailing.answer_or_endless hs).imp_left fun hok => ⟨hok, ?_⟩
    obtain ⟨q, -, -, houtline, hq⟩ := moveTo_outline listeners hs.idle hs.cursor_le position
    have hcursor : after.cursor = q := congrArg Timeline.cursor houtline
    exact hcursor.trans (hq t hok).2

/-- All the way back over a log that replays nowhere, with a listener that leaves when it is first
told something: of four writes to address 5 the second one of the lowest step survives. -/
theorem moveTo_settles_back :
    let log : Log := [[⟨5, 9, 1⟩, ⟨5, 7, 2⟩], [⟨6, 3, 4⟩], [⟨5, 8, 3⟩, ⟨6, 0, 1⟩, ⟨5, 6, 4⟩]]
    let listeners : Listeners Unit Unit := fun _ _ => .removeListener () fun _ => .done
    let s : Session Unit Unit :=
      run listeners ⟨Timeline.ofTrace { log := log } {}, (), []⟩ [.moveTo 3, .addListener ()]
    s.Unfailing listeners (-2) ∧ (moveTo listeners s (-2)).1 = .ok 0 ∧
      log.Settles 3 0 5 (some 4) (some 7) ∧ log.Settles 3 0 7 none none := by
  intro log listeners s
  have hs : s.Ready := ready_run ⟨rfl, Nat.zero_le _⟩ _
  have hlisteners : ∀ l m, (listeners l m).LeavesMemory :=
    fun _ _ => .removeListener () fun _ => .done
  have hunfailing : s.Unfailing listeners (-2) :=
    unfailing_of_all_return hs (fun _ _ => .removeListener () fun _ => .done) (-2)
  obtain ⟨hsettles, hlands⟩ := moveTo_settles hlisteners hs (-2)
  rcases hlands hunfailing with ⟨hok, hcursor⟩ | ⟨-, hoverruns⟩
  · have hheld : s.timeline.memory.cells.get? 5 = some 4 ∧
        s.timeline.memory.cells.get? 7 = none := by
      decide +zetaReduce
    have hleft : (moveTo listeners s (-2)).2.timeline.memory.cells.get? 5 = some 7 ∧
        (moveTo listeners s (-2)).2.timeline.memory.cells.get? 7 = none := by
      decide +zetaReduce
    have hfive := hsettles 5
    have hseven := hsettles 7
    rw [hcursor, hheld.1, hleft.1] at hfive
    rw [hcursor, hheld.2, hleft.2] at hseven
    exact ⟨hunfailing, hok, hfive, hseven⟩
  · have hlength : (s.heard listeners (-2)).length = 1 := by decide +zetaReduce
    -- one turn does not overrun
    have hlimit := hoverruns.length_lt
    rw [hlength] at hlimit
    exact absurd hlimit (by decide)

end Session

end Rewind
