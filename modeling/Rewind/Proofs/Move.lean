import Rewind.Proofs.Delivery
import Rewind.Proofs.Sweep

/-!
# Moves

A move goes one way, step by step, and may end early when a listener fails.  `Carries` collects what
has to be shown of a family `P q` of properties of sessions with the cursor at `q` so that it holds
wherever a move ends (`travel_reaches`, `navigate_reaches`).  Two families matter: the outline of the
timeline is that of `sweepTo q` whatever listeners do (`moveTo_outline`), and so is the memory if no
listener writes to it (`moveTo_sweeps`).
-/

namespace Rewind

/-- What every write keeps true of a memory is true after several. -/
theorem Memory.setAll_keeps {Q : Memory → Prop} (hset : ∀ m a v, Q m → Q (m.set a v)) {m : Memory}
    (h : Q m) (writes : List (Int × Int)) : Q (m.setAll writes) := by
  induction writes generalizing m with
  | nil => exact h
  | cons w writes ih => exact ih (hset m w.1 w.2 h)

namespace Timeline

variable {ι : Type}

/-- The timeline when the cursor goes to `q` and nobody interferes. -/
def sweepTo (t : Timeline ι) (q : Nat) : Timeline ι :=
  { t with memory := { t.memory with cells := t.memory.cells.sweep t.log t.cursor q }, cursor := q }

theorem sweepTo_cursor (t : Timeline ι) : t.sweepTo t.cursor = t := by
  unfold sweepTo
  rw [Cells.sweep_self]

theorem advance_of_getElem? {t : Timeline ι} {step : Step} (h : t.log[t.cursor]? = some step) :
    t.advance = { t with memory := t.memory.setAll step.redos, cursor := t.cursor + 1 } := by
  unfold advance
  rw [h]

theorem retreat_of_getElem? {t : Timeline ι} {p : Nat} {step : Step} (hp : t.cursor = p + 1)
    (h : t.log[p]? = some step) :
    t.retreat = { t with memory := t.memory.setAll step.undos, cursor := p } := by
  unfold retreat
  rw [hp]
  dsimp only
  rw [h]

theorem getElem?_of_lt_count {t : Timeline ι} {q : Nat} (h : q < t.count) :
    ∃ step, t.log[q]? = some step :=
  ⟨t.log[q], List.getElem?_eq_getElem h⟩

theorem sweepTo_advance {t : Timeline ι} {q : Nat} (ho : t.cursor ≤ q) (hq : q < t.count) :
    (t.sweepTo q).advance = t.sweepTo (q + 1) := by
  obtain ⟨step, hstep⟩ := getElem?_of_lt_count hq
  have h : (t.sweepTo q).log[(t.sweepTo q).cursor]? = some step := hstep
  rw [advance_of_getElem? h]
  unfold sweepTo
  rw [Cells.sweep_succ _ ho hstep]
  rfl

theorem sweepTo_retreat {t : Timeline ι} {q : Nat} (ho : q < t.cursor) (hq : q < t.count) :
    (t.sweepTo (q + 1)).retreat = t.sweepTo q := by
  obtain ⟨step, hstep⟩ := getElem?_of_lt_count hq
  have h : (t.sweepTo (q + 1)).log[q]? = some step := hstep
  rw [retreat_of_getElem? rfl h]
  unfold sweepTo
  rw [Cells.sweep_pred _ ho hstep]
  rfl

/-- Advancing looks at nothing but the outline and the memory. -/
theorem advance_congr {t u : Timeline ι} (h : t.outline = u.outline) :
    t.advance.outline = u.advance.outline ∧
      (t.memory = u.memory → t.advance.memory = u.advance.memory) := by
  rw [eq_of_outline h]
  unfold advance
  dsimp only
  cases u.log[u.cursor]? with
  | none => exact ⟨rfl, id⟩
  | some step => exact ⟨rfl, fun hm => congrArg (Memory.setAll · step.redos) hm⟩

/-- Retreating looks at nothing but the outline and the memory. -/
theorem retreat_congr {t u : Timeline ι} (h : t.outline = u.outline) :
    t.retreat.outline = u.retreat.outline ∧
      (t.memory = u.memory → t.retreat.memory = u.retreat.memory) := by
  rw [eq_of_outline h]
  obtain ⟨_, log, _, _, _, _, cursor, _, _⟩ := u
  unfold retreat
  cases cursor with
  | zero => exact ⟨rfl, id⟩
  | succ p =>
    dsimp only
    cases log[p]? with
    | none => exact ⟨rfl, id⟩
    | some step => exact ⟨rfl, fun hm => congrArg (Memory.setAll · step.undos) hm⟩

theorem advance_registry (t : Timeline ι) : t.advance.registry = t.registry := by
  unfold advance
  split <;> rfl

theorem retreat_registry (t : Timeline ι) : t.retreat.registry = t.registry := by
  unfold retreat
  split
  · rfl
  · split <;> rfl

theorem advance_moving (t : Timeline ι) : t.advance.moving = t.moving := by
  unfold advance
  split <;> rfl

theorem retreat_moving (t : Timeline ι) : t.retreat.moving = t.moving := by
  unfold retreat
  split
  · rfl
  · split <;> rfl

theorem clamp_le_count (t : Timeline ι) (position : Int) : t.clamp position ≤ t.count :=
  Nat.min_le_left ..

section KeepsMemory

variable {Q : Memory → Prop} (hset : ∀ m a v, Q m → Q (m.set a v))
include hset

theorem advance_keeps_memory (t : Timeline ι) (h : Q t.memory) : Q t.advance.memory := by
  unfold advance
  split
  · exact Memory.setAll_keeps hset h _
  · exact h

theorem retreat_keeps_memory (t : Timeline ι) (h : Q t.memory) : Q t.retreat.memory := by
  unfold retreat
  split
  · exact h
  · split
    · exact Memory.setAll_keeps hset h _
    · exact h

end KeepsMemory

end Timeline

namespace Session

variable {ι σ : Type} [DecidableEq ι]

section Equations

variable (listeners : Listeners ι σ) (inner : Mover ι σ) (s : Session ι σ)

theorem forward_succ (n : Nat) :
    forward listeners inner (n + 1) s =
      andThen (stepForward listeners inner s) (forward listeners inner n) :=
  rfl

theorem backward_succ (n : Nat) :
    backward listeners inner (n + 1) s =
      andThen (stepBackward listeners inner s) (backward listeners inner n) :=
  rfl

/-- A move goes forward, then back, then tells the position reached; one of the ways is empty. -/
theorem travel_eq (target : Nat) :
    travel listeners inner target s =
      andThen (forward listeners inner (target - s.timeline.cursor) s) fun s₁ =>
        andThen (backward listeners inner (s₁.timeline.cursor - target) s₁) fun s₂ =>
          deliver listeners inner s₂ (.cursorMoved s₂.timeline.cursor) := by
  unfold travel andThen
  obtain ⟨result₁, s₁⟩ := forward listeners inner (target - s.timeline.cursor) s
  cases result₁ with
  | error e => rfl
  | ok _ =>
    dsimp only
    obtain ⟨result₂, s₂⟩ := backward listeners inner (s₁.timeline.cursor - target) s₁
    cases result₂ with
    | error e => rfl
    | ok _ => rfl

end Equations

section Keeps

variable {listeners : Listeners ι σ} {inner : Mover ι σ} {P : Session ι σ → Prop}
  (hreact : ∀ l n s, P s → P (react inner (listeners l n) s).2)
include hreact

theorem forward_keeps (hadvance : ∀ s, P s → P (s.update Timeline.advance)) (n : Nat)
    (s : Session ι σ) (h : P s) : P (forward listeners inner n s).2 := by
  induction n generalizing s with
  | zero => exact h
  | succ n ih =>
    rw [forward_succ]
    exact andThen_keeps (report_keeps hreact _ _ (hadvance s h)) ih

theorem backward_keeps (hretreat : ∀ s, P s → P (s.update Timeline.retreat)) (n : Nat)
    (s : Session ι σ) (h : P s) : P (backward listeners inner n s).2 := by
  induction n generalizing s with
  | zero => exact h
  | succ n ih =>
    rw [backward_succ]
    exact andThen_keeps (report_keeps hreact _ _ (hretreat s h)) ih

/-- What every step and every reaction keeps is kept by a move. -/
theorem travel_keeps (hadvance : ∀ s, P s → P (s.update Timeline.advance))
    (hretreat : ∀ s, P s → P (s.update Timeline.retreat)) (target : Nat) (s : Session ι σ)
    (h : P s) : P (travel listeners inner target s).2 := by
  rw [travel_eq]
  refine andThen_keeps (forward_keeps hreact hadvance _ s h) fun s₁ h₁ => ?_
  exact andThen_keeps (backward_keeps hreact hretreat _ s₁ h₁) fun s₂ h₂ =>
    deliver_keeps hreact s₂ _ h₂

end Keeps

/-- What makes a family of properties hold wherever a move from `o` to `target` ends. -/
structure Carries (listeners : Listeners ι σ) (inner : Mover ι σ) (o target : Nat)
    (P : Nat → Session ι σ → Prop) : Prop where
  cursor : ∀ q s, P q s → s.timeline.cursor = q
  react : ∀ q l n s, P q s → P q (react inner (listeners l n) s).2
  advance : ∀ q s, o ≤ q → q < target → P q s → P (q + 1) (s.update Timeline.advance)
  retreat : ∀ q s, target ≤ q → q < o → P (q + 1) s → P q (s.update Timeline.retreat)

section Carries

variable {listeners : Listeners ι σ} {inner : Mover ι σ} {o target : Nat}
  {P : Nat → Session ι σ → Prop} (hP : Carries listeners inner o target P)
include hP

theorem forward_reaches (n q : Nat) (s : Session ι σ) (ho : o ≤ q) (hn : q + n ≤ target)
    (h : P q s) :
    ∃ r, q ≤ r ∧ r ≤ q + n ∧ P r (forward listeners inner n s).2 ∧
      ((forward listeners inner n s).1 = .ok () → r = q + n) := by
  induction n generalizing q s with
  | zero => exact ⟨q, le_rfl, le_rfl, h, fun _ => rfl⟩
  | succ n ih =>
    have hstep : P (q + 1) (stepForward listeners inner s).2 :=
      report_keeps (hP.react (q + 1)) _ _ (hP.advance q s ho (by omega) h)
    rw [forward_succ]
    cases hs : stepForward listeners inner s with
    | mk result s' =>
      rw [hs] at hstep
      cases result with
      -- one that fails in its turn has taken the step all the same
      | error e => exact ⟨q + 1, by omega, by omega, hstep, fun hok => by cases hok⟩
      | ok _ =>
        obtain ⟨r, hqr, hrn, hr, hok⟩ := ih (q + 1) s' (by omega) (by omega) hstep
        exact ⟨r, by omega, by omega, hr, fun h => by have := hok h; omega⟩

theorem backward_reaches (n q : Nat) (s : Session ι σ) (ho : q + n ≤ o) (ht : target ≤ q)
    (h : P (q + n) s) :
    ∃ r, q ≤ r ∧ r ≤ q + n ∧ P r (backward listeners inner n s).2 ∧
      ((backward listeners inner n s).1 = .ok () → r = q) := by
  induction n generalizing s with
  | zero => exact ⟨q, le_rfl, le_rfl, h, fun _ => rfl⟩
  | succ n ih =>
    -- the step below the top of the stretch is undone first, and `P` goes down with it
    have hstep : P (q + n) (stepBackward listeners inner s).2 :=
      report_keeps (hP.react (q + n)) _ _ (hP.retreat (q + n) s (by omega) (by omega) h)
    rw [backward_succ]
    cases hs : stepBackward listeners inner s with
    | mk result s' =>
      rw [hs] at hstep
      cases result with
      | error e => exact ⟨q + n, by omega, by omega, hstep, fun hok => by cases hok⟩
      | ok _ =>
        obtain ⟨r, hqr, hrn, hr, hok⟩ := ih s' (by omega) hstep
        exact ⟨r, hqr, by omega, hr, hok⟩

/-- A move ends between its two ends, and at its target if no listener fails. -/
theorem travel_reaches (s : Session ι σ) (h : P o s) :
    ∃ q, min o target ≤ q ∧ q ≤ max o target ∧ P q (travel listeners inner target s).2 ∧
      ((travel listeners inner target s).1 = .ok () → q = target) := by
  have hcursor : s.timeline.cursor = o := hP.cursor o s h
  unfold travel
  rw [hcursor]
  -- going forward first, over no step if the target is not ahead
  obtain ⟨q₁, hq₁, hq₁', hP₁, hok₁⟩ : ∃ r, o ≤ r ∧ r ≤ o + (target - o) ∧
      P r (forward listeners inner (target - o) s).2 ∧
      ((forward listeners inner (target - o) s).1 = .ok () → r = o + (target - o)) := by
    by_cases hle : o ≤ target
    · exact forward_reaches hP _ o s le_rfl (by omega) h
    · rw [Nat.sub_eq_zero_of_le (by omega)]
      exact ⟨o, le_rfl, le_rfl, h, fun _ => rfl⟩
  cases hf : forward listeners inner (target - o) s with
  | mk result₁ s₁ =>
    rw [hf] at hP₁ hok₁
    cases result₁ with
    | error e => exact ⟨q₁, by omega, by omega, hP₁, fun hok => by cases hok⟩
    | ok _ =>
      -- only one of the two stretches is not empty, so nothing is crossed twice
      dsimp only
      have hq₁o : q₁ = o + (target - o) := hok₁ rfl
      rw [hP.cursor q₁ s₁ hP₁]
      obtain ⟨q₂, hq₂, hq₂', hP₂, hok₂⟩ : ∃ r, min o target ≤ r ∧ r ≤ max o target ∧
          P r (backward listeners inner (q₁ - target) s₁).2 ∧
          ((backward listeners inner (q₁ - target) s₁).1 = .ok () → r = target) := by
        by_cases hle : o ≤ target
        · rw [Nat.sub_eq_zero_of_le (by omega)]
          exact ⟨q₁, by omega, by omega, hP₁, fun _ => by omega⟩
        · have hsplit : target + (q₁ - target) = q₁ := by omega
          obtain ⟨r, hr, hr', hPr, hokr⟩ :=
            backward_reaches hP (q₁ - target) target s₁ (by omega) le_rfl (by rwa [hsplit])
          exact ⟨r, by omega, by omega, hPr, hokr⟩
      cases hb : backward listeners inner (q₁ - target) s₁ with
      | mk result₂ s₂ =>
        rw [hb] at hP₂ hok₂
        cases result₂ with
        | error e => exact ⟨q₂, by omega, by omega, hP₂, fun hok => by cases hok⟩
        | ok _ =>
          exact ⟨q₂, hq₂, hq₂', deliver_keeps (hP.react q₂) s₂ _ hP₂, fun _ => hok₂ rfl⟩

end Carries

/-! ## Calls from outside of any move -/

section Idle

variable {listeners : Listeners ι σ} {inner : Mover ι σ} {s s' : Session ι σ}
  (hidle : s.timeline.moving = false) (position : Int)
include hidle

/-- A move that fails answers with the error, with the flag taken back. -/
theorem navigate_of_travel_error {e : Fault}
    (h : travel listeners inner (s.timeline.clamp position) (s.setMoving true) = (.error e, s')) :
    navigate listeners inner s position = (.error e, s'.setMoving false) := by
  unfold navigate
  rw [if_neg (by rw [hidle]; decide)]
  dsimp only
  rw [h]

/-- A move that does not fail answers where it ends, with the flag taken back. -/
theorem navigate_of_travel_ok
    (h : travel listeners inner (s.timeline.clamp position) (s.setMoving true) = (.ok (), s')) :
    ∃ journal, navigate listeners inner s position =
      (.ok s'.timeline.cursor, ⟨{ s'.timeline with moving := false }, s'.kept, journal⟩) := by
  unfold navigate
  rw [if_neg (by rw [hidle]; decide)]
  dsimp only
  rw [h]
  dsimp only
  split
  · exact ⟨_, rfl⟩
  · exact ⟨_, rfl⟩

variable (listeners inner) in
/-- Apart from its answer and the journal, a move from outside does what its way does, and takes the
flag back. -/
theorem navigate_frame :
    (navigate listeners inner s position).2.timeline = { (travel listeners inner
        (s.timeline.clamp position) (s.setMoving true)).2.timeline with moving := false } ∧
      (navigate listeners inner s position).2.kept = (travel listeners inner
        (s.timeline.clamp position) (s.setMoving true)).2.kept := by
  cases h : travel listeners inner (s.timeline.clamp position) (s.setMoving true) with
  | mk result s' =>
    cases result with
    | error e =>
      rw [navigate_of_travel_error hidle position h]
      exact ⟨rfl, rfl⟩
    | ok _ =>
      obtain ⟨journal, hmove⟩ := navigate_of_travel_ok hidle position h
      rw [hmove]
      exact ⟨rfl, rfl⟩

end Idle

section KeepsMemory

variable {Q : Memory → Prop} (hset : ∀ m a v, Q m → Q (m.set a v))
include hset

/-- Whatever every write keeps true of the memory is true after any move. -/
theorem navigate_keeps_memory {listeners : Listeners ι σ} {inner : Mover ι σ}
    (hinner : ∀ s position, Q s.timeline.memory → Q (inner s position).2.timeline.memory)
    (s : Session ι σ) (position : Int) (h : Q s.timeline.memory) :
    Q (navigate listeners inner s position).2.timeline.memory := by
  have htravel : Q (travel listeners inner (s.timeline.clamp position)
      (s.setMoving true)).2.timeline.memory :=
    travel_keeps (P := fun s => Q s.timeline.memory)
      (fun l n s => react_keeps_memory hset hinner (listeners l n) s)
      (fun s h => s.timeline.advance_keeps_memory hset h)
      (fun s h => s.timeline.retreat_keeps_memory hset h) _ _ h
  cases hmoving : s.timeline.moving with
  | true =>
    rw [refuses_navigate listeners inner s position hmoving]
    exact h
  | false =>
    rw [(navigate_frame listeners inner hmoving position).1]
    exact htravel

theorem moveTo_keeps_memory (listeners : Listeners ι σ) (s : Session ι σ) (position : Int)
    (h : Q s.timeline.memory) : Q (moveTo listeners s position).2.timeline.memory :=
  navigate_keeps_memory hset (navigate_keeps_memory hset fun _ _ h => h) s position h

end KeepsMemory

/-- A move from outside ends where its way ends, with the flag taken back. -/
theorem navigate_reaches {listeners : Listeners ι σ} {inner : Mover ι σ}
    {P : Nat → Session ι σ → Prop} {s : Session ι σ} {position : Int}
    (hidle : s.timeline.moving = false)
    (hP : Carries listeners inner s.timeline.cursor (s.timeline.clamp position) P)
    (h : P s.timeline.cursor (s.setMoving true)) :
    ∃ q s', min s.timeline.cursor (s.timeline.clamp position) ≤ q ∧
      q ≤ max s.timeline.cursor (s.timeline.clamp position) ∧ P q s' ∧
      (navigate listeners inner s position).2.timeline = { s'.timeline with moving := false } ∧
      ∀ p, (navigate listeners inner s position).1 = .ok p →
        p = q ∧ q = s.timeline.clamp position := by
  obtain ⟨q, hq, hq', hPq, hok⟩ := travel_reaches hP (s.setMoving true) h
  refine ⟨q, _, hq, hq', hPq, (navigate_frame listeners inner hidle position).1, ?_⟩
  intro p hp
  -- there is an answer only where the way has been travelled to its end
  cases ht : travel listeners inner (s.timeline.clamp position) (s.setMoving true) with
  | mk result s' =>
    rw [ht] at hPq hok
    cases result with
    | error e =>
      rw [navigate_of_travel_error hidle position ht] at hp
      cases hp
    | ok _ =>
      obtain ⟨journal, hmove⟩ := navigate_of_travel_ok hidle position ht
      rw [hmove] at hp
      cases hp
      exact ⟨hP.cursor q s' hPq, hok rfl⟩

/-- What listeners keep after a move from outside is what they keep at the end of its way. -/
theorem moveTo_kept (listeners : Listeners ι σ) {s : Session ι σ}
    (hidle : s.timeline.moving = false) (position : Int) :
    (moveTo listeners s position).2.kept = (travel listeners (navigate listeners refuse)
      (s.timeline.clamp position) (s.setMoving true)).2.kept :=
  (navigate_frame listeners _ hidle position).2

section Families

variable {listeners : Listeners ι σ} {inner : Mover ι σ} {t : Timeline ι} {target : Nat}

/-- Whatever listeners do, the outline goes where the cursor goes. -/
theorem carries_outline (hinner : Refuses inner) (hmoving : t.moving = true)
    (ho : t.cursor ≤ t.count) (ht : target ≤ t.count) :
    Carries listeners inner t.cursor target
      (fun q s => s.timeline.outline = (t.sweepTo q).outline) where
  cursor q s h := congrArg Timeline.cursor h
  react q l n s h := by
    have hm : s.timeline.moving = true := (congrArg Timeline.moving h).trans hmoving
    exact (react_outline hinner _ s hm).trans h
  advance q s hle hlt h := by
    rw [← Timeline.sweepTo_advance hle (by omega)]
    exact (Timeline.advance_congr h).1
  retreat q s hle hlt h := by
    rw [← Timeline.sweepTo_retreat hlt (by omega)]
    exact (Timeline.retreat_congr h).1

/-- So does the memory if listeners do not write to it. -/
theorem carries_sweep (hinner : Refuses inner) (hlisteners : ∀ l n, (listeners l n).LeavesMemory)
    (hmoving : t.moving = true) (ho : t.cursor ≤ t.count) (ht : target ≤ t.count) :
    Carries listeners inner t.cursor target (fun q s =>
      s.timeline.outline = (t.sweepTo q).outline ∧ s.timeline.memory = (t.sweepTo q).memory) where
  cursor q s h := congrArg Timeline.cursor h.1
  react q l n s h := by
    have hm : s.timeline.moving = true := (congrArg Timeline.moving h.1).trans hmoving
    exact ⟨(react_outline hinner _ s hm).trans h.1,
      (react_memory hinner (hlisteners l n) s hm).trans h.2⟩
  advance q s hle hlt h := by
    rw [← Timeline.sweepTo_advance hle (by omega)]
    exact ⟨(Timeline.advance_congr h.1).1, (Timeline.advance_congr h.1).2 h.2⟩
  retreat q s hle hlt h := by
    rw [← Timeline.sweepTo_retreat hlt (by omega)]
    exact ⟨(Timeline.retreat_congr h.1).1, (Timeline.retreat_congr h.1).2 h.2⟩

end Families

omit [DecidableEq ι] in
/-- The end of a way with the flag set is the end of the way of an idle timeline, once the flag is
taken back. -/
theorem outline_of_setMoving {s : Session ι σ} {u : Timeline ι} {q : Nat}
    (hidle : s.timeline.moving = false)
    (h : u.outline = ((s.setMoving true).timeline.sweepTo q).outline) :
    ({ u with moving := false } : Timeline ι).outline = (s.timeline.sweepTo q).outline := by
  have hrest := congrArg (fun v : Timeline ι => { v with moving := false }) h
  refine hrest.trans ?_
  show ({ (s.timeline.sweepTo q).outline with moving := false } : Timeline ι) = _
  rw [← hidle]
  rfl

/-- **Where a move ends**, whatever listeners do: on the way from the cursor to the target, at the
target if the move returns; all but the memory and the registry is as `sweepTo` has it. -/
theorem moveTo_outline (listeners : Listeners ι σ) {s : Session ι σ}
    (hidle : s.timeline.moving = false) (hcursor : s.timeline.cursor ≤ s.timeline.count)
    (position : Int) :
    ∃ q, min s.timeline.cursor (s.timeline.clamp position) ≤ q ∧
      q ≤ max s.timeline.cursor (s.timeline.clamp position) ∧
      (moveTo listeners s position).2.timeline.outline = (s.timeline.sweepTo q).outline ∧
      ∀ p, (moveTo listeners s position).1 = .ok p → p = q ∧ q = s.timeline.clamp position := by
  have hcarries : Carries listeners (navigate listeners refuse) s.timeline.cursor
      (s.timeline.clamp position) (fun q s' =>
        s'.timeline.outline = ((s.setMoving true).timeline.sweepTo q).outline) :=
    carries_outline (t := (s.setMoving true).timeline) (refuses_navigate _ _) rfl hcursor
      (s.timeline.clamp_le_count position)
  obtain ⟨q, s', hq, hq', hP, htimeline, hok⟩ :=
    navigate_reaches hidle hcarries
      (congrArg Timeline.outline (Timeline.sweepTo_cursor _).symm)
  refine ⟨q, hq, hq', ?_, hok⟩
  unfold moveTo
  rw [htimeline]
  exact outline_of_setMoving hidle hP

/-- **Where a move ends** if no listener writes to the memory: the memory as well is as `sweepTo`
has it. -/
theorem moveTo_sweeps {listeners : Listeners ι σ}
    (hlisteners : ∀ l n, (listeners l n).LeavesMemory) {s : Session ι σ}
    (hidle : s.timeline.moving = false) (hcursor : s.timeline.cursor ≤ s.timeline.count)
    (position : Int) :
    ∃ q, min s.timeline.cursor (s.timeline.clamp position) ≤ q ∧
      q ≤ max s.timeline.cursor (s.timeline.clamp position) ∧
      (moveTo listeners s position).2.timeline.outline = (s.timeline.sweepTo q).outline ∧
      (moveTo listeners s position).2.timeline.memory = (s.timeline.sweepTo q).memory ∧
      ∀ p, (moveTo listeners s position).1 = .ok p → p = q ∧ q = s.timeline.clamp position := by
  have hcarries : Carries listeners (navigate listeners refuse) s.timeline.cursor
      (s.timeline.clamp position) (fun q s' =>
        s'.timeline.outline = ((s.setMoving true).timeline.sweepTo q).outline ∧
          s'.timeline.memory = ((s.setMoving true).timeline.sweepTo q).memory) :=
    carries_sweep (t := (s.setMoving true).timeline) (refuses_navigate _ _) hlisteners rfl hcursor
      (s.timeline.clamp_le_count position)
  have hstart := Timeline.sweepTo_cursor (s.setMoving true).timeline
  obtain ⟨q, s', hq, hq', hP, htimeline, hok⟩ :=
    navigate_reaches hidle hcarries
      ⟨congrArg Timeline.outline hstart.symm, congrArg Timeline.memory hstart.symm⟩
  refine ⟨q, hq, hq', ?_, ?_, hok⟩
  · unfold moveTo
    rw [htimeline]
    exact outline_of_setMoving hidle hP.1
  · unfold moveTo
    rw [htimeline]
    exact hP.2

/-! ## Moves that nobody hears -/

section Silent

variable (listeners : Listeners ι σ) (inner : Mover ι σ)

theorem report_silent {s : Session ι σ} (hs : s.timeline.registry = [])
    (writes : List (Int × Int)) : report listeners inner s writes = (.ok (), s) := by
  unfold report
  rw [hs]
  rfl

theorem deliver_silent {s : Session ι σ} (hs : s.timeline.registry = []) (n : Notification) :
    deliver listeners inner s n = (.ok (), s) := by
  unfold deliver deliverFrom
  rw [hs]
  rfl

section Steps

variable {t : Timeline ι} (ht : t.registry = []) (s : Session ι σ)
include ht

theorem forward_silent (n q : Nat) (ho : t.cursor ≤ q) (hn : q + n ≤ t.count) :
    forward listeners inner n { s with timeline := t.sweepTo q } =
      (.ok (), { s with timeline := t.sweepTo (q + n) }) := by
  induction n generalizing q with
  | zero => rfl
  | succ n ih =>
    have hstep : stepForward listeners inner { s with timeline := t.sweepTo q } =
        (.ok (), { s with timeline := t.sweepTo (q + 1) }) := by
      unfold stepForward update
      dsimp only
      rw [Timeline.sweepTo_advance ho (by omega)]
      exact report_silent listeners inner ht _
    have hrest := ih (q + 1) (by omega) (by omega)
    -- the steps that are left begin one further on
    rw [Nat.add_assoc, Nat.add_comm 1 n] at hrest
    rw [forward_succ, hstep]
    exact hrest

theorem backward_silent (n q : Nat) (ho : q + n ≤ t.cursor) (hn : q + n ≤ t.count) :
    backward listeners inner n { s with timeline := t.sweepTo (q + n) } =
      (.ok (), { s with timeline := t.sweepTo q }) := by
  induction n with
  | zero => rfl
  | succ n ih =>
    have hstep : stepBackward listeners inner { s with timeline := t.sweepTo (q + n + 1) } =
        (.ok (), { s with timeline := t.sweepTo (q + n) }) := by
      unfold stepBackward update
      dsimp only
      rw [Timeline.sweepTo_retreat (by omega) (by omega)]
      exact report_silent listeners inner ht _
    rw [backward_succ, ← Nat.add_assoc, hstep]
    exact ih (by omega) (by omega)

end Steps

theorem travel_silent {s : Session ι σ} (hs : s.timeline.registry = [])
    (hcursor : s.timeline.cursor ≤ s.timeline.count) {target : Nat}
    (ht : target ≤ s.timeline.count) :
    travel listeners inner target s =
      (.ok (), { s with timeline := s.timeline.sweepTo target }) := by
  have hself : { s with timeline := s.timeline.sweepTo s.timeline.cursor } = s := by
    rw [Timeline.sweepTo_cursor]
  have hend := deliver_silent listeners inner
    (s := { s with timeline := s.timeline.sweepTo target }) hs (.cursorMoved target)
  rw [travel_eq]
  by_cases hle : s.timeline.cursor ≤ target
  · have hforward := forward_silent listeners inner hs s (target - s.timeline.cursor)
      s.timeline.cursor le_rfl (by omega)
    rw [hself, Nat.add_sub_cancel' hle] at hforward
    -- nothing is left to go back over
    have hzero : (s.timeline.sweepTo target).cursor - target = 0 := Nat.sub_self target
    rw [hforward, andThen]
    dsimp only
    rw [hzero]
    exact hend
  · have hbackward := backward_silent listeners inner hs s (s.timeline.cursor - target) target
      (by omega) (by omega)
    rw [Nat.add_sub_cancel' (by omega), hself] at hbackward
    rw [Nat.sub_eq_zero_of_le (by omega), forward, andThen, hbackward]
    exact hend

/-- **A move that nobody hears** returns its target and does what `sweepTo` does. -/
theorem moveTo_silent {s : Session ι σ} (hidle : s.timeline.moving = false)
    (hcursor : s.timeline.cursor ≤ s.timeline.count) (hs : s.timeline.registry = [])
    (position : Int) :
    (moveTo listeners s position).1 = .ok (s.timeline.clamp position) ∧
      (moveTo listeners s position).2.timeline =
        s.timeline.sweepTo (s.timeline.clamp position) := by
  have htravel := travel_silent listeners (navigate listeners refuse) (s := s.setMoving true) hs
    hcursor (s.timeline.clamp_le_count position)
  have hback : { (s.setMoving true).timeline.sweepTo (s.timeline.clamp position) with
      moving := false } = s.timeline.sweepTo (s.timeline.clamp position) := by
    rw [← hidle]
    rfl
  obtain ⟨journal, hmove⟩ := navigate_of_travel_ok hidle position htravel
  rw [moveTo, hmove]
  exact ⟨rfl, hback⟩

end Silent

end Session

end Rewind
