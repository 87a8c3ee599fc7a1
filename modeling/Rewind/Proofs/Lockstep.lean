import Rewind.Proofs.Run

/-!
# Sessions in lockstep

Two sessions that go through the same.  A relation of sessions is a `Lockstep` if related sessions
are at the same place of the same log with the same listeners, and stay related while the cursor
goes over a step and listeners come and go.  If listeners also react to related sessions alike, then
each move answers alike and leaves sessions that are related (`Lockstep.moveTo`), and so does each
call and each run (`Lockstep.run`).  What the relation says besides, as of what listeners keep, is
carried along.
-/

namespace Rewind

namespace Session

variable {ι σ σ' : Type} {R : Session ι σ → Session ι σ' → Prop}

/-- The same answer, with sessions that are related. -/
def Parallel {α : Type} (R : Session ι σ → Session ι σ' → Prop) (o : Outcome ι σ α)
    (o' : Outcome ι σ' α) : Prop :=
  o'.1 = o.1 ∧ R o.2 o'.2

theorem Parallel.andThen {o : Outcome ι σ Unit} {o' : Outcome ι σ' Unit}
    {f : Session ι σ → Outcome ι σ Unit} {f' : Session ι σ' → Outcome ι σ' Unit}
    (h : Parallel R o o') (hf : ∀ s s', R s s' → Parallel R (f s) (f' s')) :
    Parallel R (andThen o f) (andThen o' f') := by
  obtain ⟨result, s⟩ := o
  obtain ⟨_, s'⟩ := o'
  obtain ⟨hresult, hs⟩ := h
  cases hresult
  cases result with
  | error e => exact ⟨rfl, hs⟩
  | ok _ => exact hf s s' hs

/-- What related sessions have in common, and what keeps them related. -/
structure Lockstep (R : Session ι σ → Session ι σ' → Prop) : Prop where
  log : ∀ {s s'}, R s s' → s'.timeline.log = s.timeline.log
  cursor : ∀ {s s'}, R s s' → s'.timeline.cursor = s.timeline.cursor
  registry : ∀ {s s'}, R s s' → s'.timeline.registry = s.timeline.registry
  moving : ∀ {s s'}, R s s' → s'.timeline.moving = s.timeline.moving
  advance : ∀ {s s'}, R s s' → R (s.update Timeline.advance) (s'.update Timeline.advance)
  retreat : ∀ {s s'}, R s s' → R (s.update Timeline.retreat) (s'.update Timeline.retreat)
  setMoving : ∀ {s s'}, R s s' → ∀ moving, R (s.setMoving moving) (s'.setMoving moving)
  register : ∀ {s s'}, R s s' → ∀ registry, R (s.update fun t => { t with registry := registry })
    (s'.update fun t => { t with registry := registry })
  note : ∀ {s s'}, R s s' → ∀ entry, R (s.note entry) (s'.note entry)

namespace Lockstep

variable (hR : Lockstep R)
include hR

theorem addListener {s : Session ι σ} {s' : Session ι σ'} (h : R s s') (l : ι) :
    R (s.addListener l) (s'.addListener l) := by
  have hadded := hR.register h (s.timeline.registry ++ [l])
  have hsame : s'.addListener l =
      s'.update fun t => { t with registry := s.timeline.registry ++ [l] } := by
    rw [← hR.registry h]
    rfl
  rw [hsame]
  exact hadded

theorem clamp {s : Session ι σ} {s' : Session ι σ'} (h : R s s') (position : Int) :
    s'.timeline.clamp position = s.timeline.clamp position := by
  unfold Timeline.clamp Timeline.count
  rw [hR.log h]

theorem redosAhead {s : Session ι σ} {s' : Session ι σ'} (h : R s s') :
    redosAhead s'.timeline = redosAhead s.timeline := by
  unfold Session.redosAhead
  rw [hR.log h, hR.cursor h]

theorem undosBehind {s : Session ι σ} {s' : Session ι σ'} (h : R s s') :
    undosBehind s'.timeline = undosBehind s.timeline := by
  unfold Session.undosBehind
  rw [hR.log h, hR.cursor h]

variable [DecidableEq ι]

theorem removeListener {s : Session ι σ} {s' : Session ι σ'} (h : R s s') (l : ι) :
    Parallel R (s.removeListener l) (s'.removeListener l) := by
  have herased := hR.register h (s.timeline.registry.erase l)
  unfold Session.removeListener Timeline.removeListener
  rw [hR.registry h]
  by_cases hl : l ∈ s.timeline.registry
  · rw [if_pos hl, if_pos hl]
    exact ⟨rfl, herased⟩
  · rw [if_neg hl, if_neg hl]
    exact ⟨rfl, h⟩

/-! ## Moves -/

section Inner

variable {listeners : Listeners ι σ} {listeners' : Listeners ι σ'} {inner : Mover ι σ}
  {inner' : Mover ι σ'}
  (hreact : ∀ l n s s', R s s' →
    Parallel R (react inner (listeners l n) s) (react inner' (listeners' l n) s'))
include hreact

theorem deliverFrom (n : Notification) (fuel i : Nat) {s : Session ι σ} {s' : Session ι σ'}
    (h : R s s') :
    Parallel R (deliverFrom listeners inner n fuel i s)
      (deliverFrom listeners' inner' n fuel i s') := by
  induction fuel generalizing i s s' with
  | zero => exact ⟨rfl, h⟩
  | succ fuel ih =>
    rw [deliverFrom_succ, deliverFrom_succ, hR.registry h]
    cases s.timeline.registry[i]? with
    | none => exact ⟨rfl, h⟩
    | some l => exact (hreact l n s s' h).andThen fun _ _ h' => ih (i + 1) h'

theorem deliver {s : Session ι σ} {s' : Session ι σ'} (h : R s s') (n : Notification) :
    Parallel R (deliver listeners inner s n) (deliver listeners' inner' s' n) := by
  unfold Session.deliver
  rw [hR.registry h]
  exact hR.deliverFrom hreact n _ 0 h

theorem deliverAll (ns : List Notification) {s : Session ι σ} {s' : Session ι σ'} (h : R s s') :
    Parallel R (deliverAll listeners inner s ns) (deliverAll listeners' inner' s' ns) := by
  induction ns generalizing s s' with
  | nil => exact ⟨rfl, h⟩
  | cons n ns ih =>
    rw [deliverAll_cons, deliverAll_cons]
    exact (hR.deliver hreact h n).andThen fun _ _ h' => ih h'

theorem report {s : Session ι σ} {s' : Session ι σ'} (h : R s s') (writes : List (Int × Int)) :
    Parallel R (report listeners inner s writes) (report listeners' inner' s' writes) := by
  unfold Session.report
  rw [hR.registry h]
  split
  · exact ⟨rfl, h⟩
  · exact hR.deliverAll hreact _ h

theorem forward (n : Nat) {s : Session ι σ} {s' : Session ι σ'} (h : R s s') :
    Parallel R (forward listeners inner n s) (forward listeners' inner' n s') := by
  induction n generalizing s s' with
  | zero => exact ⟨rfl, h⟩
  | succ n ih =>
    rw [forward_succ, forward_succ]
    unfold stepForward
    rw [hR.redosAhead h]
    exact (hR.report hreact (hR.advance h) _).andThen fun _ _ h' => ih h'

theorem backward (n : Nat) {s : Session ι σ} {s' : Session ι σ'} (h : R s s') :
    Parallel R (backward listeners inner n s) (backward listeners' inner' n s') := by
  induction n generalizing s s' with
  | zero => exact ⟨rfl, h⟩
  | succ n ih =>
    rw [backward_succ, backward_succ]
    unfold stepBackward
    rw [hR.undosBehind h]
    exact (hR.report hreact (hR.retreat h) _).andThen fun _ _ h' => ih h'

theorem travel (target : Nat) {s : Session ι σ} {s' : Session ι σ'} (h : R s s') :
    Parallel R (travel listeners inner target s) (travel listeners' inner' target s') := by
  rw [travel_eq, travel_eq, hR.cursor h]
  refine (hR.forward hreact _ h).andThen fun s₁ s₁' h₁ => ?_
  rw [hR.cursor h₁]
  refine (hR.backward hreact _ h₁).andThen fun s₂ s₂' h₂ => ?_
  rw [hR.cursor h₂]
  exact hR.deliver hreact h₂ _

theorem navigate {s : Session ι σ} {s' : Session ι σ'} (h : R s s') (position : Int) :
    Parallel R (navigate listeners inner s position) (navigate listeners' inner' s' position) := by
  unfold Session.navigate
  rw [hR.moving h, hR.cursor h, hR.clamp h]
  split
  -- a session that is moving already refuses on both sides
  · exact ⟨rfl, h⟩
  dsimp only
  have htravel := hR.travel hreact (s.timeline.clamp position) (hR.setMoving h true)
  cases ht : Session.travel listeners inner (s.timeline.clamp position) (s.setMoving true) with
  | mk result s₁ =>
    cases ht' : Session.travel listeners' inner' (s.timeline.clamp position)
      (s'.setMoving true) with
    | mk result' s₁' =>
      rw [ht, ht'] at htravel
      obtain ⟨hresult, h₁⟩ := htravel
      cases hresult
      have hback : R (s₁.setMoving false) (s₁'.setMoving false) := hR.setMoving h₁ false
      cases result with
      | error e => exact ⟨rfl, hback⟩
      | ok _ =>
        have hanswer := congrArg (fun p => (.ok p : Except Fault Nat)) (hR.cursor hback)
        dsimp only
        -- only a move that has changed the position is noted in the journal
        split
        · exact ⟨hanswer, hR.note hback _⟩
        · exact ⟨hanswer, hback⟩

end Inner

/-! ## Calls -/

variable {listeners : Listeners ι σ} {listeners' : Listeners ι σ'}
  (hreact : ∀ (inner : Mover ι σ) (inner' : Mover ι σ'),
    (∀ s s', R s s' → ∀ position, Parallel R (inner s position) (inner' s' position)) →
      ∀ l n s s', R s s' →
        Parallel R (react inner (listeners l n) s) (react inner' (listeners' l n) s'))
include hreact

/-- A move answers related sessions alike if the listeners do. -/
theorem moveTo {s : Session ι σ} {s' : Session ι σ'} (h : R s s') (position : Int) :
    Parallel R (moveTo listeners s position) (moveTo listeners' s' position) := by
  have hrefuse : ∀ s s', R s s' → ∀ position,
      Parallel R (refuse s position) (refuse s' position) := fun _ _ h _ => ⟨rfl, h⟩
  have hinner : ∀ s s', R s s' → ∀ position, Parallel R
      (Session.navigate listeners refuse s position)
      (Session.navigate listeners' refuse s' position) :=
    fun _ _ h => hR.navigate (hreact refuse refuse hrefuse) h
  exact hR.navigate (hreact _ _ hinner) h position

theorem call {s : Session ι σ} {s' : Session ι σ'} (h : R s s') (c : Call ι) :
    Parallel R (s.call listeners c) (s'.call listeners' c) := by
  cases c with
  | moveTo position =>
    obtain ⟨hanswer, hsessions⟩ := hR.moveTo hreact h position
    exact ⟨congrArg (Except.map some) hanswer, hsessions⟩
  | moveBy offset =>
    obtain ⟨hanswer, hsessions⟩ := hR.moveTo hreact h (s.timeline.cursor + offset)
    unfold Session.call moveBy
    rw [hR.cursor h]
    exact ⟨congrArg (Except.map some) hanswer, hsessions⟩
  | addListener l => exact ⟨rfl, hR.addListener h l⟩
  | removeListener l =>
    obtain ⟨hanswer, hsessions⟩ := hR.removeListener h l
    exact ⟨congrArg (Except.map fun _ => none) hanswer, hsessions⟩

/-- The calls of a run answer related sessions alike and leave them related. -/
theorem run {s : Session ι σ} {s' : Session ι σ'} (h : R s s') (calls : List (Call ι)) :
    s'.answers listeners' calls = s.answers listeners calls ∧
      R (s.run listeners calls) (s'.run listeners' calls) := by
  induction calls generalizing s s' with
  | nil => exact ⟨rfl, h⟩
  | cons c calls ih =>
    obtain ⟨hanswer, hsessions⟩ := hR.call hreact h c
    obtain ⟨hanswers, hrun⟩ := ih hsessions
    exact ⟨List.cons_eq_cons.mpr ⟨hanswer, hanswers⟩, hrun⟩

end Lockstep

end Session

end Rewind
