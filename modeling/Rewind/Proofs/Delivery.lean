import Mathlib.Data.Nat.Basic
import Mathlib.Order.Basic
import Mathlib.Tactic.Common
import Rewind.Timeline.Session

/-!
# Deliveries during a move

What listeners can do to a timeline while it moves.  A move that they ask for is refused
(`Refuses`), so whatever they do changes at most the memory and the registry (`react_outline`), the
memory only if they write to it (`react_memory`) and the registry only if they register or leave
(`react_registry`).  Deliveries do one thing after another (`andThen`), so a property that every
reaction keeps is kept by a delivery and by the report of a step (`deliver_keeps`, `report_keeps`).
-/

namespace Rewind

namespace Timeline

variable {ι : Type}

/-- The timeline apart from its memory and its listeners. -/
def outline (t : Timeline ι) : Timeline ι := { t with memory := ⟨.empty, .zero⟩, registry := [] }

theorem eq_of_outline {t u : Timeline ι} (h : t.outline = u.outline) :
    t = { u with memory := t.memory, registry := t.registry } := by
  cases t
  cases u
  simp only [outline, mk.injEq] at h ⊢
  exact ⟨h.1, h.2.1, h.2.2.1, h.2.2.2.1, h.2.2.2.2.1, trivial, h.2.2.2.2.2.2.1, trivial,
    h.2.2.2.2.2.2.2.2⟩

theorem outline_removeListener [DecidableEq ι] {t u : Timeline ι} {listener : ι}
    (h : t.removeListener listener = .ok u) : u.outline = t.outline ∧ u.memory = t.memory := by
  unfold removeListener at h
  split at h
  · cases h
    exact ⟨rfl, rfl⟩
  · cases h

end Timeline

namespace Session

variable {ι σ : Type} [DecidableEq ι]

/-- Every move that is asked for during a move is refused and changes nothing. -/
def Refuses (inner : Mover ι σ) : Prop :=
  ∀ s position, s.timeline.moving = true → inner s position = (.error .moveInProgress, s)

theorem refuses_navigate (listeners : Listeners ι σ) (inner : Mover ι σ) :
    Refuses (navigate listeners inner) := by
  intro s position h
  unfold navigate
  rw [if_pos h]

theorem removeListener_frame (s : Session ι σ) (listener : ι) :
    (s.removeListener listener).2.timeline.outline = s.timeline.outline ∧
      (s.removeListener listener).2.timeline.memory = s.timeline.memory := by
  unfold removeListener
  cases h : s.timeline.removeListener listener with
  | error e => exact ⟨rfl, rfl⟩
  | ok t => exact Timeline.outline_removeListener h

/-! ## One reaction -/

section React

variable {inner : Mover ι σ} (hinner : Refuses inner)
include hinner

theorem react_outline (r : Reaction ι σ) (s : Session ι σ) (h : s.timeline.moving = true) :
    (react inner r s).2.timeline.outline = s.timeline.outline := by
  induction r generalizing s with
  | done => rfl
  | fail e => rfl
  | look next ih => exact ih s.kept s.timeline s h
  | keep kept next ih => exact ih { s with kept := kept } h
  | moveTo position next ih =>
    simp only [react]
    rw [hinner s position h]
    exact ih _ s h
  | addListener listener next ih => exact ih (s.addListener listener) h
  | removeListener listener next ih =>
    have hframe := (removeListener_frame s listener).1
    exact (ih _ _ ((congrArg Timeline.moving hframe).trans h)).trans hframe
  | poke address value next ih => exact ih (s.poke address value) h

theorem react_moving (r : Reaction ι σ) (s : Session ι σ) (h : s.timeline.moving = true) :
    (react inner r s).2.timeline.moving = true :=
  (congrArg Timeline.moving (react_outline hinner r s h)).trans h

theorem react_memory {r : Reaction ι σ} (hr : r.LeavesMemory) (s : Session ι σ)
    (h : s.timeline.moving = true) : (react inner r s).2.timeline.memory = s.timeline.memory := by
  induction hr generalizing s with
  | done => rfl
  | fail e => rfl
  | look _ ih => exact ih s.kept s.timeline s h
  | keep kept _ ih => exact ih { s with kept := kept } h
  | moveTo position _ ih =>
    simp only [react]
    rw [hinner s position h]
    exact ih _ s h
  | addListener listener _ ih => exact ih (s.addListener listener) h
  | removeListener listener _ ih =>
    obtain ⟨houtline, hmemory⟩ := removeListener_frame s listener
    exact (ih _ _ ((congrArg Timeline.moving houtline).trans h)).trans hmemory

theorem react_registry {r : Reaction ι σ} (hr : r.LeavesRegistry) (s : Session ι σ)
    (h : s.timeline.moving = true) :
    (react inner r s).2.timeline.registry = s.timeline.registry := by
  induction hr generalizing s with
  | done => rfl
  | fail e => rfl
  | look _ ih => exact ih s.kept s.timeline s h
  | keep kept _ ih => exact ih { s with kept := kept } h
  | moveTo position _ ih =>
    simp only [react]
    rw [hinner s position h]
    exact ih _ s h
  | poke address value _ ih => exact ih (s.poke address value) h

end React

/-- Whatever every write keeps true of the memory is true after any reaction. -/
theorem react_keeps_memory {inner : Mover ι σ} {Q : Memory → Prop}
    (hset : ∀ m a v, Q m → Q (m.set a v))
    (hinner : ∀ s position, Q s.timeline.memory → Q (inner s position).2.timeline.memory)
    (r : Reaction ι σ) (s : Session ι σ) (h : Q s.timeline.memory) :
    Q (react inner r s).2.timeline.memory := by
  -- on the reaction: only a poke sets a cell itself, and only a move may do so through `inner`
  induction r generalizing s with
  | done => exact h
  | fail e => exact h
  | look next ih => exact ih s.kept s.timeline s h
  | keep kept next ih => exact ih { s with kept := kept } h
  | moveTo position next ih => exact ih _ _ (hinner s position h)
  | addListener listener next ih => exact ih (s.addListener listener) h
  | removeListener listener next ih =>
    refine ih _ _ ?_
    rw [(removeListener_frame s listener).2]
    exact h
  | poke address value next ih => exact ih (s.poke address value) (hset _ _ _ h)

/-! ## One thing after another -/

section AndThen

variable {o : Outcome ι σ Unit} {f g : Session ι σ → Outcome ι σ Unit}

omit [DecidableEq ι]

/-- Goes on unless something has failed. -/
def andThen (o : Outcome ι σ Unit) (f : Session ι σ → Outcome ι σ Unit) : Outcome ι σ Unit :=
  match o with
  | (.ok (), s) => f s
  | (.error e, s) => (.error e, s)

/-- What comes next matters only if all went well. -/
theorem andThen_congr (h : ∀ s, o = (.ok (), s) → f s = g s) : andThen o f = andThen o g := by
  obtain ⟨result, s⟩ := o
  cases result with
  | error e => rfl
  | ok _ => exact h s rfl

theorem andThen_assoc : andThen (andThen o f) g = andThen o fun s => andThen (f s) g := by
  obtain ⟨result, s⟩ := o
  cases result with
  | error e => rfl
  | ok _ => rfl

theorem andThen_eq_ok_iff {s' : Session ι σ} :
    andThen o f = (.ok (), s') ↔ ∃ s, o = (.ok (), s) ∧ f s = (.ok (), s') := by
  obtain ⟨result, s⟩ := o
  constructor
  · intro h
    cases result with
    | error e => cases h
    | ok _ => exact ⟨s, rfl, h⟩
  · rintro ⟨s₁, ho, hf⟩
    cases ho
    exact hf

theorem andThen_keeps {P : Session ι σ → Prop} (ho : P o.2) (hf : ∀ s, P s → P (f s).2) :
    P (andThen o f).2 := by
  obtain ⟨result, s⟩ := o
  cases result with
  | error e => exact ho
  | ok _ => exact hf s ho

end AndThen

/-! ## Deliveries and reports -/

theorem deliverFrom_succ (listeners : Listeners ι σ) (inner : Mover ι σ) (n : Notification)
    (fuel i : Nat) (s : Session ι σ) :
    deliverFrom listeners inner n (fuel + 1) i s =
      match s.timeline.registry[i]? with
      | none => (.ok (), s)
      | some listener =>
        andThen (react inner (listeners listener n) s)
          (deliverFrom listeners inner n fuel (i + 1)) :=
  rfl

/-- The bound on the turns decides nothing else: with a higher one a delivery that is not given up
is the same. -/
theorem deliverFrom_add_fuel (listeners : Listeners ι σ) (inner : Mover ι σ) (n : Notification)
    (fuel extra i : Nat) (s : Session ι σ)
    (h : (deliverFrom listeners inner n fuel i s).1 ≠ .error .endlessDelivery) :
    deliverFrom listeners inner n (fuel + extra) i s = deliverFrom listeners inner n fuel i s := by
  induction fuel generalizing i s with
  | zero => exact absurd rfl h
  | succ fuel ih =>
    rw [Nat.add_right_comm, deliverFrom_succ, deliverFrom_succ]
    rw [deliverFrom_succ] at h
    cases hl : s.timeline.registry[i]? with
    | none => rfl
    | some l =>
      rw [hl] at h
      dsimp only at h
      refine andThen_congr fun s₁ htold => ih (i + 1) s₁ ?_
      rwa [htold] at h

theorem deliverAll_cons (listeners : Listeners ι σ) (inner : Mover ι σ) (s : Session ι σ)
    (n : Notification) (ns : List Notification) :
    deliverAll listeners inner s (n :: ns) =
      andThen (deliver listeners inner s n) (deliverAll listeners inner · ns) :=
  rfl

section Keeps

variable {listeners : Listeners ι σ} {inner : Mover ι σ} {P : Session ι σ → Prop}
  (hreact : ∀ l n s, P s → P (react inner (listeners l n) s).2)
include hreact

theorem deliverFrom_keeps (n : Notification) (fuel i : Nat) (s : Session ι σ) (h : P s) :
    P (deliverFrom listeners inner n fuel i s).2 := by
  induction fuel generalizing i s with
  | zero => exact h
  | succ fuel ih =>
    rw [deliverFrom_succ]
    cases s.timeline.registry[i]? with
    | none => exact h
    | some l => exact andThen_keeps (hreact l n s h) fun s' h' => ih (i + 1) s' h'

theorem deliver_keeps (s : Session ι σ) (n : Notification) (h : P s) :
    P (deliver listeners inner s n).2 := by
  unfold deliver
  exact deliverFrom_keeps hreact n _ 0 s h

theorem deliverAll_keeps (ns : List Notification) (s : Session ι σ) (h : P s) :
    P (deliverAll listeners inner s ns).2 := by
  induction ns generalizing s with
  | nil => exact h
  | cons n ns ih =>
    rw [deliverAll_cons]
    exact andThen_keeps (deliver_keeps hreact s n h) ih

theorem report_keeps (s : Session ι σ) (writes : List (Int × Int)) (h : P s) :
    P (report listeners inner s writes).2 := by
  unfold report
  split
  · exact h
  · exact deliverAll_keeps hreact _ s h

end Keeps

end Session

end Rewind
