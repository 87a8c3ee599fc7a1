import Mathlib.Data.Nat.Basic
import Mathlib.Order.Basic
import Mathlib.Tactic.Common
import Rewind.Proofs.Lockstep
import Rewind.Proofs.Perform

/-!
# What is seen of listeners

Listeners may do all sorts of things and need not tell.  `Listeners.observed` are the same listeners
with an observer beside each, who notes in order what they are told and how they find the timeline,
every move that they ask for with what becomes of it, and that they give up.  Observing changes
nothing: the move of observed listeners is the move of the listeners with the notes beside it
(`moveTo_observed`).  So `Session.observations` are what happens in a move, and statements about
listeners are made with them.
-/

namespace Rewind

/-- A listener that is told something, and the timeline as it finds it. -/
structure Sight (ι : Type) where
  listener : ι
  message : Notification
  timeline : Timeline ι

/-- What an observer notes. -/
inductive Observation (ι : Type) where
  /-- A listener is told something. -/
  | told (sight : Sight ι)
  /-- A move is asked for; the timeline before and after, with the answer. -/
  | asked (position : Int) (before : Timeline ι) (answer : Except Fault Nat) (after : Timeline ι)
  /-- A listener gives up. -/
  | failed (fault : Fault)

namespace Observation

variable {ι : Type}

/-- The sight of an observation that is one. -/
def sight? : Observation ι → Option (Sight ι)
  | told x => some x
  | asked .. => none
  | failed _ => none

/-- What is told, in order. -/
def sights (seen : List (Observation ι)) : List (Sight ι) := seen.filterMap sight?

theorem sights_append (seen more : List (Observation ι)) :
    sights (seen ++ more) = sights seen ++ sights more := List.filterMap_append

/-- If the observation is of a move that is asked for, then the move was refused during another one,
and nothing has changed. -/
def Refused : Observation ι → Prop
  | asked _ before answer after =>
    answer = .error .moveInProgress ∧ after = before ∧ before.moving = true
  | told _ => True
  | failed _ => True

end Observation

/-- What listeners keep, with what has been seen of them. -/
abbrev Watched (ι σ : Type) : Type := σ × List (Observation ι)

namespace Reaction

variable {ι σ : Type}

/-- Notes an observation. -/
def note (o : Observation ι) (next : Reaction ι (Watched ι σ)) : Reaction ι (Watched ι σ) :=
  .look fun kept _ => .keep (kept.1, kept.2 ++ [o]) next

/-- The same reaction, with its moves and its giving up noted. -/
def observed : Reaction ι σ → Reaction ι (Watched ι σ)
  | .done => .done
  | .fail e => note (.failed e) (.fail e)
  | .look next => .look fun kept t => (next kept.1 t).observed
  | .keep kept next => .look fun both _ => .keep (kept, both.2) next.observed
  | .moveTo position next =>
    .look fun _ before => .moveTo position fun answer =>
      .look fun _ after => note (.asked position before answer after) (next answer).observed
  | .addListener listener next => .addListener listener next.observed
  | .removeListener listener next => .removeListener listener fun answer => (next answer).observed
  | .poke address value next => .poke address value next.observed

theorem LeavesRegistry.note (o : Observation ι) {r : Reaction ι (Watched ι σ)}
    (h : r.LeavesRegistry) : (r.note o).LeavesRegistry :=
  .look fun _ _ => .keep _ h

theorem LeavesMemory.note (o : Observation ι) {r : Reaction ι (Watched ι σ)}
    (h : r.LeavesMemory) : (r.note o).LeavesMemory :=
  .look fun _ _ => .keep _ h

theorem LeavesRegistry.observed {r : Reaction ι σ} (h : r.LeavesRegistry) :
    r.observed.LeavesRegistry := by
  induction h with
  | done => exact .done
  | fail e => exact .note _ (.fail e)
  | look _ ih => exact .look fun kept t => ih kept.1 t
  | keep kept _ ih => exact .look fun _ _ => .keep _ ih
  | moveTo p _ ih => exact .look fun _ _ => .moveTo p fun a => .look fun _ _ => .note _ (ih a)
  | poke a v _ ih => exact .poke a v ih

theorem LeavesMemory.observed {r : Reaction ι σ} (h : r.LeavesMemory) :
    r.observed.LeavesMemory := by
  induction h with
  | done => exact .done
  | fail e => exact .note _ (.fail e)
  | look _ ih => exact .look fun kept t => ih kept.1 t
  | keep kept _ ih => exact .look fun _ _ => .keep _ ih
  | moveTo p _ ih => exact .look fun _ _ => .moveTo p fun a => .look fun _ _ => .note _ (ih a)
  | addListener l _ ih => exact .addListener l ih
  | removeListener l _ ih => exact .removeListener l ih

end Reaction

/-- Listeners with an observer beside each. -/
def Listeners.observed {ι σ : Type} (listeners : Listeners ι σ) : Listeners ι (Watched ι σ) :=
  fun l m => .look fun kept t =>
    .keep (kept.1, kept.2 ++ [.told ⟨l, m, t⟩]) (listeners l m).observed

theorem Listeners.observed_leavesRegistry {ι σ : Type} {listeners : Listeners ι σ}
    {registry : List ι} (h : ∀ l ∈ registry, ∀ m, (listeners l m).LeavesRegistry) :
    ∀ l ∈ registry, ∀ m, (listeners.observed l m).LeavesRegistry :=
  fun l hl m => .look fun _ _ => .keep _ (h l hl m).observed

theorem Listeners.observed_leavesMemory {ι σ : Type} {listeners : Listeners ι σ}
    {registry : List ι} (h : ∀ l ∈ registry, ∀ m, (listeners l m).LeavesMemory) :
    ∀ l ∈ registry, ∀ m, (listeners.observed l m).LeavesMemory :=
  fun l hl m => .look fun _ _ => .keep _ (h l hl m).observed

namespace Session

variable {ι σ : Type}

/-- A session with what has been seen of its listeners. -/
def observed (s : Session ι σ) (seen : List (Observation ι)) : Session ι (Watched ι σ) where
  timeline := s.timeline
  kept := (s.kept, seen)
  journal := s.journal

@[simp] theorem timeline_observed (s : Session ι σ) (seen : List (Observation ι)) :
    (s.observed seen).timeline = s.timeline := rfl

/-- The outcome is the same but for what has been seen of listeners. -/
def Shadows {α : Type} (o : Outcome ι σ α) (o' : Outcome ι (Watched ι σ) α) : Prop :=
  ∃ seen, o' = (o.1, o.2.observed seen)

/-- The session with something that has been seen of its listeners. -/
def Observes (s : Session ι σ) (s' : Session ι (Watched ι σ)) : Prop :=
  ∃ seen, s' = s.observed seen

theorem shadows_iff {α : Type} {o : Outcome ι σ α} {o' : Outcome ι (Watched ι σ) α} :
    Shadows o o' ↔ Parallel Observes o o' := by
  constructor
  · rintro ⟨seen, rfl⟩
    exact ⟨rfl, seen, rfl⟩
  · rintro ⟨hanswer, seen, hs⟩
    exact ⟨seen, Prod.ext hanswer hs⟩

theorem lockstep_observes :
    Lockstep (Observes : Session ι σ → Session ι (Watched ι σ) → Prop) where
  log := by
    rintro s _ ⟨seen, rfl⟩
    rfl
  cursor := by
    rintro s _ ⟨seen, rfl⟩
    rfl
  registry := by
    rintro s _ ⟨seen, rfl⟩
    rfl
  moving := by
    rintro s _ ⟨seen, rfl⟩
    rfl
  advance := by
    rintro s _ ⟨seen, rfl⟩
    exact ⟨seen, rfl⟩
  retreat := by
    rintro s _ ⟨seen, rfl⟩
    exact ⟨seen, rfl⟩
  setMoving := by
    rintro s _ ⟨seen, rfl⟩ moving
    exact ⟨seen, rfl⟩
  register := by
    rintro s _ ⟨seen, rfl⟩ registry
    exact ⟨seen, rfl⟩
  note := by
    rintro s _ ⟨seen, rfl⟩ entry
    exact ⟨seen, rfl⟩

variable [DecidableEq ι]

/-! ## Observing changes nothing -/

section Shadows

variable {inner : Mover ι σ} {inner' : Mover ι (Watched ι σ)}
  (hinner : ∀ s seen position, Shadows (inner s position) (inner' (s.observed seen) position))
include hinner

theorem shadows_react (r : Reaction ι σ) (s : Session ι σ) (seen : List (Observation ι)) :
    Shadows (react inner r s) (react inner' r.observed (s.observed seen)) := by
  induction r generalizing s seen with
  | done => exact ⟨seen, rfl⟩
  | fail e => exact ⟨seen ++ [.failed e], rfl⟩
  | look next ih => exact ih s.kept s.timeline s seen
  | keep kept next ih => exact ih { s with kept := kept } seen
  -- the watched mover answers as the other one does, so both go on alike
  | moveTo position next ih =>
    obtain ⟨seen', hanswer⟩ := hinner s seen position
    simp only [Reaction.observed, react]
    show Shadows _ (react inner' _ (inner' (s.observed seen) position).2)
    rw [timeline_observed, hanswer]
    exact ih _ _ _
  | addListener listener next ih => exact ih (s.addListener listener) seen
  | removeListener listener next ih =>
    -- a removal looks at the registry only, so it fails on both sides or on neither
    have hanswer : (s.observed seen).removeListener listener =
        ((s.removeListener listener).1, (s.removeListener listener).2.observed seen) := by
      unfold removeListener
      rw [timeline_observed]
      cases s.timeline.removeListener listener with
      | ok t => rfl
      | error e => rfl
    simp only [Reaction.observed, react]
    rw [hanswer]
    exact ih _ _ seen
  | poke address value next ih => exact ih (s.poke address value) seen

end Shadows

variable (listeners : Listeners ι σ) (s : Session ι σ) (position : Int)

/-- What is seen of listeners in a move. -/
def observations : List (Observation ι) :=
  (moveTo listeners.observed (s.observed []) position).2.kept.2

/-- What is told in a move, to whom, and how they find the timeline. -/
def heard : List (Sight ι) := Observation.sights (s.observations listeners position)

/-- No listener gives up in a move. -/
def Unfailing : Prop := ∀ e, .failed e ∉ s.observations listeners position

/-- **Observing a move changes nothing.** -/
theorem moveTo_observed :
    moveTo listeners.observed (s.observed []) position =
      ((moveTo listeners s position).1,
        (moveTo listeners s position).2.observed (s.observations listeners position)) := by
  have hreact : ∀ (inner : Mover ι σ) (inner' : Mover ι (Watched ι σ)),
      (∀ s s', Observes s s' → ∀ position,
        Parallel Observes (inner s position) (inner' s' position)) →
      ∀ l n s s', Observes s s' → Parallel Observes (react inner (listeners l n) s)
        (react inner' (listeners.observed l n) s') := by
    rintro inner inner' hinner l n s _ ⟨seen, rfl⟩
    have hshadows : ∀ s seen position,
        Shadows (inner s position) (inner' (s.observed seen) position) :=
      fun s seen position => shadows_iff.mpr (hinner s _ ⟨seen, rfl⟩ position)
    exact shadows_iff.mp (shadows_react hshadows (listeners l n) s _)
  have hstart : Observes s (s.observed []) := ⟨[], rfl⟩
  obtain ⟨hanswer, seen, hseen⟩ := lockstep_observes.moveTo hreact hstart position
  unfold observations
  rw [hseen]
  exact Prod.ext hanswer hseen

end Session

end Rewind
