import Rewind.Proofs.Round

/-!
# Places in the registry

A listener that is added goes behind all others, so as long as nobody is removed everyone keeps the
place that he has (`heard_getElem?`).  Then those who are registered when a move begins are told
everything, in order and ahead of those who come (`Delivers.told_prefix`).
-/

namespace Rewind

namespace Reaction

variable {ι σ : Type}

/-- Whether a reaction takes nobody off the registry. -/
inductive RemovesNobody : Reaction ι σ → Prop
  | done : RemovesNobody .done
  | fail (e : Fault) : RemovesNobody (.fail e)
  | look {k : σ → Timeline ι → Reaction ι σ} (h : ∀ s t, RemovesNobody (k s t)) :
    RemovesNobody (.look k)
  | keep (s : σ) {r : Reaction ι σ} (h : RemovesNobody r) : RemovesNobody (.keep s r)
  | moveTo (p : Int) {k : Except Fault Nat → Reaction ι σ} (h : ∀ a, RemovesNobody (k a)) :
    RemovesNobody (.moveTo p k)
  | addListener (l : ι) {r : Reaction ι σ} (h : RemovesNobody r) : RemovesNobody (.addListener l r)
  | poke (a v : Int) {r : Reaction ι σ} (h : RemovesNobody r) : RemovesNobody (.poke a v r)

theorem RemovesNobody.note (o : Observation ι) {r : Reaction ι (Watched ι σ)}
    (h : r.RemovesNobody) : (r.note o).RemovesNobody :=
  .look fun _ _ => .keep _ h

theorem RemovesNobody.observed {r : Reaction ι σ} (h : r.RemovesNobody) :
    r.observed.RemovesNobody := by
  induction h with
  | done => exact .done
  | fail e => exact .note _ (.fail e)
  | look _ ih => exact .look fun kept t => ih kept.1 t
  | keep kept _ ih => exact .look fun _ _ => .keep _ ih
  | moveTo p _ ih => exact .look fun _ _ => .moveTo p fun a => .look fun _ _ => .note _ (ih a)
  | addListener l _ ih => exact .addListener l ih
  | poke a v _ ih => exact .poke a v ih

end Reaction

namespace Session

variable {ι σ : Type} [DecidableEq ι] {listeners : Listeners ι σ} {s : Session ι σ} {l : ι}

/-- In a move, a reaction that removes nobody moves nobody. -/
theorem react_getElem? {inner : Mover ι σ} (hinner : Refuses inner) {r : Reaction ι σ}
    (hr : r.RemovesNobody) (s : Session ι σ) (h : s.timeline.moving = true) {j : Nat}
    (hl : s.timeline.registry[j]? = some l) :
    (react inner r s).2.timeline.registry[j]? = some l := by
  induction hr generalizing s with
  | done => exact hl
  | fail e => exact hl
  | look _ ih => exact ih s.kept s.timeline s h hl
  | keep kept _ ih => exact ih { s with kept := kept } h hl
  | moveTo position _ ih =>
    simp only [react]
    rw [hinner s position h]
    exact ih _ s h hl
  | addListener listener _ ih =>
    -- a new listener comes behind all the others, so nobody's place changes
    refine ih (s.addListener listener) h ?_
    show (s.timeline.registry ++ [listener])[j]? = some l
    rw [List.getElem?_append_left (List.getElem?_eq_some_iff.mp hl).1, hl]
  | poke address value _ ih => exact ih (s.poke address value) h hl

section Places

variable (hs : s.Ready) (hlisteners : ∀ l m, (listeners l m).RemovesNobody)
include hs hlisteners

/-- If nobody is removed in a move, everyone keeps his place. -/
theorem heard_getElem? {j : Nat} (hl : s.timeline.registry[j]? = some l) (position : Int) :
    (∀ x ∈ s.heard listeners position, x.timeline.registry[j]? = some l) ∧
      (moveTo listeners s position).2.timeline.registry[j]? = some l := by
  have hinner := refuses_navigate listeners.observed refuse
  -- what every reaction and every crossing keeps: whoever has place `j` now had it all along
  let P (r : Session ι (Watched ι σ)) : Prop :=
    r.timeline.moving = true ∧ r.timeline.registry[j]? = some l ∧
      ∀ x ∈ Observation.sights r.kept.2, x.timeline.registry[j]? = some l
  have hreact : ∀ l m r, P r →
      P (react (navigate listeners.observed refuse) (listeners.observed l m) r).2 := by
    rintro l' m r ⟨hmoving, hplace, hseen⟩
    have hremoves : (listeners.observed l' m).RemovesNobody :=
      .look fun _ _ => .keep _ (hlisteners l' m).observed
    refine ⟨react_moving hinner _ r hmoving, react_getElem? hinner hremoves r hmoving hplace, ?_⟩
    rw [sights_tell listeners hinner l' m hmoving, List.forall_mem_append]
    exact ⟨hseen, fun x hx => List.mem_singleton.mp hx ▸ hplace⟩
  have hcross : ∀ c r, P r → P (r.update (Timeline.cross c)) := by
    rintro c r ⟨hmoving, hplace, hseen⟩
    refine ⟨(Timeline.cross_moving c r.timeline).trans hmoving, ?_, hseen⟩
    show (r.timeline.cross c).registry[j]? = some l
    rw [Timeline.cross_registry]
    exact hplace
  obtain ⟨result, s', hcourse, -, htimeline, hseen⟩ := moveTo_course listeners hs position
  have hstart : P ((s.observed []).setMoving true) :=
    ⟨rfl, hl, by simp [Observation.sights, observed, setMoving, update]⟩
  have hkept := happenAll_keeps hreact hcross (s.timeline.events position) _ hstart
  rw [hcourse] at hkept
  unfold heard
  rw [hseen, htimeline]
  exact ⟨hkept.2.2, hkept.2.1⟩

/-- If nobody is removed in a move, those who are registered when it begins are told everything, in
order and ahead of those who come. -/
theorem Delivers.told_prefix {position : Int} {rounds : List (Round ι)}
    (h : s.Delivers listeners position rounds) : ∀ r ∈ rounds, s.timeline.registry <+: r.told := by
  intro r hr
  rw [List.prefix_iff_getElem?]
  intro j hj
  have hl : s.timeline.registry[j]? = some s.timeline.registry[j] := List.getElem?_eq_getElem hj
  obtain ⟨hturns, hend⟩ := heard_getElem? hs hlisteners hl position
  exact h.kept j _ hturns hend r hr

end Places

end Session

end Rewind
