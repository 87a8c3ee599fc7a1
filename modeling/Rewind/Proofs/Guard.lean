import Rewind.Proofs.Stream

/-!
# Moves inside of moves

A listener that asks for a move is refused, as often as it asks, and its asking leaves the timeline
as it is (`refused_of_mem_observations`).  Nothing else comes of it: a move in which nobody gives up
is the same as with other listeners, or with none.  However a move ends, the flag that refuses is
taken back (`moveTo_guarded`).
-/

namespace Rewind.Session

variable {ι σ : Type} [DecidableEq ι] {listeners : Listeners ι σ}

/-- In a move, all that a reaction asks for is refused. -/
theorem refused_react {inner : Mover ι (Watched ι σ)} (hinner : Refuses inner) (r : Reaction ι σ)
    (s : Session ι (Watched ι σ)) (h : s.timeline.moving = true)
    (hseen : ∀ o ∈ s.kept.2, o.Refused) :
    ∀ o ∈ (react inner r.observed s).2.kept.2, o.Refused := by
  have hnoted : ∀ (s : Session ι (Watched ι σ)) (o : Observation ι), o.Refused →
      (∀ o ∈ s.kept.2, o.Refused) → ∀ o' ∈ (s.noted o).kept.2, o'.Refused := by
    intro s o ho hs o' ho'
    rcases List.mem_append.mp ho' with hold | hnew
    · exact hs o' hold
    · rw [List.mem_singleton.mp hnew]
      exact ho
  -- on the reaction: a move it asks for is refused, and nothing else leaves a note of an answer
  induction r generalizing s with
  | done => exact hseen
  | fail e => exact hnoted s (.failed e) trivial hseen
  | look next ih => exact ih _ _ s h hseen
  | keep kept next ih => exact ih { s with kept := (kept, s.kept.2) } h hseen
  | moveTo position next ih =>
    rw [react_observed_moveTo hinner position next h]
    exact ih _ (s.noted _) h (hnoted s _ ⟨rfl, rfl, h⟩ hseen)
  | addListener listener next ih => exact ih (s.addListener listener) h hseen
  | removeListener listener next ih =>
    have houtline := (removeListener_frame s listener).1
    refine ih (s.removeListener listener).1 (s.removeListener listener).2
      ((congrArg Timeline.moving houtline).trans h) ?_
    rw [kept_removeListener]
    exact hseen
  | poke address value next ih => exact ih (s.poke address value) h hseen

/-- In a move, all moves that listeners ask for are refused, whatever they do. -/
theorem refused_of_mem_observations {s : Session ι σ} (hidle : s.timeline.moving = false)
    (position : Int) : ∀ o ∈ s.observations listeners position, o.Refused := by
  have hinner := refuses_navigate listeners.observed refuse
  -- what every reaction and every crossing keeps: the timeline is moving and all is refused
  let P (r : Session ι (Watched ι σ)) : Prop :=
    r.timeline.moving = true ∧ ∀ o ∈ r.kept.2, o.Refused
  have hreact : ∀ l m r, P r →
      P (react (navigate listeners.observed refuse) (listeners.observed l m) r).2 := by
    rintro l m r ⟨hmoving, hseen⟩
    refine ⟨react_moving hinner _ r hmoving, ?_⟩
    refine refused_react hinner (listeners l m) (r.noted (.told ⟨l, m, r.timeline⟩)) hmoving ?_
    intro o ho
    rcases List.mem_append.mp ho with hold | hnew
    · exact hseen o hold
    · rw [List.mem_singleton.mp hnew]
      trivial
  have htravel := travel_keeps hreact
    (fun r hr => ⟨(Timeline.advance_moving r.timeline).trans hr.1, hr.2⟩)
    (fun r hr => ⟨(Timeline.retreat_moving r.timeline).trans hr.1, hr.2⟩)
    (s.timeline.clamp position) ((s.observed []).setMoving true)
    ⟨rfl, fun o ho => absurd ho List.not_mem_nil⟩
  unfold observations
  rw [moveTo_kept listeners.observed (s := s.observed []) hidle position]
  exact htravel.2

/-- A session in which nobody is registered. -/
def unheard (s : Session ι σ) : Session ι σ := s.update fun t => { t with registry := [] }

variable (listeners) in
/-- The guard of a move against moves inside of it. -/
structure Guarded (s : Session ι σ) (position : Int) : Prop where
  /-- Every move that a listener asks for is refused and changes nothing. -/
  refused : ∀ o ∈ s.observations listeners position, o.Refused
  /-- The move returns its target, or the error that a listener gave up with. -/
  answer : (moveTo listeners s position).1 = .ok (s.timeline.clamp position) ∨
    ∃ e, (moveTo listeners s position).1 = .error e ∧ .failed e ∈ s.observations listeners position
  /-- If nobody gives up, the move returns, ends and is heard as with any other listeners that do
  not give up either, such as some that never ask for a move. -/
  unnoticed : s.Unfailing listeners position →
    ∀ {σ' : Type} (others : Listeners ι σ') (s' : Session ι σ'), s'.timeline = s.timeline →
      (∀ l ∈ s.timeline.registry, ∀ m, (others l m).LeavesRegistry) →
      s'.Unfailing others position →
      (moveTo listeners s position).1 = (moveTo others s' position).1 ∧
      (moveTo listeners s position).2.timeline.cursor =
        (moveTo others s' position).2.timeline.cursor ∧
      (s.heard listeners position).map (Sight.through Timeline.outline) =
        (s'.heard others position).map (Sight.through Timeline.outline) ∧
      ((∀ l ∈ s.timeline.registry, ∀ m, (listeners l m).LeavesMemory) →
        (∀ l ∈ s.timeline.registry, ∀ m, (others l m).LeavesMemory) →
        (moveTo listeners s position).2.timeline.memory =
            (moveTo others s' position).2.timeline.memory ∧
          s.heard listeners position = s'.heard others position)
  /-- If nobody gives up, the move returns and ends as if nobody were registered. -/
  unneeded : s.Unfailing listeners position →
    (moveTo listeners s position).1 = (moveTo listeners s.unheard position).1 ∧
    (moveTo listeners s position).2.timeline.cursor =
      (moveTo listeners s.unheard position).2.timeline.cursor ∧
    ((∀ l ∈ s.timeline.registry, ∀ m, (listeners l m).LeavesMemory) →
      (moveTo listeners s position).2.timeline.memory =
        (moveTo listeners s.unheard position).2.timeline.memory)
  /-- However the move ends, the session is ready for the next one, -/
  released : (moveTo listeners s position).2.Ready
  /-- which returns its target unless a listener gives up in it. -/
  next : ∀ next,
    let s' := (moveTo listeners s position).2
    (moveTo listeners s' next).1 = .ok (s'.timeline.clamp next) ∨
      ∃ e, (moveTo listeners s' next).1 = .error e ∧ .failed e ∈ s'.observations listeners next

/-- **Moves inside of moves**, in a ready session, as all reachable ones are (`Reachable.ready`), with
listeners that leave the registry as it is, whatever else they do: they are refused, nothing comes
of them, and however the outer move ends, the next one is carried out. -/
theorem moveTo_guarded {s : Session ι σ} (hs : s.Ready)
    (hregistry : ∀ l ∈ s.timeline.registry, ∀ m, (listeners l m).LeavesRegistry) :
    (∀ position, s.Guarded listeners position) ∧
      ∀ offset, moveBy listeners s offset = moveTo listeners s (s.timeline.cursor + offset) := by
  refine ⟨fun position => ?_, fun _ => rfl⟩
  have hready : (moveTo listeners s position).2.Ready := ready_call hs (.moveTo position)
  have hregistry' : ∀ l ∈ (moveTo listeners s position).2.timeline.registry, ∀ m,
      (listeners l m).LeavesRegistry := by
    rw [moveTo_registry hs.cursor_le hregistry hs.idle position]
    exact hregistry
  refine ⟨refused_of_mem_observations hs.idle position, answer_cases hs hregistry position,
    ?_, ?_, hready, fun next => answer_cases hready hregistry' next⟩
  · intro hunfailing σ' others s' htimeline hothers hunfailing'
    have hs' : s'.Ready := ⟨by rw [htimeline]; exact hs.idle, by rw [htimeline]; exact hs.cursor_le⟩
    rw [← htimeline] at hothers
    obtain ⟨hcursor, hmemory⟩ := hunfailing.landed hs hregistry
    obtain ⟨hcursor', hmemory'⟩ := hunfailing'.landed hs' hothers
    have htold := hunfailing.heard_outline hs hregistry
    have htold' := hunfailing'.heard_outline hs' hothers
    -- the two sessions differ in who listens, and the moves are the same on one timeline
    have hsame : (s'.setMoving true).timeline = (s.setMoving true).timeline := by
      unfold setMoving update
      rw [htimeline]
    rw [hsame, htimeline] at htold'
    rw [htimeline] at hcursor' hmemory'
    refine ⟨?_, hcursor.trans hcursor'.symm, htold.trans htold'.symm, fun hquiet hquiet' => ?_⟩
    · rw [hunfailing.answer hs hregistry, hunfailing'.answer hs' hothers, htimeline]
    · refine ⟨(hmemory hquiet).trans (hmemory' hquiet').symm, ?_⟩
      rw [hunfailing.heard_eq hs hregistry hquiet,
        hunfailing'.heard_eq hs' hothers (by rwa [htimeline]), hsame, htimeline]
  -- without anybody to hear it the move does the same
  · intro hunfailing
    obtain ⟨hcursor, hmemory⟩ := hunfailing.landed hs hregistry
    obtain ⟨hanswer, hunheard⟩ :=
      moveTo_silent listeners (s := s.unheard) hs.idle hs.cursor_le rfl position
    refine ⟨(hunfailing.answer hs hregistry).trans hanswer.symm, ?_, fun hquiet => ?_⟩
    · rw [hcursor, hunheard]
      rfl
    · rw [hmemory hquiet, hunheard]
      rfl

/-- A listener that asks for a move, keeps the refusal to itself, asks again, and lets the refusal
out at the end of the outer move. -/
theorem moveTo_guarded_second_request :
    let listeners : Listeners Unit Unit := fun _ m => .moveTo 7 fun _ => .moveTo 0 fun answer =>
      match m with
      | .cellChanged .. => .done
      | .cursorMoved _ => .finish answer
    let s : Session Unit Unit :=
      run listeners ⟨Timeline.ofTrace { log := [[⟨5, 0, 42⟩]] } {}, (), []⟩ [.addListener ()]
    (moveTo listeners s 1).1 = .error .moveInProgress ∧
      (∀ o ∈ s.observations listeners 1, o.Refused) ∧ (moveTo listeners s 1).2.Ready := by
  intro listeners s
  have hs : s.Ready := ready_run ⟨rfl, Nat.zero_le _⟩ _
  have hregistry : ∀ l ∈ s.timeline.registry, ∀ m, (listeners l m).LeavesRegistry := by
    intro l _ m
    refine .moveTo 7 fun _ => .moveTo 0 fun answer => ?_
    cases m with
    | cellChanged a v => exact .done
    | cursorMoved p =>
      cases answer with
      | ok q => exact .done
      | error e => exact .fail e
  have hguarded := (moveTo_guarded hs hregistry).1 1
  exact ⟨by decide +zetaReduce, hguarded.refused, hguarded.released⟩

end Rewind.Session
