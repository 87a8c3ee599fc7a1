import Rewind.Proofs.Perform
import Rewind.Proofs.Run

/-!
# A listener that fails

A move whose agenda reaches a failing listener ends there, behind the crossing that the message is
about: `Event.along_eq_append_said` reads the crossing off the agenda, and `moveTo_of_failure` says
what the caller finds, and who was told what.
-/

namespace Rewind

namespace Crossing

theorem forth_mem_path {i o t : Nat} : forth i ∈ path o t ↔ o ≤ i ∧ i < t := by
  simp only [path, ahead, behind, List.mem_append, List.mem_map, List.mem_reverse, forth.injEq,
    reduceCtorEq, and_false, exists_false, or_false, exists_eq_right, List.mem_range'_1]
  omega

theorem back_mem_path {i o t : Nat} : back i ∈ path o t ↔ t ≤ i ∧ i < o := by
  simp only [path, ahead, behind, List.mem_append, List.mem_map, List.mem_reverse, back.injEq,
    reduceCtorEq, and_false, exists_false, false_or, exists_eq_right, List.mem_range'_1]
  omega

end Crossing

namespace Event

/-- A message on the way is about the last crossing before it, or it is the last message and all
crossings are done. -/
theorem along_eq_append_said {log : Log} {cs : List Crossing} {last : Event}
    {before after : List Event} {about : Option Crossing} {m : Notification} (q : Nat)
    (h : along log cs ++ [last] = before ++ .said about m :: after) :
    (∃ c ∈ cs, about = some c ∧ landing q before = c.cursor) ∨
      (last = .said about m ∧ before = along log cs) := by
  induction cs generalizing before q with
  | nil =>
    cases before with
    | nil => exact .inr ⟨(List.cons.inj h).1, rfl⟩
    | cons b before => simp [along] at h
  | cons c cs ih =>
    cases before with
    | nil => cases h
    | cons b before =>
      obtain ⟨rfl, hrest⟩ : crossed c = b ∧
          ((c.writes log).map fun w => said (some c) (.ofWrite w)) ++ (along log cs ++ [last]) =
            before ++ .said about m :: after := by
        rw [← List.append_assoc]
        exact List.cons.inj h
      rcases List.append_eq_append_iff.mp hrest with ⟨more, rfl, hmore⟩ | ⟨rest, hwrites, hmore⟩
      · -- all messages about the crossing are over
        rcases ih c.cursor hmore with ⟨c', hc', habout, hlanding⟩ | ⟨hlast, rfl⟩
        · refine .inl ⟨c', List.mem_cons_of_mem _ hc', habout, ?_⟩
          show landing c.cursor (_ ++ more) = c'.cursor
          rw [landing_append, landing_said, hlanding]
        · exact .inr ⟨hlast, rfl⟩
      · cases rest with
        | nil =>
          -- they end where the message stands, so it is still one of the later ones
          rw [List.append_nil] at hwrites
          have hnext := ih c.cursor (hmore.symm.trans (List.nil_append _).symm)
          rcases hnext with ⟨c', hc', habout, hlanding⟩ | ⟨hlast, hnil⟩
          · refine .inl ⟨c', List.mem_cons_of_mem _ hc', habout, ?_⟩
            rw [← hlanding, ← hwrites]
            exact landing_said c.cursor (some c) (c.writes log)
          · refine .inr ⟨hlast, ?_⟩
            rw [along_cons, ← hnil, List.append_nil, ← hwrites]
            rfl
        | cons d rest =>
          -- the message is one of those about the crossing
          obtain ⟨done, left, hsplit, hdone, hleft⟩ := List.map_eq_append_iff.mp hwrites
          obtain ⟨w, -, hw⟩ : ∃ w ∈ left, said (some c) (.ofWrite w) = d := by
            have hd : d ∈ left.map fun w => said (some c) (.ofWrite w) := by
              rw [hleft]
              exact List.mem_cons_self ..
            exact List.mem_map.mp hd
          have habout : about = some c := by
            have hhead := (List.cons.inj hmore).1
            rw [← hw] at hhead
            exact (said.inj hhead).1
          refine .inl ⟨c, List.mem_cons_self .., habout, ?_⟩
          rw [← hdone]
          exact landing_said c.cursor (some c) done

end Event

/-- Where a move of `t` to `target` has ended, as `u`, on a message about a crossing or about the
end; `quiet` is the condition for what is said of the cells. -/
structure Timeline.StopsAt {ι : Type} (t : Timeline ι) (target : Nat) (about : Option Crossing)
    (quiet : Prop) (u : Timeline ι) : Prop where
  /-- Behind the step of a forward move, which is applied as a whole. -/
  forth : ∀ i, about = some (.forth i) → t.cursor ≤ i ∧ i < target ∧ u.cursor = i + 1 ∧
    (quiet → u.memory.cells = t.memory.cells.replay (t.log.between t.cursor (i + 1)))
  /-- In front of the step of a backward move, which is taken back as a whole. -/
  back : ∀ i, about = some (.back i) → target ≤ i ∧ i < t.cursor ∧ u.cursor = i ∧
    (quiet → u.memory.cells = t.memory.cells.rewind (t.log.between i t.cursor))
  /-- At the target, after the whole move. -/
  ended : about = none → u.cursor = target ∧
    (quiet → u.memory.cells = t.memory.cells.sweep t.log t.cursor target)

namespace Session

variable {ι σ : Type} [DecidableEq ι] {listeners : Listeners ι σ} {inner : Mover ι σ}

/-- A record that every listener makes of what it is told holds all that is told. -/
theorem performAll_record (hinner : Refuses inner) {registry : List ι}
    (hregistry : ∀ l ∈ registry, ∀ m, (listeners l m).LeavesRegistry)
    {record : σ → List (ι × Notification)}
    (hrecord : ∀ l ∈ registry, ∀ m (s : Session ι σ), s.timeline.moving = true →
      record (react inner (listeners l m) s).2.kept = record s.kept ++ [(l, m)])
    {deeds : List Deed} {s s' : Session ι σ} (hmoving : s.timeline.moving = true)
    (hs : s.timeline.registry = registry)
    (h : performAll listeners inner deeds s = (.ok (), s')) :
    record s'.kept = record s.kept ++ Deed.told registry deeds ∧ s'.timeline.moving = true := by
  induction deeds generalizing s with
  | nil =>
    cases h
    exact ⟨(List.append_nil _).symm, hmoving⟩
  | cons d deeds ih =>
    match d with
    | .cross (.forth i) =>
      have hmoving' := (Timeline.advance_moving s.timeline).trans hmoving
      exact ih (s := s.update Timeline.advance) hmoving'
        ((Timeline.advance_registry s.timeline).trans hs) h
    | .cross (.back i) =>
      have hmoving' := (Timeline.retreat_moving s.timeline).trans hmoving
      exact ih (s := s.update Timeline.retreat) hmoving'
        ((Timeline.retreat_registry s.timeline).trans hs) h
    | .tell i m =>
      rw [performAll_cons, perform, hs] at h
      obtain ⟨s₁, hone, hrest⟩ := andThen_eq_ok_iff.mp h
      rw [Deed.told_tell]
      cases hl : registry[i]? with
      | none =>
        rw [hl] at hone
        cases hone
        exact ih hmoving hs hrest
      -- whoever is told adds an entry, and leaves the next place to whom it belongs
      | some l =>
        have hmem := List.mem_of_getElem? hl
        have hnext := hrecord l hmem m s hmoving
        have hmoving' := react_moving hinner (listeners l m) s hmoving
        have hs' := (react_registry hinner (hregistry l hmem m) s hmoving).trans hs
        rw [hl] at hone
        dsimp only at hone
        rw [hone] at hnext hmoving' hs'
        obtain ⟨hrecorded, hmoving''⟩ := ih hmoving' hs' hrest
        refine ⟨?_, hmoving''⟩
        rw [hrecorded, hnext, List.append_assoc]
        rfl

/-! ## Up to the failure -/

section Failure

variable {s s₁ s₂ : Session ι σ} {position : Int} {before after : List Event}
  {about : Option Crossing} {m : Notification} {j : Nat}

/-- Where the timeline is when registration `j` is about to be told a message. -/
theorem onWay_of_earlier (hinner : Refuses inner) (hs : s.Ready)
    (hregistry : ∀ l ∈ s.timeline.registry, ∀ m, (listeners l m).LeavesRegistry)
    (hevents : s.timeline.events position = before ++ .said about m :: after)
    (hearlier : performAll listeners inner
      (Deed.agenda s.timeline.registry.length before ++ Deed.tellFirst j m) (s.setMoving true) =
        (.ok (), s₁)) :
    OnWay listeners (s.setMoving true).timeline (Event.landing s.timeline.cursor before) s₁ := by
  have hleads : Leads (s.setMoving true).timeline s.timeline.cursor before := by
    have hall := (leads_ofMove (t := (s.setMoving true).timeline) hs.cursor_le
      (s.timeline.clamp_le_count position)).1
    change Leads _ _ (s.timeline.events position) at hall
    rw [hevents, leads_append] at hall
    exact hall.1
  have hregistry' : ∀ l ∈ (s.setMoving true).timeline.registry, ∀ m,
      (listeners l m).LeavesRegistry := hregistry
  rw [performAll_append] at hearlier
  -- the events before the message are over, and then the first `j` places have been told
  obtain ⟨s₀, hbefore, htold⟩ := andThen_eq_ok_iff.mp hearlier
  have h₀ := (onWay_self (s.setMoving true)).performAll_agenda hinner rfl hregistry' hleads hbefore
  have h₁ := h₀.tellAll hinner rfl hregistry' (List.range j) m
  change OnWay _ _ _ (performAll listeners inner (Deed.tellFirst j m) s₀).2 at h₁
  rw [htold] at h₁
  exact h₁

omit [DecidableEq ι] in
theorem stopsAt_of_onWay {t : Timeline ι} {target : Nat} (hcursor : t.cursor ≤ t.count)
    (ht : target ≤ t.count)
    (hevents : Event.ofMove t.log t.cursor target = before ++ .said about m :: after)
    (h : OnWay listeners t (Event.landing t.cursor before) s) :
    t.StopsAt target about (∀ l ∈ t.registry, ∀ m, (listeners l m).LeavesMemory) s.timeline := by
  have hcells : (∀ l ∈ t.registry, ∀ m, (listeners l m).LeavesMemory) →
      s.timeline.memory.cells =
        t.memory.cells.sweep t.log t.cursor (Event.landing t.cursor before) := by
    intro hquiet
    rw [h.memory hquiet]
    rfl
  -- the message is about a crossing, or it is the position at the end
  rcases Event.along_eq_append_said t.cursor hevents with ⟨c, hc, rfl, hlanding⟩ | ⟨hlast, rfl⟩
  · have hreached := h.cursor.trans hlanding
    rw [hlanding] at hcells
    refine ⟨?_, ?_, fun hnone => by cases hnone⟩
    · rintro i hi
      obtain rfl := Option.some.inj hi
      obtain ⟨ho, hlt⟩ := Crossing.forth_mem_path.mp hc
      refine ⟨ho, hlt, hreached, fun hquiet => ?_⟩
      rw [hcells hquiet]
      exact Cells.sweep_of_le _ _ (Nat.le_succ_of_le ho)
    · rintro i hi
      obtain rfl := Option.some.inj hi
      obtain ⟨hle, ho⟩ := Crossing.back_mem_path.mp hc
      refine ⟨hle, ho, hreached, fun hquiet => ?_⟩
      rw [hcells hquiet]
      exact Cells.sweep_of_ge _ _ ho.le
  · obtain ⟨rfl, rfl⟩ := Event.said.inj hlast
    rw [(leads_path hcursor ht t.log).2] at hcells
    have hreached := h.cursor.trans (leads_path hcursor ht t.log).2
    refine ⟨fun i hi => ?_, fun i hi => ?_, fun _ => ⟨hreached, hcells⟩⟩
    · cases hi
    · cases hi

/-- The agenda ends at the failure. -/
theorem performAll_of_failure
    (hevents : s.timeline.events position = before ++ .said about m :: after)
    {l : ι} (hl : s₁.timeline.registry[j]? = some l) (hj : j < s.timeline.registry.length)
    {e : Fault}
    (hearlier : performAll listeners inner
      (Deed.agenda s.timeline.registry.length before ++ Deed.tellFirst j m) (s.setMoving true) =
        (.ok (), s₁))
    (hfails : react inner (listeners l m) s₁ = (.error e, s₂)) :
    performAll listeners inner
      (Deed.agenda s.timeline.registry.length (s.timeline.events position)) (s.setMoving true) =
        (.error e, s₂) := by
  -- the round that is broken off splits at place `j`
  obtain ⟨rest, hrest⟩ := Deed.tellFirst_split m hj
  have hround : Deed.ofEvent s.timeline.registry.length (.said about m) =
      Deed.tellFirst j m ++ .tell j m :: rest := hrest
  rw [hevents, Deed.agenda_append, Deed.agenda_cons, hround, List.append_assoc, ← List.append_assoc,
    performAll_append, hearlier, andThen, List.cons_append, performAll_cons, perform, hl]
  dsimp only
  rw [hfails, andThen]

/-- What listeners have on record at the failure, if each makes a record of what it is told. -/
theorem record_of_failure (hinner : Refuses inner) {s₀ : Session ι σ}
    (hmoving : s₀.timeline.moving = true)
    (hregistry : ∀ l ∈ s₀.timeline.registry, ∀ m, (listeners l m).LeavesRegistry)
    {record : σ → List (ι × Notification)}
    (hrecord : ∀ l ∈ s₀.timeline.registry, ∀ m (s : Session ι σ), s.timeline.moving = true →
      record (react inner (listeners l m) s).2.kept = record s.kept ++ [(l, m)])
    {l : ι} (hl : s₀.timeline.registry[j]? = some l) {e : Fault}
    (hearlier : performAll listeners inner
      (Deed.agenda s₀.timeline.registry.length before ++ Deed.tellFirst j m) s₀ = (.ok (), s₁))
    (hfails : react inner (listeners l m) s₁ = (.error e, s₂)) :
    record s₂.kept = record s₀.kept ++
      ((Event.messages before).flatMap (fun m => s₀.timeline.registry.map (·, m)) ++
        (s₀.timeline.registry.take (j + 1)).map (·, m)) := by
  obtain ⟨hearly, hmoving₁⟩ := performAll_record hinner hregistry hrecord hmoving rfl hearlier
  have hlast := hrecord l (List.mem_of_getElem? hl) m s₁ hmoving₁
  rw [hfails] at hlast
  have htake : (s₀.timeline.registry.take (j + 1)).map (·, m) =
      (s₀.timeline.registry.take j).map (·, m) ++ [(l, m)] := by
    rw [List.take_add_one, hl, List.map_append]
    rfl
  rw [Deed.told_append, Deed.told_agenda, Deed.told_tellFirst] at hearly
  refine hlast.trans ?_
  rw [hearly, htake]
  simp only [List.append_assoc]

/-- **A move that a listener ends**, in a ready session, as all reachable ones are
(`Reachable.ready`).  Let `before` be what happens in the move ahead of a message `m`, and let all
go well up to registration `j`, which fails on `m`.  Then the caller gets that error, the cursor is
behind the crossing that `m` is about, with the whole of it applied, or at the target if `m` is
about the end; the registrations up to `j` have been handed `m` and the messages ahead of it, the
others those ahead of it, and a record that listeners make of it says so in order.  The flag is
taken back, so the next move answers what its own agenda answers. -/
theorem moveTo_of_failure (hs : s.Ready)
    (hregistry : ∀ l ∈ s.timeline.registry, ∀ m, (listeners l m).LeavesRegistry)
    (hevents : s.timeline.events position = before ++ .said about m :: after)
    {l : ι} (hl : s.timeline.registry[j]? = some l) {e : Fault}
    (hearlier : performAll listeners (navigate listeners refuse)
      (Deed.agenda s.timeline.registry.length before ++ Deed.tellFirst j m) (s.setMoving true) =
        (.ok (), s₁))
    (hfails : react (navigate listeners refuse) (listeners l m) s₁ = (.error e, s₂)) :
    let t := s.timeline
    let s' := (moveTo listeners s position).2
    let messages := Event.messages (t.events position)
    let n := (Event.messages before).length
    (moveTo listeners s position).1 = .error e ∧ messages[n]? = some m ∧
      t.StopsAt (t.clamp position) about (∀ l ∈ t.registry, ∀ m, (listeners l m).LeavesMemory)
        s'.timeline ∧
      (∀ i < t.registry.length,
        Deed.handed i (Deed.agenda t.registry.length before ++ Deed.tellFirst (j + 1) m) =
          messages.take (if i ≤ j then n + 1 else n)) ∧
      (∀ record : σ → List (ι × Notification),
        (∀ l ∈ t.registry, ∀ m (r : Session ι σ), r.timeline.moving = true →
          record (react (navigate listeners refuse) (listeners l m) r).2.kept =
            record r.kept ++ [(l, m)]) →
        record s'.kept = record s.kept ++
          ((messages.take n).flatMap (fun m => t.registry.map (·, m)) ++
            (t.registry.take (j + 1)).map (·, m))) ∧
      s'.Ready ∧
      ∀ next, (moveTo listeners s' next).1 = (performAll listeners (navigate listeners refuse)
        (Deed.agenda s'.timeline.registry.length (s'.timeline.events next))
        (s'.setMoving true)).1.map fun _ => s'.timeline.clamp next := by
  have hinner := refuses_navigate listeners refuse
  have hj : j < s.timeline.registry.length := (List.getElem?_eq_some_iff.mp hl).1
  have hregistry' : ∀ l ∈ (s.setMoving true).timeline.registry, ∀ m,
      (listeners l m).LeavesRegistry := hregistry
  have h₁ := onWay_of_earlier hinner hs hregistry hevents hearlier
  -- the failing reaction has left the session where the crossings have brought it
  have h₂ := h₁.react hinner rfl hregistry' (List.mem_of_getElem? hl) m
  rw [hfails] at h₂
  have hl₁ : s₁.timeline.registry[j]? = some l := by
    rw [h₁.registry]
    exact hl
  have hmove := moveTo_of_error hs.cursor_le hregistry hs.idle position
    (performAll_of_failure hevents hl₁ hj hearlier hfails)
  have hready : (moveTo listeners s position).2.Ready := ready_call hs (.moveTo position)
  have hmessages : Event.messages (s.timeline.events position) =
      Event.messages before ++ m :: Event.messages after := by
    rw [hevents]
    exact List.filterMap_append
  have hstops := stopsAt_of_onWay (t := (s.setMoving true).timeline) hs.cursor_le
    (s.timeline.clamp_le_count position) hevents h₂
  rw [hmove] at hready ⊢
  refine ⟨rfl, ?_, ?_, ?_, ?_, hready, ?_⟩
  · rw [hmessages, List.getElem?_append_right le_rfl, Nat.sub_self]
    rfl
  · exact ⟨hstops.forth, hstops.back, hstops.ended⟩
  · intro i hi
    rw [hmessages]
    exact Deed.handed_upTo hi j before m _
  · intro record hrecord
    rw [hmessages, List.take_left' rfl]
    have hmoving : (s.setMoving true).timeline.moving = true := rfl
    have hrecorded := record_of_failure hinner hmoving hregistry hrecord hl hearlier hfails
    exact hrecorded
  -- the failure has freed the session again, and nobody has been removed
  · intro next
    have hregistry₂ : ∀ l ∈ (s₂.setMoving false).timeline.registry, ∀ m,
        (listeners l m).LeavesRegistry := by
      intro l hl
      refine hregistry l ?_
      rw [← show s₂.timeline.registry = s.timeline.registry from h₂.registry]
      exact hl
    exact moveTo_answer hready.cursor_le hregistry₂ hready.idle next

/-- A listener in the middle fails on the second write of the first step. -/
theorem moveTo_of_failure_second_write :
    ∃ (listeners : Listeners Bool Unit) (s : Session Bool Unit), s.Ready ∧
      s.timeline.log = [[⟨5, 0, 42⟩, ⟨6, 0, 1⟩], [⟨5, 42, 7⟩]] ∧
      s.timeline.registry = [false, true, false] ∧
      (moveTo listeners s 2).1 = .error (.listenerFailed "second write") ∧
      (moveTo listeners s 2).2.timeline.cursor = 1 := by
  have hleaves : ∀ (l : Bool) (m : Notification),
      (if l = true ∧ m = .cellChanged 6 1 then .fail (.listenerFailed "second write")
        else .done : Reaction Bool Unit).LeavesRegistry := by
    intro l m
    split
    · exact .fail _
    · exact .done
  let s : Session Bool Unit :=
    ⟨Timeline.ofTrace { log := [[⟨5, 0, 42⟩, ⟨6, 0, 1⟩], [⟨5, 42, 7⟩]] } {}
      |>.addListener false |>.addListener true |>.addListener false, (), []⟩
  have hready : s.Ready := ⟨rfl, Nat.zero_le _⟩
  have hevents : s.timeline.events 2 =
      [.crossed (.forth 0), .said (some (.forth 0)) (.cellChanged 5 42)] ++
        .said (some (.forth 0)) (.cellChanged 6 1) ::
          [.crossed (.forth 1), .said (some (.forth 1)) (.cellChanged 5 7),
            .said none (.cursorMoved 2)] := rfl
  obtain ⟨herror, -, hstops, -⟩ := moveTo_of_failure hready (fun l _ => hleaves l) hevents
    (j := 1) rfl rfl rfl
  exact ⟨_, s, hready, rfl, rfl, herror, (hstops.forth 0 rfl).2.2.1⟩

end Failure

end Session

end Rewind
