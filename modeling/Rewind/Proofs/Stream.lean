import Rewind.Proofs.Observation
import Rewind.Proofs.Run

/-!
# What listeners hear of a move

`Timeline.announced` is what is told in a move, to whom, and how they find the timeline: the writes
of each step that is crossed, when the whole step is applied and the cursor behind it, and at last
the position reached.  `OnWay.sights_agenda` reads it off the agenda of the move event by event, and
`moveTo_heardOut` says that a move in which no listener gives up is heard as announced.  A move that
answers with an error does so because a listener gave up with it (`answer_cases`).
-/

namespace Rewind

namespace Crossing

theorem ahead_writes {log : Log} (n q : Nat) (h : q + n ≤ log.length) :
    (ahead q n).flatMap (writes log) = (log.between q (q + n)).flatMap Step.redos := by
  induction n generalizing q with
  | zero =>
    rw [Log.between_of_le log (by omega)]
    rfl
  | succ n ih =>
    have hstep : log[q]? = some log[q] := List.getElem?_eq_getElem (by omega)
    have hnext : q + (n + 1) = q + 1 + n := by omega
    rw [ahead_succ, List.flatMap_cons, ih (q + 1) (by omega), hnext,
      Log.between_cons (by omega) hstep, List.flatMap_cons, writes, hstep, Option.getD_some]

theorem behind_writes {log : Log} (n q : Nat) (h : q + n ≤ log.length) :
    (behind q n).flatMap (writes log) = (log.between q (q + n)).reverse.flatMap Step.undos := by
  induction n with
  | zero =>
    rw [Log.between_of_le log (by omega)]
    rfl
  | succ n ih =>
    have hstep : log[q + n]? = some log[q + n] := List.getElem?_eq_getElem (by omega)
    rw [behind_succ, List.flatMap_cons, ih (by omega), ← Nat.add_assoc,
      Log.between_succ (by omega) hstep, List.reverse_append, List.reverse_singleton,
      List.singleton_append, List.flatMap_cons, writes, hstep, Option.getD_some]

/-- The writes of the crossings from one position to another. -/
theorem path_writes {log : Log} {o t : Nat} (ho : o ≤ log.length) (ht : t ≤ log.length) :
    (path o t).flatMap (writes log) = log.sweepWrites o t := by
  rcases Nat.le_total o t with hle | hle
  · rw [path_of_le hle, ahead_writes _ _ (by omega), Nat.add_sub_cancel' hle,
      Log.sweepWrites_of_le log hle]
  · rw [path_of_ge hle, behind_writes _ _ (by omega), Nat.add_sub_cancel' hle,
      Log.sweepWrites_of_ge log hle]

end Crossing

/-- The messages about some writes, and about the end of the move that made them. -/
def Notification.ofMove (writes : List (Int × Int)) (target : Nat) : List Notification :=
  writes.map ofWrite ++ [cursorMoved target]

/-- The sight with something else in place of the timeline. -/
def Sight.through {ι : Type} (f : Timeline ι → Timeline ι) (x : Sight ι) : Sight ι :=
  { x with timeline := f x.timeline }

namespace Timeline

variable {ι : Type}

/-- All who are registered are told something when the cursor has gone to `q`. -/
def toldAt (t : Timeline ι) (q : Nat) (m : Notification) : List (Sight ι) :=
  t.registry.map fun l => ⟨l, m, t.sweepTo q⟩

/-- What is told in a move that nobody interferes with: all writes of each step that is crossed, and
then the end. -/
def announced (t : Timeline ι) (target : Nat) : List (Sight ι) :=
  ((Crossing.path t.cursor target).flatMap fun c =>
    (c.writes t.log).flatMap fun w => t.toldAt c.cursor (.ofWrite w)) ++
  t.toldAt target (.cursorMoved target)

/-- What is told in some events from `q` on. -/
def toldIn (t : Timeline ι) : Nat → List Event → List (Sight ι)
  | _, [] => []
  | _, .crossed c :: events => toldIn t c.cursor events
  | q, .said _ m :: events => t.toldAt q m ++ toldIn t q events

theorem toldIn_append (t : Timeline ι) (q : Nat) (events more : List Event) :
    t.toldIn q (events ++ more) = t.toldIn q events ++ t.toldIn (Event.landing q events) more := by
  induction events generalizing q with
  | nil => rfl
  | cons e events ih =>
    cases e with
    | crossed c => exact ih c.cursor
    | said about m =>
      show t.toldAt q m ++ t.toldIn q (events ++ more) = _
      rw [ih, ← List.append_assoc]
      rfl

theorem toldIn_said (t : Timeline ι) (q : Nat) (about : Option Crossing)
    (writes : List (Int × Int)) :
    t.toldIn q (writes.map fun w => .said about (.ofWrite w)) =
      writes.flatMap fun w => t.toldAt q (.ofWrite w) := by
  induction writes with
  | nil => rfl
  | cons w writes ih =>
    rw [List.map_cons, List.flatMap_cons, ← ih]
    rfl

theorem toldIn_along (t : Timeline ι) (q : Nat) (log : Log) (cs : List Crossing) :
    t.toldIn q (Event.along log cs) = cs.flatMap fun c =>
      (c.writes log).flatMap fun w => t.toldAt c.cursor (.ofWrite w) := by
  induction cs generalizing q with
  | nil => rfl
  | cons c cs ih =>
    rw [Event.along_cons, toldIn_append, ih, List.flatMap_cons, ← t.toldIn_said c.cursor (some c)]
    rfl

theorem toldIn_ofMove {t : Timeline ι} {target : Nat} (hcursor : t.cursor ≤ t.count)
    (ht : target ≤ t.count) :
    t.toldIn t.cursor (Event.ofMove t.log t.cursor target) = t.announced target := by
  rw [Event.ofMove, toldIn_append, toldIn_along, (Session.leads_path hcursor ht t.log).2]
  show _ ++ (t.toldAt target (.cursorMoved target) ++ []) = _
  rw [List.append_nil]
  rfl

/-- Who is told which messages, wherever the cursor is meanwhile. -/
theorem announced_messages {t : Timeline ι} {target : Nat} (hcursor : t.cursor ≤ t.count)
    (ht : target ≤ t.count) :
    (t.announced target).map (fun x => (x.listener, x.message)) =
      (Notification.ofMove (t.log.sweepWrites t.cursor target) target).flatMap
        fun m => t.registry.map (·, m) := by
  have htold : ∀ q m, (t.toldAt q m).map (fun x => (x.listener, x.message)) =
      t.registry.map (·, m) := by
    intro q m
    rw [toldAt, List.map_map]
    rfl
  rw [Notification.ofMove, ← Crossing.path_writes hcursor ht, List.flatMap_append,
    List.flatMap_map, List.flatMap_assoc, announced, List.map_append, List.map_flatMap, htold,
    List.flatMap_cons, List.flatMap_nil, List.append_nil]
  simp only [List.map_flatMap, htold]

/-- The position nearest to a number. -/
theorem clamp_eq (t : Timeline ι) (position : Int) :
    (t.clamp position : Int) = max 0 (min (t.count : Int) position) := by
  unfold clamp
  omega

end Timeline

namespace Session

open Observation (sights sights_append)

variable {ι σ : Type}

/-- A session with one more observation. -/
def noted (s : Session ι (Watched ι σ)) (o : Observation ι) : Session ι (Watched ι σ) :=
  { s with kept := (s.kept.1, s.kept.2 ++ [o]) }

variable [DecidableEq ι] {listeners : Listeners ι σ} {inner : Mover ι (Watched ι σ)}

/-! ## What a reaction leaves in the notes -/

theorem kept_removeListener (s : Session ι σ) (listener : ι) :
    (s.removeListener listener).2.kept = s.kept := by
  unfold removeListener
  cases s.timeline.removeListener listener with
  | ok t => rfl
  | error e => rfl

/-- In a move, asking for another one leads to the refusal and a note of it. -/
theorem react_observed_moveTo (hinner : Refuses inner) (position : Int)
    (next : Except Fault Nat → Reaction ι σ) {s : Session ι (Watched ι σ)}
    (h : s.timeline.moving = true) :
    react inner (Reaction.observed (.moveTo position next)) s =
      react inner (next (.error .moveInProgress)).observed
        (s.noted (.asked position s.timeline (.error .moveInProgress) s.timeline)) := by
  simp only [Reaction.observed, Reaction.note, react]
  rw [hinner s position h]
  rfl

/-- Whatever a listener does, nobody is told anything by it. -/
theorem sights_react (hinner : Refuses inner) (r : Reaction ι σ) (s : Session ι (Watched ι σ))
    (h : s.timeline.moving = true) :
    sights (react inner r.observed s).2.kept.2 = sights s.kept.2 := by
  -- on the reaction; the notes it makes itself are of refused moves and failures, and show nothing
  induction r generalizing s with
  | done => rfl
  | fail e =>
    show sights (s.kept.2 ++ [.failed e]) = _
    rw [sights_append]
    exact List.append_nil _
  | look next ih => exact ih _ _ s h
  | keep kept next ih => exact ih { s with kept := (kept, s.kept.2) } h
  | moveTo position next ih =>
    rw [react_observed_moveTo hinner position next h, ih _ (s.noted _) h]
    show sights (s.kept.2 ++ [_]) = _
    rw [sights_append]
    exact List.append_nil _
  | addListener listener next ih => exact ih (s.addListener listener) h
  | removeListener listener next ih =>
    have houtline := (removeListener_frame s listener).1
    -- a removal that fails leaves the reaction to go on all the same
    have hafter := ih (s.removeListener listener).1 (s.removeListener listener).2
      ((congrArg Timeline.moving houtline).trans h)
    rw [kept_removeListener] at hafter
    exact hafter
  | poke address value next ih => exact ih (s.poke address value) h

/-- A reaction that ends with an error has given up with it. -/
theorem failed_mem_react (r : Reaction ι σ) (s : Session ι (Watched ι σ)) {e : Fault}
    (h : (react inner r.observed s).1 = .error e) :
    .failed e ∈ (react inner r.observed s).2.kept.2 := by
  induction r generalizing s with
  | done => cases h
  | fail e' =>
    cases h
    exact List.mem_append_right _ (List.mem_singleton.mpr rfl)
  | look next ih => exact ih _ _ s h
  | keep kept next ih => exact ih _ h
  | moveTo position next ih => exact ih _ _ h
  | addListener listener next ih => exact ih _ h
  | removeListener listener next ih => exact ih _ _ h
  | poke address value next ih => exact ih _ h

/-- A reaction that returns gives up with nothing. -/
theorem failed_of_returns (hinner : Refuses inner) {r : Reaction ι σ} (hr : r.Returns)
    (s : Session ι (Watched ι σ)) (h : s.timeline.moving = true) {e : Fault}
    (he : .failed e ∈ (react inner r.observed s).2.kept.2) : .failed e ∈ s.kept.2 := by
  -- on the proof that it returns, which has no case for failing
  induction hr generalizing s with
  | done => exact he
  | look _ ih => exact ih _ _ s h he
  | keep kept _ ih => exact ih { s with kept := (kept, s.kept.2) } h he
  | moveTo position _ ih =>
    rw [react_observed_moveTo hinner position _ h] at he
    rcases List.mem_append.mp (ih (s.noted _) h he) with hseen | hnew
    · exact hseen
    -- the one note made here is of a refused move
    · cases List.mem_singleton.mp hnew
  | addListener listener _ ih => exact ih (s.addListener listener) h he
  | removeListener listener _ ih =>
    have houtline := (removeListener_frame s listener).1
    have hbefore := ih (s.removeListener listener).1 (s.removeListener listener).2
      ((congrArg Timeline.moving houtline).trans h) he
    rw [kept_removeListener] at hbefore
    exact hbefore
  | poke address value _ ih => exact ih (s.poke address value) h he

/-! ## What an agenda leaves in the notes -/

variable (listeners) in
/-- What is told to one listener. -/
theorem sights_tell (hinner : Refuses inner) (l : ι) (m : Notification)
    {s : Session ι (Watched ι σ)} (h : s.timeline.moving = true) :
    sights (react inner (listeners.observed l m) s).2.kept.2 =
      sights s.kept.2 ++ [⟨l, m, s.timeline⟩] := by
  have hreact := sights_react hinner (listeners l m) (s.noted (.told ⟨l, m, s.timeline⟩)) h
  refine hreact.trans ?_
  show sights (s.kept.2 ++ [.told ⟨l, m, s.timeline⟩]) = _
  rw [sights_append]
  rfl

/-- A listener that is told something and ends with an error has given up with it. -/
theorem failed_mem_tell (l : ι) (m : Notification) {s : Session ι (Watched ι σ)} {e : Fault}
    (h : (react inner (listeners.observed l m) s).1 = .error e) :
    .failed e ∈ (react inner (listeners.observed l m) s).2.kept.2 :=
  failed_mem_react (listeners l m) (s.noted (.told ⟨l, m, s.timeline⟩)) h

/-- An agenda that ends with an error ends with a listener that gave up with it. -/
theorem failed_mem_performAll {deeds : List Deed} {s s' : Session ι (Watched ι σ)} {e : Fault}
    (h : performAll listeners.observed inner deeds s = (.error e, s')) : .failed e ∈ s'.kept.2 := by
  induction deeds generalizing s with
  | nil => cases h
  | cons d deeds ih =>
    match d with
    | .cross (.forth i) => exact ih h
    | .cross (.back i) => exact ih h
    | .tell i m =>
      rw [performAll_cons, perform] at h
      cases hl : s.timeline.registry[i]? with
      | none =>
        rw [hl] at h
        exact ih h
      | some l =>
        rw [hl] at h
        dsimp only at h
        cases hr : react inner (listeners.observed l m) s with
        | mk result s₁ =>
          rw [hr] at h
          cases result with
          | ok _ => exact ih h
          | error e' =>
            cases h
            have hfailed := failed_mem_tell l m (congrArg Prod.fst hr)
            rw [hr] at hfailed
            exact hfailed

section OnWay

variable {t : Timeline ι} {q : Nat} {s s' : Session ι (Watched ι σ)} (hinner : Refuses inner)
  (hmoving : t.moving = true)
  (hregistry : ∀ l ∈ t.registry, ∀ m, (listeners.observed l m).LeavesRegistry)
  {f : Timeline ι → Timeline ι}
  (hf : ∀ q s, OnWay listeners.observed t q s → f s.timeline = f (t.sweepTo q))
include hinner hmoving hregistry hf

/-- What is told to some registrations, one after another. -/
theorem OnWay.sights_tellAll (h : OnWay listeners.observed t q s) (is : List Nat)
    (m : Notification)
    (hok : performAll listeners.observed inner (is.map (.tell · m)) s = (.ok (), s')) :
    (sights s'.kept.2).map (Sight.through f) = (sights s.kept.2).map (Sight.through f) ++
      (Deed.told t.registry (is.map (.tell · m))).map fun x => ⟨x.1, x.2, f (t.sweepTo q)⟩ := by
  induction is generalizing s with
  | nil =>
    cases hok
    exact (List.append_nil _).symm
  | cons i is ih =>
    -- the places are looked up in the registry of now, which is the one from before the move
    rw [List.map_cons, performAll_cons, perform, h.registry] at hok
    rw [List.map_cons, Deed.told_tell]
    obtain ⟨s₁, hone, hrest⟩ := andThen_eq_ok_iff.mp hok
    cases hl : t.registry[i]? with
    | none =>
      rw [hl] at hone
      cases hone
      exact ih h hrest
    | some l =>
      rw [hl] at hone
      dsimp only at hone
      have hm : s.timeline.moving = true := (congrArg Timeline.moving h.outline).trans hmoving
      -- the listener at the place has been told, and the next one finds the session still on its
      -- way
      have hnext := h.react hinner hmoving hregistry (List.mem_of_getElem? hl) m
      have hsights := sights_tell listeners hinner l m hm
      rw [hone] at hnext hsights
      rw [ih hnext hrest, hsights, List.map_append, List.append_assoc, ← hf q s h]
      rfl

/-- What is told in some events of a move. -/
theorem OnWay.sights_agenda (h : OnWay listeners.observed t q s) {events : List Event}
    (hleads : Leads t q events)
    (hok : performAll listeners.observed inner (Deed.agenda t.registry.length events) s =
      (.ok (), s')) :
    (sights s'.kept.2).map (Sight.through f) = (sights s.kept.2).map (Sight.through f) ++
      (t.toldIn q events).map (Sight.through f) := by
  induction events generalizing q s with
  | nil =>
    cases hok
    exact (List.append_nil _).symm
  | cons e events ih =>
    match e with
    | .crossed (.forth i) =>
      obtain ⟨⟨rfl, ho, hq⟩, hrest⟩ := hleads
      exact ih (s := s.update Timeline.advance) (h.forth ho hq) hrest hok
    | .crossed (.back i) =>
      obtain ⟨⟨rfl, ho, hq⟩, hrest⟩ := hleads
      exact ih (s := s.update Timeline.retreat) (h.back ho hq) hrest hok
    | .said about m =>
      rw [Deed.agenda_cons, performAll_append] at hok
      obtain ⟨s₁, hsaid, hrest⟩ := andThen_eq_ok_iff.mp hok
      -- a round over all places leaves the session where the next event expects it
      have hnext := h.tellAll hinner hmoving hregistry (List.range t.registry.length) m
      change OnWay _ _ _ (performAll _ inner (Deed.ofEvent _ (.said about m)) s).2 at hnext
      rw [hsaid] at hnext
      have htold := h.sights_tellAll hinner hmoving hregistry hf _ m hsaid
      have hall : (Deed.told t.registry (Deed.tellFirst t.registry.length m)).map
          (fun x => (⟨x.1, x.2, f (t.sweepTo q)⟩ : Sight ι)) =
            (t.toldAt q m).map (Sight.through f) := by
        rw [Deed.told_tellFirst, List.take_length, Timeline.toldAt, List.map_map, List.map_map]
        rfl
      change _ = _ ++ (Deed.told t.registry (Deed.tellFirst t.registry.length m)).map _ at htold
      rw [ih hnext hleads hrest, htold, hall, List.append_assoc, ← List.map_append]
      rfl

end OnWay

/-! ## A whole move -/

section Move

variable {s : Session ι σ} (hs : s.Ready)
  (hregistry : ∀ l ∈ s.timeline.registry, ∀ m, (listeners l m).LeavesRegistry) (position : Int)
include hs hregistry

/-- What is seen in a move is what is seen when its agenda is done, and so is the answer. -/
theorem observations_eq :
    let o := performAll listeners.observed (navigate listeners.observed refuse)
      (Deed.agenda s.timeline.registry.length (s.timeline.events position))
      ((s.observed []).setMoving true)
    s.observations listeners position = o.2.kept.2 ∧
      (moveTo listeners s position).1 = o.1.map fun _ => s.timeline.clamp position := by
  have hregistry' := Listeners.observed_leavesRegistry hregistry
  have hanswer := moveTo_answer (s := s.observed []) hs.cursor_le hregistry' hs.idle position
  rw [moveTo_observed] at hanswer
  refine ⟨?_, hanswer⟩
  unfold observations
  cases hdone : performAll listeners.observed (navigate listeners.observed refuse)
      (Deed.agenda s.timeline.registry.length (s.timeline.events position))
      -- the course decides: what is kept is what its last session keeps, whichever way it ends
      ((s.observed []).setMoving true) with
  | mk result s' =>
    cases result with
    | error e =>
      rw [moveTo_of_error (s := s.observed []) hs.cursor_le hregistry' hs.idle position hdone]
      rfl
    | ok _ =>
      obtain ⟨journal, hmove⟩ :=
        moveTo_of_ok (s := s.observed []) hs.cursor_le hregistry' hs.idle position hdone
      rw [hmove]

/-- A move returns its target, or a listener has given up and the move answers with its error. -/
theorem answer_cases :
    (moveTo listeners s position).1 = .ok (s.timeline.clamp position) ∨
      ∃ e, (moveTo listeners s position).1 = .error e ∧
        .failed e ∈ s.observations listeners position := by
  obtain ⟨hseen, hanswer⟩ := observations_eq hs hregistry position
  rw [hanswer, hseen]
  cases hdone : performAll listeners.observed (navigate listeners.observed refuse)
      (Deed.agenda s.timeline.registry.length (s.timeline.events position))
      ((s.observed []).setMoving true) with
  | mk result s' =>
    cases result with
    | ok _ => exact .inl rfl
    | error e => exact .inr ⟨e, rfl, failed_mem_performAll hdone⟩

variable {position} in
/-- A move in which nobody gives up returns its target. -/
theorem Unfailing.answer (h : s.Unfailing listeners position) :
    (moveTo listeners s position).1 = .ok (s.timeline.clamp position) := by
  rcases answer_cases hs hregistry position with hok | ⟨e, -, he⟩
  · exact hok
  · exact absurd he (h e)

/-- Nobody gives up in a move if no registered listener ever does. -/
theorem unfailing_of_returns
    (hreturns : ∀ l ∈ s.timeline.registry, ∀ m, (listeners l m).Returns) :
    s.Unfailing listeners position := by
  intro e he
  have hinner := refuses_navigate listeners.observed refuse
  have hregistry' := Listeners.observed_leavesRegistry hregistry
  rw [(observations_eq hs hregistry position).1] at he
  -- what every deed keeps: nobody has given up yet, and the same are registered
  let P (r : Session ι (Watched ι σ)) : Prop :=
    r.timeline.moving = true ∧ r.timeline.registry = s.timeline.registry ∧ .failed e ∉ r.kept.2
  have hperform : ∀ d r, P r →
      P (perform listeners.observed (navigate listeners.observed refuse) d r).2 := by
    rintro d r ⟨hmoving, hr, hunfailing⟩
    obtain ⟨hmoving', hr'⟩ := perform_frame hinner hregistry' d hmoving hr
    refine ⟨hmoving', hr', ?_⟩
    match d with
    | .cross (.forth i) => exact hunfailing
    | .cross (.back i) => exact hunfailing
    | .tell i m =>
      unfold perform
      dsimp only
      rw [hr]
      cases hl : s.timeline.registry[i]? with
      | none => exact hunfailing
      | some l =>
        intro hfailed
        have hnoted := failed_of_returns hinner (hreturns l (List.mem_of_getElem? hl) m)
          (r.noted (.told ⟨l, m, r.timeline⟩)) hmoving hfailed
        rcases List.mem_append.mp hnoted with hseen | hnew
        · exact hunfailing hseen
        · cases List.mem_singleton.mp hnew
  exact (performAll_keeps hperform _ ((s.observed []).setMoving true)
    ⟨rfl, rfl, List.not_mem_nil⟩).2.2 he

variable {position} in
/-- A move in which nobody gives up is heard as announced, as far as `f` sees timelines. -/
theorem Unfailing.heard_through (h : s.Unfailing listeners position) {f : Timeline ι → Timeline ι}
    (hf : ∀ q r, OnWay listeners.observed (s.setMoving true).timeline q r →
      f r.timeline = f ((s.setMoving true).timeline.sweepTo q)) :
    (s.heard listeners position).map (Sight.through f) =
      ((s.setMoving true).timeline.announced (s.timeline.clamp position)).map
        (Sight.through f) := by
  have hseen := (observations_eq hs hregistry position).1
  unfold heard
  unfold Unfailing at h
  rw [hseen] at h ⊢
  cases hdone : performAll listeners.observed (navigate listeners.observed refuse)
      (Deed.agenda s.timeline.registry.length (s.timeline.events position))
      ((s.observed []).setMoving true) with
  | mk result s' =>
    cases result with
    | error e =>
      -- who fails is noted, and nobody is
      have hfailed := failed_mem_performAll hdone
      rw [hdone] at h
      exact absurd hfailed (h e)
    | ok _ =>
      have hleads := (leads_ofMove (t := (s.setMoving true).timeline) hs.cursor_le
        (s.timeline.clamp_le_count position)).1
      have htold := OnWay.sights_agenda (t := (s.setMoving true).timeline)
        (refuses_navigate listeners.observed refuse) rfl
        (Listeners.observed_leavesRegistry hregistry) hf (onWay_self ((s.observed []).setMoving true))
        hleads hdone
      refine htold.trans ?_
      have hofMove := Timeline.toldIn_ofMove (t := (s.setMoving true).timeline) hs.cursor_le
        (s.timeline.clamp_le_count position)
      rw [← hofMove]
      rfl

variable {position} in
/-- Where everyone finds the cursor, whatever they do to the memory. -/
theorem Unfailing.heard_outline (h : s.Unfailing listeners position) :
    (s.heard listeners position).map (Sight.through Timeline.outline) =
      ((s.setMoving true).timeline.announced (s.timeline.clamp position)).map
        (Sight.through Timeline.outline) :=
  h.heard_through hs hregistry fun _ _ hway => hway.outline

variable {position} in
/-- Who hears which messages. -/
theorem Unfailing.heard_messages (h : s.Unfailing listeners position) :
    (s.heard listeners position).map (fun x => (x.listener, x.message)) =
      (Notification.ofMove
        (s.timeline.log.sweepWrites s.timeline.cursor (s.timeline.clamp position))
        (s.timeline.clamp position)).flatMap fun m => s.timeline.registry.map (·, m) := by
  have htold := congrArg (List.map fun x : Sight ι => (x.listener, x.message))
    (h.heard_outline hs hregistry)
  rw [List.map_map, List.map_map] at htold
  refine htold.trans ?_
  exact Timeline.announced_messages (t := (s.setMoving true).timeline) hs.cursor_le
    (s.timeline.clamp_le_count position)

variable {position} in
/-- How everyone finds the timeline, if nobody writes to the memory. -/
theorem Unfailing.heard_eq (h : s.Unfailing listeners position)
    (hquiet : ∀ l ∈ s.timeline.registry, ∀ m, (listeners l m).LeavesMemory) :
    s.heard listeners position =
      (s.setMoving true).timeline.announced (s.timeline.clamp position) := by
  have hid := h.heard_through hs hregistry (f := id) fun q r hway => by
    have hmemory := hway.memory (Listeners.observed_leavesMemory hquiet)
    have hsame := Timeline.eq_of_outline hway.outline
    rw [hmemory, hway.registry] at hsame
    exact hsame
  have hthrough : (Sight.through id : Sight ι → Sight ι) = id := rfl
  rw [hthrough, List.map_id, List.map_id] at hid
  exact hid

variable {position} in
/-- Where a move ends in which nobody gives up. -/
theorem Unfailing.landed (h : s.Unfailing listeners position) :
    (moveTo listeners s position).2.timeline.cursor = s.timeline.clamp position ∧
      ((∀ l ∈ s.timeline.registry, ∀ m, (listeners l m).LeavesMemory) →
        (moveTo listeners s position).2.timeline.memory =
          (s.timeline.sweepTo (s.timeline.clamp position)).memory) := by
  have hok := h.answer hs hregistry
  rw [moveTo_answer hs.cursor_le hregistry hs.idle position] at hok
  cases hdone : performAll listeners (navigate listeners refuse)
      (Deed.agenda s.timeline.registry.length (s.timeline.events position)) (s.setMoving true) with
  | mk result s' =>
    rw [hdone] at hok
    cases result with
    -- the same move watched does not fail, so this one does not either
    | error e => cases hok
    | ok _ =>
      obtain ⟨hleads, hlanding⟩ := leads_ofMove (t := (s.setMoving true).timeline) hs.cursor_le
        (s.timeline.clamp_le_count position)
      have hend := OnWay.performAll_agenda (t := (s.setMoving true).timeline)
        (refuses_navigate listeners refuse) rfl hregistry (onWay_self (s.setMoving true)) hleads hdone
      rw [hlanding] at hend
      obtain ⟨journal, hmove⟩ := moveTo_of_ok hs.cursor_le hregistry hs.idle position hdone
      rw [hmove]
      exact ⟨hend.cursor, hend.memory⟩

variable {position} in
/-- The whole timeline after a move in which nobody gives up or writes to the memory. -/
theorem Unfailing.timeline (h : s.Unfailing listeners position)
    (hquiet : ∀ l ∈ s.timeline.registry, ∀ m, (listeners l m).LeavesMemory) :
    (moveTo listeners s position).2.timeline = s.timeline.sweepTo (s.timeline.clamp position) := by
  obtain ⟨q, -, -, houtline, -⟩ := moveTo_outline listeners hs.idle hs.cursor_le position
  obtain ⟨hcursor, hmemory⟩ := h.landed hs hregistry
  have hq : q = s.timeline.clamp position := (congrArg Timeline.cursor houtline).symm.trans hcursor
  rw [hq] at houtline
  have hsame := Timeline.eq_of_outline houtline
  rw [hmemory hquiet, moveTo_registry hs.cursor_le hregistry hs.idle position] at hsame
  exact hsame

end Move

variable (listeners) in
/-- A move that all who are registered hear out. -/
structure HeardOut (s : Session ι σ) (position : Int) : Prop where
  /-- The move returns the position of the log nearest to the number. -/
  answer : (moveTo listeners s position).1 = .ok (s.timeline.clamp position)
  nearest : (s.timeline.clamp position : Int) = max 0 (min (s.timeline.count : Int) position)
  /-- Everyone is told everything in order, and finds the cursor where it should be. -/
  told : (s.heard listeners position).map (Sight.through Timeline.outline) =
    ((s.setMoving true).timeline.announced (s.timeline.clamp position)).map
      (Sight.through Timeline.outline)
  /-- The memory as well is as it should be, if nobody who is registered writes to it. -/
  seen : (∀ l ∈ s.timeline.registry, ∀ m, (listeners l m).LeavesMemory) →
    s.heard listeners position =
      (s.setMoving true).timeline.announced (s.timeline.clamp position)
  /-- The cursor ends at the position. -/
  cursor : (moveTo listeners s position).2.timeline.cursor = s.timeline.clamp position
  /-- So does the memory, if nobody writes to it. -/
  memory : (∀ l ∈ s.timeline.registry, ∀ m, (listeners l m).LeavesMemory) →
    (moveTo listeners s position).2.timeline.memory =
      (s.timeline.sweepTo (s.timeline.clamp position)).memory
  /-- A move to where the cursor is tells the end only, and changes no cell. -/
  stay : s.timeline.clamp position = s.timeline.cursor →
    (s.heard listeners position).map (fun x => (x.listener, x.message)) =
      s.timeline.registry.map (·, .cursorMoved s.timeline.cursor) ∧
    ((∀ l ∈ s.timeline.registry, ∀ m, (listeners l m).LeavesMemory) →
      (moveTo listeners s position).2.timeline.memory = s.timeline.memory)
  /-- A move by a number of steps is the move to the position so many steps away. -/
  byOffset : ∀ offset, position = s.timeline.cursor + offset →
    moveBy listeners s offset = moveTo listeners s position

/-- **What listeners hear of a move**, in a ready session, as all reachable ones are
(`Reachable.ready`).  If no listener gives up or touches the registry, the move returns its target,
and all who are registered are told the writes of every step crossed, when the whole step is applied
and the cursor behind it, and the end; one message goes to all before the next one. -/
theorem moveTo_heardOut {s : Session ι σ} (hs : s.Ready) {position : Int}
    (hregistry : ∀ l ∈ s.timeline.registry, ∀ m, (listeners l m).LeavesRegistry)
    (hunfailing : s.Unfailing listeners position) : s.HeardOut listeners position := by
  have htold := hunfailing.heard_outline hs hregistry
  obtain ⟨hcursor, hmemory⟩ := hunfailing.landed hs hregistry
  refine ⟨hunfailing.answer hs hregistry, s.timeline.clamp_eq position, htold,
    hunfailing.heard_eq hs hregistry, hcursor, hmemory, fun hstay => ⟨?_, fun hquiet => ?_⟩, ?_⟩
  -- a move that stays crosses no step, so the position is all that is told
  · have hmessages := hunfailing.heard_messages hs hregistry
    have hnothing : s.timeline.log.sweepWrites s.timeline.cursor s.timeline.cursor = [] := by
      rw [Log.sweepWrites_of_le _ le_rfl, Log.between_of_le _ le_rfl, List.flatMap_nil]
    rw [hstay, hnothing] at hmessages
    rw [hmessages]
    exact List.append_nil _
  · rw [hmemory hquiet, hstay, Timeline.sweepTo_cursor]
  · rintro offset rfl
    rfl

/-- A move back over two steps, heard by two listeners; the second one asks for a move whenever it
is told something and keeps the refusal to itself. -/
theorem moveTo_heardOut_backward :
    let listeners : Listeners Bool Unit := fun l _ => if l then .moveTo 7 fun _ => .done else .done
    let s : Session Bool Unit :=
      run listeners ⟨Timeline.ofTrace { log := [[⟨5, 0, 42⟩, ⟨6, 0, 1⟩], [⟨5, 42, 7⟩]] } {}, (), []⟩
        [.moveTo 2, .addListener false, .addListener true]
    s.Unfailing listeners (-3) ∧ (moveTo listeners s (-3)).1 = .ok 0 ∧
      (s.heard listeners (-3)).map (fun x => (x.listener, x.message, x.timeline.cursor)) =
        [(false, .cellChanged 5 42, 1), (true, .cellChanged 5 42, 1),
          (false, .cellChanged 5 0, 0), (true, .cellChanged 5 0, 0),
          (false, .cellChanged 6 0, 0), (true, .cellChanged 6 0, 0),
          (false, .cursorMoved 0, 0), (true, .cursorMoved 0, 0)] := by
  intro listeners s
  have hs : s.Ready := ready_run ⟨rfl, Nat.zero_le _⟩ _
  have hregistry : ∀ l ∈ s.timeline.registry, ∀ m, (listeners l m).LeavesRegistry := by
    intro l _ m
    cases l with
    | false => exact .done
    | true => exact .moveTo 7 fun _ => .done
  have hunfailing : s.Unfailing listeners (-3) := by
    refine unfailing_of_returns hs hregistry (-3) fun l _ m => ?_
    cases l with
    | false => exact .done
    | true => exact .moveTo 7 .done
  have hheard := moveTo_heardOut hs hregistry hunfailing
  refine ⟨hunfailing, hheard.answer, ?_⟩
  have htold := congrArg
    (List.map fun x : Sight Bool => (x.listener, x.message, x.timeline.cursor)) hheard.told
  rw [List.map_map, List.map_map] at htold
  refine htold.trans ?_
  decide +zetaReduce

end Session

end Rewind
