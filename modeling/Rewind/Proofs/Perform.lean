import Rewind.Proofs.Course

/-!
# Moves as their agendas

`performAll` does what is on an agenda until something fails.  If no listener touches the registry,
every delivery is to all who are registered (`deliver_eq_performAll`), so the course of a move is its
agenda (`happenAll_eq_performAll`), and a move answers what its agenda answers (`moveTo_answer`).
`OnWay` says where the timeline is after any part of the agenda.
-/

namespace Rewind

namespace Session

variable {ι σ : Type}

/-! ## Where the timeline is -/

/-- A session whose timeline has gone from `t` to `q` in a move. -/
structure OnWay (listeners : Listeners ι σ) (t : Timeline ι) (q : Nat) (s : Session ι σ) :
    Prop where
  outline : s.timeline.outline = (t.sweepTo q).outline
  registry : s.timeline.registry = t.registry
  /-- The memory as well, if nobody who is registered writes to it. -/
  memory : (∀ l ∈ t.registry, ∀ m, (listeners l m).LeavesMemory) →
    s.timeline.memory = (t.sweepTo q).memory

variable {listeners : Listeners ι σ} {inner : Mover ι σ} {t : Timeline ι} {q : Nat}
  {s s' : Session ι σ}

theorem OnWay.cursor (h : OnWay listeners t q s) : s.timeline.cursor = q :=
  congrArg Timeline.cursor h.outline

theorem OnWay.log (h : OnWay listeners t q s) : s.timeline.log = t.log := by
  have hlog := congrArg Timeline.log h.outline
  exact hlog

theorem OnWay.forth (h : OnWay listeners t q s) (ho : t.cursor ≤ q) (hq : q < t.count) :
    OnWay listeners t (q + 1) (s.update Timeline.advance) := by
  have hcongr := Timeline.advance_congr h.outline
  have hnext := Timeline.sweepTo_advance ho hq
  refine ⟨hcongr.1.trans (congrArg Timeline.outline hnext), ?_, fun hleaves => ?_⟩
  · exact (Timeline.advance_registry s.timeline).trans h.registry
  · exact (hcongr.2 (h.memory hleaves)).trans (congrArg Timeline.memory hnext)

theorem OnWay.back (h : OnWay listeners t (q + 1) s) (ho : q < t.cursor) (hq : q < t.count) :
    OnWay listeners t q (s.update Timeline.retreat) := by
  have hcongr := Timeline.retreat_congr h.outline
  have hnext := Timeline.sweepTo_retreat ho hq
  refine ⟨hcongr.1.trans (congrArg Timeline.outline hnext), ?_, fun hleaves => ?_⟩
  · exact (Timeline.retreat_registry s.timeline).trans h.registry
  · exact (hcongr.2 (h.memory hleaves)).trans (congrArg Timeline.memory hnext)

/-- At the start of a move. -/
theorem onWay_self (s : Session ι σ) : OnWay listeners s.timeline s.timeline.cursor s := by
  have hself := Timeline.sweepTo_cursor s.timeline
  exact ⟨by rw [hself], rfl, fun _ => by rw [hself]⟩

/-! ## Doing what is on an agenda -/

variable [DecidableEq ι]

section Perform

variable (listeners inner)

/-- Does one thing. -/
def perform : Deed → Session ι σ → Outcome ι σ Unit
  | .cross (.forth _), s => (.ok (), s.update Timeline.advance)
  | .cross (.back _), s => (.ok (), s.update Timeline.retreat)
  | .tell i m, s =>
    match s.timeline.registry[i]? with
    | some listener => react inner (listeners listener m) s
    | none => (.ok (), s)

/-- Does one thing after another until one fails. -/
def performAll : List Deed → Session ι σ → Outcome ι σ Unit
  | [], s => (.ok (), s)
  | d :: deeds, s =>
    match perform listeners inner d s with
    | (.ok (), s) => performAll deeds s
    | (.error e, s) => (.error e, s)

end Perform

theorem performAll_cons (d : Deed) (deeds : List Deed) (s : Session ι σ) :
    performAll listeners inner (d :: deeds) s =
      andThen (perform listeners inner d s) (performAll listeners inner deeds) :=
  rfl

theorem performAll_append (deeds more : List Deed) (s : Session ι σ) :
    performAll listeners inner (deeds ++ more) s =
      andThen (performAll listeners inner deeds s) (performAll listeners inner more) := by
  induction deeds generalizing s with
  | nil => rfl
  | cons d deeds ih =>
    rw [List.cons_append, performAll_cons, performAll_cons, andThen_assoc]
    exact andThen_congr fun s₁ _ => ih s₁

/-- What each thing on an agenda keeps is kept by all of them. -/
theorem performAll_keeps {P : Session ι σ → Prop}
    (hperform : ∀ d s, P s → P (perform listeners inner d s).2) (deeds : List Deed)
    (s : Session ι σ) (h : P s) : P (performAll listeners inner deeds s).2 := by
  induction deeds generalizing s with
  | nil => exact h
  | cons d deeds ih =>
    rw [performAll_cons]
    exact andThen_keeps (hperform d s h) ih

/-- In a move, one thing on an agenda leaves the flag and the registry as they are. -/
theorem perform_frame (hinner : Refuses inner) {registry : List ι}
    (hregistry : ∀ l ∈ registry, ∀ m, (listeners l m).LeavesRegistry) (d : Deed)
    {s : Session ι σ} (hmoving : s.timeline.moving = true) (hs : s.timeline.registry = registry) :
    (perform listeners inner d s).2.timeline.moving = true ∧
      (perform listeners inner d s).2.timeline.registry = registry := by
  match d with
  | .cross (.forth i) =>
    exact ⟨(Timeline.advance_moving s.timeline).trans hmoving,
      (Timeline.advance_registry s.timeline).trans hs⟩
  | .cross (.back i) =>
    exact ⟨(Timeline.retreat_moving s.timeline).trans hmoving,
      (Timeline.retreat_registry s.timeline).trans hs⟩
  | .tell i m =>
    unfold perform
    dsimp only
    rw [hs]
    cases hl : registry[i]? with
    | none => exact ⟨hmoving, hs⟩
    | some l =>
      -- who is told has a place in the registry, so its reactions leave the registry alone
      have hleaves := hregistry l (List.mem_of_getElem? hl) m
      exact ⟨react_moving hinner _ s hmoving, (react_registry hinner hleaves s hmoving).trans hs⟩

section Listeners

variable (hinner : Refuses inner) (hmoving : t.moving = true)
  (hregistry : ∀ l ∈ t.registry, ∀ m, (listeners l m).LeavesRegistry)
include hinner hmoving hregistry

theorem OnWay.react (h : OnWay listeners t q s) {l : ι} (hl : l ∈ t.registry) (m : Notification) :
    OnWay listeners t q (react inner (listeners l m) s).2 := by
  have hm : s.timeline.moving = true := (congrArg Timeline.moving h.outline).trans hmoving
  refine ⟨(react_outline hinner _ s hm).trans h.outline, ?_, fun hleaves => ?_⟩
  · exact (react_registry hinner (hregistry l hl m) s hm).trans h.registry
  · exact (react_memory hinner (hleaves l hl m) s hm).trans (h.memory hleaves)

theorem OnWay.tell (h : OnWay listeners t q s) (i : Nat) (m : Notification) :
    OnWay listeners t q (perform listeners inner (.tell i m) s).2 := by
  unfold perform
  dsimp only
  rw [h.registry]
  cases hl : t.registry[i]? with
  | none => exact h
  | some l => exact h.react hinner hmoving hregistry (List.mem_of_getElem? hl) m

/-- Telling moves nothing. -/
theorem OnWay.tellAll (h : OnWay listeners t q s) (is : List Nat) (m : Notification) :
    OnWay listeners t q (performAll listeners inner (is.map (.tell · m)) s).2 := by
  induction is generalizing s with
  | nil => exact h
  | cons i is ih =>
    rw [List.map_cons, performAll_cons]
    exact andThen_keeps (h.tell hinner hmoving hregistry i m) fun s₁ h₁ => ih h₁

/-- After a part of an agenda the timeline is where its crossings lead. -/
theorem OnWay.performAll_agenda (h : OnWay listeners t q s) {k : Nat} {events : List Event}
    (hleads : Leads t q events)
    (hok : performAll listeners inner (Deed.agenda k events) s = (.ok (), s')) :
    OnWay listeners t (Event.landing q events) s' := by
  induction events generalizing q s with
  | nil =>
    cases hok
    exact h
  | cons e events ih =>
    match e with
    | .crossed (.forth i) =>
      obtain ⟨⟨rfl, ho, hq⟩, hrest⟩ := hleads
      exact ih (h.forth ho hq) hrest hok
    | .crossed (.back i) =>
      obtain ⟨⟨rfl, ho, hq⟩, hrest⟩ := hleads
      exact ih (h.back ho hq) hrest hok
    | .said about m =>
      rw [Deed.agenda_cons, performAll_append] at hok
      obtain ⟨s₁, hsaid, hrest⟩ := andThen_eq_ok_iff.mp hok
      -- telling the places of a round leaves the session on its way at the same position
      have hnext := h.tellAll hinner hmoving hregistry (List.range k) m
      change OnWay _ _ _ (performAll listeners inner (Deed.ofEvent k (.said about m)) s).2 at hnext
      rw [hsaid] at hnext
      exact ih hnext hleads hrest

/-! ## A move is its agenda -/

theorem deliverFrom_eq_performAll (h : OnWay listeners t q s) (m : Notification) (fuel i : Nat)
    (hfuel : t.registry.length - i < fuel) :
    deliverFrom listeners inner m fuel i s =
      performAll listeners inner
        ((List.range' i (t.registry.length - i)).map (.tell · m)) s := by
  induction fuel generalizing i s with
  | zero => omega
  | succ fuel ih =>
    rw [deliverFrom_succ, h.registry]
    -- the loop stops where the registry ends, which no reaction has moved
    by_cases hi : i < t.registry.length
    · have hlength : t.registry.length - i = t.registry.length - (i + 1) + 1 := by omega
      have hget : t.registry[i]? = some t.registry[i] := List.getElem?_eq_getElem hi
      have hnext := h.react hinner hmoving hregistry (List.getElem_mem hi) m
      rw [hlength, List.range'_succ, List.map_cons, performAll_cons, perform, h.registry, hget]
      refine andThen_congr fun s₁ hok => ?_
      rw [hok] at hnext
      exact ih hnext (i + 1) (by omega)
    · rw [List.getElem?_eq_none (by omega), Nat.sub_eq_zero_of_le (by omega)]
      rfl

theorem deliver_eq_performAll (h : OnWay listeners t q s) (m : Notification) :
    deliver listeners inner s m =
      performAll listeners inner (Deed.tellFirst t.registry.length m) s := by
  have hfuel : t.registry.length - 0 < additionLimit + t.registry.length + 1 := by omega
  have hfrom := deliverFrom_eq_performAll hinner hmoving hregistry h m _ 0 hfuel
  unfold deliver Deed.tellFirst
  rw [h.registry, hfrom, List.range_eq_range', Nat.sub_zero]

/-- The course of a move is its agenda. -/
theorem happenAll_eq_performAll (h : OnWay listeners t q s) {events : List Event}
    (hleads : Leads t q events) :
    happenAll listeners inner events s =
      performAll listeners inner (Deed.agenda t.registry.length events) s := by
  induction events generalizing q s with
  | nil => rfl
  | cons e events ih =>
    match e with
    | .crossed (.forth i) =>
      obtain ⟨⟨rfl, ho, hq⟩, hrest⟩ := hleads
      exact ih (h.forth ho hq) hrest
    | .crossed (.back i) =>
      obtain ⟨⟨rfl, ho, hq⟩, hrest⟩ := hleads
      exact ih (h.back ho hq) hrest
    | .said about m =>
      -- the round is over before the next event, and has left the session on its way
      have hnext := h.tellAll hinner hmoving hregistry (List.range t.registry.length) m
      change OnWay _ _ _ (performAll listeners inner (Deed.tellFirst _ m) s).2 at hnext
      rw [happenAll_cons, happen, deliver_eq_performAll hinner hmoving hregistry h,
        Deed.agenda_cons, Deed.ofEvent, performAll_append]
      refine andThen_congr fun s₁ hok => ?_
      rw [hok] at hnext
      exact ih hnext hleads

theorem travel_eq_performAll (h : OnWay listeners t t.cursor s) (hcursor : t.cursor ≤ t.count)
    {target : Nat} (ht : target ≤ t.count) :
    travel listeners inner target s = performAll listeners inner
      (Deed.agenda t.registry.length (Event.ofMove t.log t.cursor target)) s := by
  have houtline : s.timeline.outline = t.outline := by
    rw [h.outline, Timeline.sweepTo_cursor]
  rw [travel_eq_happenAll listeners hinner hmoving houtline hcursor ht]
  exact happenAll_eq_performAll hinner hmoving hregistry h (leads_ofMove hcursor ht).1

end Listeners

section Move

variable (hcursor : s.timeline.cursor ≤ s.timeline.count)
  (hregistry : ∀ l ∈ s.timeline.registry, ∀ m, (listeners l m).LeavesRegistry)
include hcursor hregistry

theorem travel_setMoving (hinner : Refuses inner) (position : Int) :
    travel listeners inner (s.timeline.clamp position) (s.setMoving true) =
      performAll listeners inner
        (Deed.agenda s.timeline.registry.length (s.timeline.events position)) (s.setMoving true) :=
  travel_eq_performAll (t := (s.setMoving true).timeline) hinner rfl hregistry
    (onWay_self (s.setMoving true)) hcursor (s.timeline.clamp_le_count position)

variable (hidle : s.timeline.moving = false) (position : Int)
include hidle

theorem moveTo_of_error {e : Fault}
    (h : performAll listeners (navigate listeners refuse)
      (Deed.agenda s.timeline.registry.length (s.timeline.events position)) (s.setMoving true) =
        (.error e, s')) :
    moveTo listeners s position = (.error e, s'.setMoving false) := by
  rw [← travel_setMoving hcursor hregistry (refuses_navigate listeners refuse)] at h
  exact moveTo_of_travel_error hidle position h

/-- A move whose agenda is done ends where the timeline is then, with the flag taken back. -/
theorem moveTo_of_ok
    (h : performAll listeners (navigate listeners refuse)
      (Deed.agenda s.timeline.registry.length (s.timeline.events position)) (s.setMoving true) =
        (.ok (), s')) :
    ∃ journal, moveTo listeners s position =
      (.ok s'.timeline.cursor, ⟨{ s'.timeline with moving := false }, s'.kept, journal⟩) := by
  rw [← travel_setMoving hcursor hregistry (refuses_navigate listeners refuse)] at h
  exact moveTo_of_travel_ok hidle position h

/-- The same are registered after a move. -/
theorem moveTo_registry :
    (moveTo listeners s position).2.timeline.registry = s.timeline.registry := by
  -- no deed changes the registry, so neither does a course that breaks off
  have hkeeps := performAll_keeps
    (fun d r (h : r.timeline.moving = true ∧ r.timeline.registry = s.timeline.registry) =>
      perform_frame (refuses_navigate listeners refuse) hregistry d h.1 h.2)
    (Deed.agenda s.timeline.registry.length (s.timeline.events position)) (s.setMoving true)
    ⟨rfl, rfl⟩
  cases hdone : performAll listeners (navigate listeners refuse)
      (Deed.agenda s.timeline.registry.length (s.timeline.events position)) (s.setMoving true) with
  | mk result s' =>
    rw [hdone] at hkeeps
    cases result with
    | error e =>
      rw [moveTo_of_error hcursor hregistry hidle position hdone]
      exact hkeeps.2
    | ok _ =>
      obtain ⟨journal, hmove⟩ := moveTo_of_ok hcursor hregistry hidle position hdone
      rw [hmove]
      exact hkeeps.2

/-- **A move answers what its agenda answers**: its target, or the first error. -/
theorem moveTo_answer :
    (moveTo listeners s position).1 = (performAll listeners (navigate listeners refuse)
      (Deed.agenda s.timeline.registry.length (s.timeline.events position))
      (s.setMoving true)).1.map fun _ => s.timeline.clamp position := by
  cases hd : performAll listeners (navigate listeners refuse)
      (Deed.agenda s.timeline.registry.length (s.timeline.events position)) (s.setMoving true) with
  | mk result s₁ =>
    cases result with
    | error e =>
      rw [moveTo_of_error hcursor hregistry hidle position hd]
      rfl
    | ok _ =>
      obtain ⟨hleads, hlanding⟩ := leads_ofMove (t := (s.setMoving true).timeline) hcursor
        (s.timeline.clamp_le_count position)
      have hend := OnWay.performAll_agenda (t := (s.setMoving true).timeline)
        (refuses_navigate listeners refuse) rfl hregistry (onWay_self (s.setMoving true)) hleads hd
      -- the course has run to its end, so the cursor that is answered is the target
      have hreached : s₁.timeline.cursor = s.timeline.clamp position := hend.cursor.trans hlanding
      obtain ⟨journal, hmove⟩ := moveTo_of_ok hcursor hregistry hidle position hd
      rw [hmove, hreached]
      rfl

end Move

end Session

end Rewind
