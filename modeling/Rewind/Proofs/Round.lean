import Rewind.Proofs.Stream

/-!
# Deliveries to a registry that changes

Listeners may register others and remove others or themselves while a message is delivered.  The
delivery walks the registry by index and looks at it as it is at each turn (`Walk`), so turn `j` is
of whoever stands at place `j` then (`Walk.told_getElem?`).  Those who are registered when a delivery
begins are therefore told, each once and in order, exactly if at turn `j` place `j` is still taken as
it was (`Round.told_eq_iff`), and who keeps a place misses nothing (`Round.told_of_kept`); but behind
one that leaves, everyone moves up and somebody is passed over.  `moveTo_delivers` says what a move
in which nobody gives up consists of.
-/

namespace Rewind

/-- The delivery of a message. -/
structure Round (ι : Type) where
  message : Notification
  /-- The timeline when the delivery begins. -/
  opening : Timeline ι
  /-- Who is told, in order, and how they find the timeline. -/
  turns : List (Sight ι)
  /-- The timeline when the delivery ends. -/
  closing : Timeline ι

namespace Event

theorem messages_append (events more : List Event) :
    messages (events ++ more) = messages events ++ messages more := List.filterMap_append

theorem messages_said (about : Option Crossing) (writes : List (Int × Int)) :
    messages (writes.map fun w => .said about (.ofWrite w)) = writes.map .ofWrite := by
  induction writes with
  | nil => rfl
  | cons w writes ih => exact congrArg (Notification.ofWrite w :: ·) ih

/-- The messages about some crossings are those about their writes. -/
theorem messages_along (log : Log) (cs : List Crossing) :
    messages (along log cs) = (cs.flatMap (Crossing.writes log)).map .ofWrite := by
  induction cs with
  | nil => rfl
  | cons c cs ih =>
    rw [along_cons, messages_append, ih, List.flatMap_cons, List.map_append,
      ← messages_said (some c) (c.writes log)]
    rfl

end Event

theorem Timeline.messages_events {ι : Type} {t : Timeline ι} (hcursor : t.cursor ≤ t.count)
    (position : Int) :
    Event.messages (t.events position) =
      Notification.ofMove (t.log.sweepWrites t.cursor (t.clamp position)) (t.clamp position) := by
  rw [events, Event.ofMove, Event.messages_append, Event.messages_along,
    Crossing.path_writes hcursor (t.clamp_le_count position)]
  rfl

namespace Round

variable {ι : Type}

/-- Who is told, in order. -/
def told (r : Round ι) : List ι := r.turns.map Sight.listener

/-- The registry at each turn, and at the end. -/
def registries (r : Round ι) : List (List ι) :=
  r.turns.map (fun x => x.timeline.registry) ++ [r.closing.registry]

/-- Whoever stands at place `j` when it is turn `j`. -/
def onTurn (r : Round ι) (j : Nat) : Option ι := r.registries[j]?.bind fun registry => registry[j]?

end Round

/-- Deliveries follow each other: the registry is `first` at their beginning and `last` at their end,
and between two of them it stays as it was left. -/
def Linked {ι : Type} : List ι → List (Round ι) → List ι → Prop
  | first, [], last => first = last
  | first, r :: rounds, last => r.opening.registry = first ∧ Linked r.closing.registry rounds last

/-- The step of a crossing lies right ahead, or right behind. -/
def Timeline.Faces {ι : Type} (t : Timeline ι) : Crossing → Prop
  | .forth i => t.cursor = i ∧ i < t.count
  | .back i => t.cursor = i + 1 ∧ i < t.count

/-- A message is told from place `i` on to whoever stands at the next place of the registry at that
moment, and nobody who is told touches `f` of the timeline. -/
inductive Walk {ι β : Type} (f : Timeline ι → β) (m : Notification) :
    Nat → Timeline ι → List (Sight ι) → Timeline ι → Prop
  | stop {i : Nat} {t : Timeline ι} (h : t.registry[i]? = none) : Walk f m i t [] t
  | turn {i : Nat} {l : ι} {t t' u : Timeline ι} {turns : List (Sight ι)}
    (h : t.registry[i]? = some l) (hkept : f t' = f t) (rest : Walk f m (i + 1) t' turns u) :
    Walk f m i t (⟨l, m, t⟩ :: turns) u

namespace Walk

variable {ι β : Type} {f : Timeline ι → β} {m : Notification} {i : Nat} {t u : Timeline ι}
  {turns : List (Sight ι)}

theorem head?_registries (h : Walk f m i t turns u) :
    (turns.map (fun x => x.timeline.registry) ++ [u.registry]).head? = some t.registry := by
  cases h with
  | stop h => rfl
  | turn h hkept rest => rfl

/-- Everyone is told the message, and finds `f` of the timeline as in the beginning. -/
theorem of_mem (h : Walk f m i t turns u) {x : Sight ι} (hx : x ∈ turns) :
    x.message = m ∧ f x.timeline = f t := by
  induction h with
  | stop h => cases hx
  | turn h hkept rest ih =>
    rcases List.mem_cons.mp hx with rfl | hx
    · exact ⟨rfl, rfl⟩
    · exact ⟨(ih hx).1, (ih hx).2.trans hkept⟩

theorem closing (h : Walk f m i t turns u) : f u = f t := by
  induction h with
  | stop h => rfl
  | turn h hkept rest ih => exact ih.trans hkept

/-- **Whose turn it is**: of whoever stands at the place then. -/
theorem told_getElem? (h : Walk f m i t turns u) (j : Nat) :
    (turns.map Sight.listener)[j]? =
      (turns.map (fun x => x.timeline.registry) ++ [u.registry])[j]?.bind
        fun registry => registry[i + j]? := by
  induction h generalizing j with
  | stop h =>
    cases j with
    | zero => exact h.symm
    | succ j => rfl
  | @turn i l t t' u turns h hkept rest ih =>
    cases j with
    | zero => exact h.symm
    | succ j =>
      have hplace : i + (j + 1) = i + 1 + j := by omega
      rw [hplace]
      exact ih j

end Walk

namespace Round

variable {ι : Type}

/-- A delivery that walks the whole registry while those who are told change it. -/
structure Live (r : Round ι) : Prop where
  /-- The first turn finds the registry as it is when the delivery begins. -/
  opens : r.registries.head? = some r.opening.registry
  /-- Everyone is told the message, and finds all but the memory and the registry as in the
  beginning. -/
  message : ∀ x ∈ r.turns, x.message = r.message ∧ x.timeline.outline = r.opening.outline
  /-- A turn is of whoever stands at its place then, and there is none if nobody does. -/
  turn : ∀ j, r.told[j]? = r.onTurn j
  /-- Those who are registered when the delivery begins are told, each once and in order, exactly if
  whoever stands at a place when it is its turn is who stood there in the beginning. -/
  exactly : r.told = r.opening.registry ↔ ∀ j, r.onTurn j = r.opening.registry[j]?
  /-- Who keeps a place has the turn of that place. -/
  kept : ∀ (j : Nat) (l : ι), (∀ registry ∈ r.registries, registry[j]? = some l) → r.told[j]? = some l
  /-- If nobody leaves, those who come are told the same message. -/
  grown : (∀ registry ∈ r.registries, registry <+: r.closing.registry) →
    r.told = r.closing.registry

variable {r : Round ι}

theorem told_eq_iff (hturn : ∀ j, r.told[j]? = r.onTurn j) :
    r.told = r.opening.registry ↔ ∀ j, r.onTurn j = r.opening.registry[j]? := by
  constructor
  · intro h j
    rw [← hturn, h]
  · intro h
    refine List.ext_getElem? fun j => ?_
    rw [hturn, h]

theorem length_told (r : Round ι) : r.told.length = r.turns.length := List.length_map ..

theorem registries_last (r : Round ι) : r.registries[r.turns.length]? = some r.closing.registry := by
  unfold registries
  rw [List.getElem?_append_right (by rw [List.length_map]), List.length_map, Nat.sub_self]
  rfl

/-- Nobody is left without a turn in the end. -/
theorem closing_le (hturn : ∀ j, r.told[j]? = r.onTurn j) :
    r.closing.registry.length ≤ r.turns.length := by
  have hlast := hturn r.turns.length
  rw [onTurn, registries_last, Option.bind_some, List.getElem?_eq_none (r.length_told).le] at hlast
  exact List.getElem?_eq_none_iff.mp hlast.symm

theorem told_of_kept (hturn : ∀ j, r.told[j]? = r.onTurn j) {j : Nat} {l : ι}
    (h : ∀ registry ∈ r.registries, registry[j]? = some l) : r.told[j]? = some l := by
  have hlast : r.closing.registry[j]? = some l := h _ (List.mem_of_getElem? r.registries_last)
  have hj : j < r.registries.length := by
    have hclosing := closing_le hturn
    have hlt := (List.getElem?_eq_some_iff.mp hlast).1
    simp only [registries, List.length_append, List.length_map, List.length_singleton]
    omega
  rw [hturn, onTurn, List.getElem?_eq_getElem hj, Option.bind_some]
  exact h _ (List.getElem_mem hj)

theorem told_of_grown (hturn : ∀ j, r.told[j]? = r.onTurn j)
    (h : ∀ registry ∈ r.registries, registry <+: r.closing.registry) :
    r.told = r.closing.registry := by
  refine List.ext_getElem? fun j => ?_
  by_cases hj : j < r.turns.length
  · obtain ⟨l, hl⟩ : ∃ l, r.told[j]? = some l := by
      rw [← Option.isSome_iff_exists, isSome_getElem?, length_told]
      exact hj
    rw [hl]
    rw [hturn, onTurn, Option.bind_eq_some_iff] at hl
    -- place `j` had its turn in some registry of the round, which the closing one extends
    obtain ⟨registry, hregistry, hplace⟩ := hl
    obtain ⟨rest, hrest⟩ := h registry (List.mem_of_getElem? hregistry)
    rw [← hrest, List.getElem?_append_left (List.getElem?_eq_some_iff.mp hplace).1, hplace]
  -- a place without a turn is not there at the end either, or the walk would have gone on
  · have hclosing := closing_le hturn
    rw [List.getElem?_eq_none (by rw [length_told]; omega), List.getElem?_eq_none (by omega)]

/-- A walk from the first place on is a live delivery. -/
theorem live_of_walk {β : Type} {f : Timeline ι → β}
    (hf : ∀ t u : Timeline ι, f t = f u → t.outline = u.outline)
    (h : Walk f r.message 0 r.opening r.turns r.closing) : r.Live := by
  have hturn : ∀ j, r.told[j]? = r.onTurn j := by
    intro j
    have hplace := h.told_getElem? j
    rwa [Nat.zero_add] at hplace
  exact ⟨h.head?_registries, fun x hx => ⟨(h.of_mem hx).1, hf _ _ (h.of_mem hx).2⟩, hturn,
    told_eq_iff hturn, fun j l => told_of_kept hturn, told_of_grown hturn⟩

end Round

/-- Some events happen to a timeline, with a delivery for every message; nobody who is told touches
`f` of the timeline. -/
inductive Happens {ι β : Type} (f : Timeline ι → β) :
    Timeline ι → List Event → List (Round ι) → Timeline ι → Prop
  | nil {t : Timeline ι} : Happens f t [] [] t
  | crossed {t u : Timeline ι} {c : Crossing} {events : List Event} {rounds : List (Round ι)}
    (hfaces : t.Faces c) (rest : Happens f (t.cross c) events rounds u) :
    Happens f t (.crossed c :: events) rounds u
  | said {t t' u : Timeline ι} {about : Option Crossing} {m : Notification}
    {turns : List (Sight ι)} {events : List Event} {rounds : List (Round ι)}
    (hwalk : Walk f m 0 t turns t') (rest : Happens f t' events rounds u) :
    Happens f t (.said about m :: events) (⟨m, t, turns, t'⟩ :: rounds) u

namespace Happens

variable {ι β : Type} {f : Timeline ι → β} {t u : Timeline ι} {events : List Event}
  {rounds : List (Round ι)}

theorem messages (h : Happens f t events rounds u) :
    rounds.map Round.message = Event.messages events := by
  induction h with
  | nil => rfl
  | crossed hfaces rest ih => exact ih
  | said hwalk rest ih => exact congrArg (_ :: ·) ih

theorem walk (h : Happens f t events rounds u) :
    ∀ r ∈ rounds, Walk f r.message 0 r.opening r.turns r.closing := by
  induction h with
  | nil => simp
  | crossed hfaces rest ih => exact ih
  | said hwalk rest ih => exact List.forall_mem_cons.mpr ⟨hwalk, ih⟩

theorem linked (h : Happens f t events rounds u) : Linked t.registry rounds u.registry := by
  induction h with
  | nil => rfl
  | crossed hfaces rest ih => rwa [Timeline.cross_registry] at ih
  | said hwalk rest ih => exact ⟨rfl, ih⟩

/-- What is true of the registry at each turn and at the end is true of it all along. -/
theorem forall_registries {P : List ι → Prop} (h : Happens f t events rounds u)
    (hturns : ∀ x ∈ rounds.flatMap Round.turns, P x.timeline.registry) (hend : P u.registry) :
    P t.registry ∧ ∀ r ∈ rounds, ∀ registry ∈ r.registries, P registry := by
  induction h with
  | nil => exact ⟨hend, by simp⟩
  | crossed hfaces rest ih =>
    rw [Timeline.cross_registry] at ih
    exact ih hturns hend
  | @said t t' u about m turns events rounds hwalk rest ih =>
    rw [List.flatMap_cons, List.forall_mem_append] at hturns
    -- from the end: the registry a delivery closes with is the one the later events begin with
    obtain ⟨hclosing, hrest⟩ := ih hturns.2 hend
    have hall : ∀ registry ∈ (⟨m, t, turns, t'⟩ : Round ι).registries, P registry := by
      intro registry hregistry
      rcases List.mem_append.mp hregistry with hturn | hlast
      · obtain ⟨x, hx, rfl⟩ := List.mem_map.mp hturn
        exact hturns.1 x hx
      · rw [List.mem_singleton.mp hlast]
        exact hclosing
    exact ⟨hall _ (List.mem_of_head? hwalk.head?_registries), List.forall_mem_cons.mpr ⟨hall, hrest⟩⟩

end Happens

namespace Session

open Observation (sights sights_append)

/-- A delivery that is given up, for the registry grows as it is walked: as many have been told as
were registered when it began, and more than `additionLimit` others. -/
def Overrun {ι : Type} (opening : Timeline ι) (turns : List (Sight ι)) : Prop :=
  ∃ m : Notification, turns.length = opening.registry.length + additionLimit + 1 ∧
    (∀ x : Sight ι, turns.head? = some x → x.timeline = opening) ∧
    ∀ (j : Nat) (x : Sight ι), turns[j]? = some x →
      x.message = m ∧ x.timeline.registry[j]? = some x.listener

/-- The last delivery of a move overruns. -/
def Overruns {ι σ : Type} [DecidableEq ι] (listeners : Listeners ι σ) (s : Session ι σ)
    (position : Int) : Prop :=
  ∃ earlier opening turns, s.heard listeners position = earlier ++ turns ∧ Overrun opening turns

variable {ι σ : Type} [DecidableEq ι] {listeners : Listeners ι σ} {inner : Mover ι (Watched ι σ)}

/-! ## One delivery -/

section Rounds

variable {β : Type} {f : Timeline ι → β} {s s' : Session ι (Watched ι σ)} (hinner : Refuses inner)
  (hspared : ∀ l m (r : Session ι (Watched ι σ)), r.timeline.moving = true →
    f (react inner (listeners.observed l m) r).2.timeline = f r.timeline)
include hinner hspared

theorem deliverFrom_walk {m : Notification} {fuel i : Nat} (hmoving : s.timeline.moving = true)
    (hok : deliverFrom listeners.observed inner m fuel i s = (.ok (), s')) :
    ∃ turns, Walk f m i s.timeline turns s'.timeline ∧
      sights s'.kept.2 = sights s.kept.2 ++ turns := by
  -- on the fuel; the timeline stays moving, so every reaction meets a mover that refuses
  induction fuel generalizing i s with
  | zero => cases hok
  | succ fuel ih =>
    rw [deliverFrom_succ] at hok
    cases hl : s.timeline.registry[i]? with
    | none =>
      rw [hl] at hok
      cases hok
      exact ⟨[], .stop hl, (List.append_nil _).symm⟩
    | some l =>
      rw [hl] at hok
      obtain ⟨s₁, htold, hrest⟩ := andThen_eq_ok_iff.mp hok
      have hmoving₁ := react_moving hinner (listeners.observed l m) s hmoving
      have hspared₁ := hspared l m s hmoving
      have hsights := sights_tell listeners hinner l m hmoving
      rw [htold] at hmoving₁ hspared₁ hsights
      obtain ⟨turns, hwalk, hturns⟩ := ih hmoving₁ hrest
      refine ⟨⟨l, m, s.timeline⟩ :: turns, .turn hl hspared₁ hwalk, ?_⟩
      rw [hturns, hsights, List.append_assoc]
      rfl

theorem deliver_walk {m : Notification} (hmoving : s.timeline.moving = true)
    (hok : deliver listeners.observed inner s m = (.ok (), s')) :
    ∃ turns, Walk f m 0 s.timeline turns s'.timeline ∧
      sights s'.kept.2 = sights s.kept.2 ++ turns := by
  unfold deliver at hok
  exact deliverFrom_walk hinner hspared hmoving hok

/-! ## The deliveries of a move -/

omit [DecidableEq ι] hinner hspared in
theorem Meets.faces {t u : Timeline ι} {q : Nat} {c : Crossing} (h : Meets t q c)
    (hu : u.outline = (t.sweepTo q).outline) : u.Faces c := by
  rw [Timeline.eq_of_outline hu]
  match c with
  | .forth i => exact ⟨h.1.symm, h.2.2⟩
  | .back i => exact ⟨h.1.symm, h.2.2⟩

/-- What is seen in the course of a move is what happens to the timeline. -/
theorem happenAll_happens {t : Timeline ι} {q : Nat} {events : List Event}
    (hmoving : t.moving = true) (h : s.timeline.outline = (t.sweepTo q).outline)
    (hleads : Leads t q events)
    (hok : happenAll listeners.observed inner events s = (.ok (), s')) :
    ∃ rounds, Happens f s.timeline events rounds s'.timeline ∧
      sights s'.kept.2 = sights s.kept.2 ++ rounds.flatMap Round.turns := by
  induction events generalizing q s with
  | nil =>
    cases hok
    exact ⟨[], .nil, (List.append_nil _).symm⟩
  | cons e events ih =>
    cases e with
    | crossed c =>
      obtain ⟨hmeets, hrest⟩ := hleads
      obtain ⟨rounds, hhappens, hrounds⟩ :=
        ih (s := s.update (Timeline.cross c)) (hmeets.outline h) hrest hok
      exact ⟨rounds, .crossed (hmeets.faces h) hhappens, hrounds⟩
    | said about m =>
      obtain ⟨s₁, hsaid, hrest⟩ := andThen_eq_ok_iff.mp hok
      change deliver listeners.observed inner s m = _ at hsaid
      -- whatever the listeners do, the outline is the one the crossings so far have made
      have hnext := deliver_outline listeners.observed hinner hmoving h m
      have hm : s.timeline.moving = true := (congrArg Timeline.moving h).trans hmoving
      rw [hsaid] at hnext
      obtain ⟨turns, hwalk, hturns⟩ := deliver_walk hinner hspared hm hsaid
      obtain ⟨rounds, hhappens, hrounds⟩ := ih hnext hleads hrest
      refine ⟨_, .said hwalk hhappens, ?_⟩
      rw [hrounds, hturns, List.append_assoc, List.flatMap_cons]

end Rounds

/-! ## Deliveries that do not end -/

omit [DecidableEq ι] in
/-- By its last turn the registry has more than `additionLimit` others than when it began. -/
theorem Overrun.grown {opening : Timeline ι} {turns : List (Sight ι)}
    (h : Overrun opening turns) : ∃ x ∈ turns,
      opening.registry.length + additionLimit < x.timeline.registry.length := by
  obtain ⟨m, hlength, -, hturn⟩ := h
  have hj : opening.registry.length + additionLimit < turns.length := by omega
  have hplace := (hturn _ _ (List.getElem?_eq_getElem hj)).2
  exact ⟨_, List.getElem_mem hj, (List.getElem?_eq_some_iff.mp hplace).1⟩

/-- A move with such a delivery tells more than `additionLimit` listeners something. -/
theorem Overruns.length_lt {s : Session ι σ} {position : Int}
    (h : s.Overruns listeners position) :
    additionLimit < (s.heard listeners position).length := by
  obtain ⟨earlier, opening, turns, hheard, m, hlength, -⟩ := h
  rw [hheard, List.length_append]
  omega

section Endless

variable {s s' : Session ι (Watched ι σ)} (hinner : Refuses inner)
include hinner

/-- A delivery fails with whoever gives up, or when it has told as many as it is bound to. -/
theorem deliverFrom_endless {m : Notification} {fuel i : Nat} {e : Fault}
    (hmoving : s.timeline.moving = true)
    (hfail : deliverFrom listeners.observed inner m fuel i s = (.error e, s')) :
    .failed e ∈ s'.kept.2 ∨ e = .endlessDelivery ∧
      ∃ turns, sights s'.kept.2 = sights s.kept.2 ++ turns ∧ turns.length = fuel ∧
        (∀ x, turns.head? = some x → x.timeline = s.timeline) ∧
        ∀ j x, turns[j]? = some x →
          x.message = m ∧ x.timeline.registry[i + j]? = some x.listener := by
  induction fuel generalizing i s with
  | zero =>
    -- the walk is cut off with one turn taken for every unit of fuel
    cases hfail
    exact .inr ⟨rfl, [], (List.append_nil _).symm, rfl, by simp, by simp⟩
  | succ fuel ih =>
    rw [deliverFrom_succ] at hfail
    cases hl : s.timeline.registry[i]? with
    | none =>
      rw [hl] at hfail
      cases hfail
    | some l =>
      rw [hl] at hfail
      have hmoving₁ := react_moving hinner (listeners.observed l m) s hmoving
      have hsights := sights_tell listeners hinner l m hmoving
      cases hr : react inner (listeners.observed l m) s with
      | mk result s₁ =>
        rw [hr] at hmoving₁ hsights
        dsimp only at hfail
        rw [hr] at hfail
        cases result with
        | error e₁ =>
          have hfailed := failed_mem_tell l m (congrArg Prod.fst hr)
          rw [hr] at hfailed
          cases hfail
          exact .inl hfailed
        | ok _ =>
          -- nobody has failed in this turn, so the rest of the walk did
          refine (ih hmoving₁ hfail).imp_right (And.imp_right ?_)
          rintro ⟨turns, hturns, hlength, -, hrest⟩
          refine ⟨⟨l, m, s.timeline⟩ :: turns, ?_, by simp [hlength], by simp, fun j x hx => ?_⟩
          · rw [hturns, hsights, List.append_assoc]
            rfl
          · cases j with
            | zero =>
              cases hx
              exact ⟨rfl, hl⟩
            | succ j =>
              have hplace : i + (j + 1) = i + 1 + j := by omega
              rw [hplace]
              exact hrest j x hx

theorem deliver_endless {m : Notification} {e : Fault} (hmoving : s.timeline.moving = true)
    (hfail : deliver listeners.observed inner s m = (.error e, s')) :
    .failed e ∈ s'.kept.2 ∨ e = .endlessDelivery ∧
      ∃ turns, sights s'.kept.2 = sights s.kept.2 ++ turns ∧ Overrun s.timeline turns := by
  refine (deliverFrom_endless hinner hmoving hfail).imp_right (And.imp_right ?_)
  rintro ⟨turns, hturns, hlength, hfirst, hrest⟩
  refine ⟨turns, hturns, m, by omega, hfirst, fun j x hx => ?_⟩
  have hplace := hrest j x hx
  rwa [Nat.zero_add] at hplace

theorem happenAll_endless {events : List Event} {e : Fault} (hmoving : s.timeline.moving = true)
    (hfail : happenAll listeners.observed inner events s = (.error e, s')) :
    .failed e ∈ s'.kept.2 ∨ e = .endlessDelivery ∧
      ∃ earlier opening turns, sights s'.kept.2 = earlier ++ turns ∧ Overrun opening turns := by
  induction events generalizing s with
  | nil => cases hfail
  | cons e' events ih =>
    cases e' with
    | crossed c =>
      exact ih (s := s.update (Timeline.cross c))
        ((Timeline.cross_moving c s.timeline).trans hmoving) hfail
    | said about m =>
      rw [happenAll_cons, happen] at hfail
      cases hd : deliver listeners.observed inner s m with
      | mk result s₁ =>
        rw [hd] at hfail
        cases result with
        | error e₁ =>
          cases hfail
          refine (deliver_endless hinner hmoving hd).imp_right (And.imp_right ?_)
          rintro ⟨turns, hturns, hoverrun⟩
          exact ⟨_, _, turns, hturns, hoverrun⟩
        | ok _ =>
          -- this delivery has ended, so a later event fails
          have hmoving₁ := deliver_keeps
            (fun l m r hr => react_moving hinner (listeners.observed l m) r hr) s m hmoving
          rw [hd] at hmoving₁
          exact ih hmoving₁ hfail

end Endless

/-! ## A whole move -/

section Move

variable {s : Session ι σ} {position : Int}

variable (listeners) in
/-- A move fails or returns as its course does, and so it is seen. -/
theorem moveTo_course (hs : s.Ready) (position : Int) :
    ∃ result s', happenAll listeners.observed (navigate listeners.observed refuse)
        (s.timeline.events position) ((s.observed []).setMoving true) = (result, s') ∧
      (moveTo listeners s position).1 = result.map (fun _ => s'.timeline.cursor) ∧
      (moveTo listeners s position).2.timeline = { s'.timeline with moving := false } ∧
      s.observations listeners position = s'.kept.2 := by
  -- watched or not, the move answers alike and leaves the same timeline
  have hobserved := (moveTo_observed listeners s position).symm
  have hcourse := travel_eq_happenAll listeners.observed
    (s := (s.observed []).setMoving true) (t := (s.setMoving true).timeline)
    (refuses_navigate listeners.observed refuse) rfl rfl hs.cursor_le
    (s.timeline.clamp_le_count position)
  unfold observations
  cases hway : travel listeners.observed (navigate listeners.observed refuse)
      (s.timeline.clamp position) ((s.observed []).setMoving true) with
  | mk result s' =>
    refine ⟨result, s', hcourse.symm.trans hway, ?_⟩
    cases result with
    | error e =>
      have hfail := moveTo_of_travel_error (s := s.observed []) hs.idle position hway
      have hsame := hobserved.trans hfail
      rw [hfail]
      exact ⟨congrArg Prod.fst hsame, congrArg (fun o => o.2.timeline) hsame, rfl⟩
    | ok _ =>
      obtain ⟨journal, hmove⟩ := moveTo_of_travel_ok (s := s.observed []) hs.idle position hway
      have hsame := hobserved.trans hmove
      rw [hmove]
      exact ⟨congrArg Prod.fst hsame, congrArg (fun o => o.2.timeline) hsame, rfl⟩

/-- What is seen in a move that returns is what happens to the timeline. -/
theorem moveTo_happens {β : Type} {f : Timeline ι → β} (hs : s.Ready)
    (hspared : ∀ l m (r : Session ι (Watched ι σ)), r.timeline.moving = true →
      f (react (navigate listeners.observed refuse) (listeners.observed l m) r).2.timeline =
        f r.timeline) {p : Nat} (hok : (moveTo listeners s position).1 = .ok p) :
    ∃ rounds u, Happens f (s.setMoving true).timeline (s.timeline.events position) rounds u ∧
      s.heard listeners position = rounds.flatMap Round.turns ∧
      (moveTo listeners s position).2.timeline = { u with moving := false } := by
  have hinner := refuses_navigate listeners.observed refuse
  have hself : (s.setMoving true).timeline.outline =
      ((s.setMoving true).timeline.sweepTo s.timeline.cursor).outline :=
    congrArg Timeline.outline (Timeline.sweepTo_cursor _).symm
  have hleads := (leads_ofMove (t := (s.setMoving true).timeline) hs.cursor_le
    (s.timeline.clamp_le_count position)).1
  obtain ⟨result, s', hcourse, hanswer, htimeline, hseen⟩ := moveTo_course listeners hs position
  cases result with
  | error e =>
    rw [hok] at hanswer
    cases hanswer
  | ok _ =>
    obtain ⟨rounds, hhappens, hrounds⟩ := happenAll_happens hinner hspared
      (s := (s.observed []).setMoving true) (t := (s.setMoving true).timeline) rfl hself hleads
      hcourse
    refine ⟨rounds, s'.timeline, hhappens, ?_, htimeline⟩
    unfold heard
    rw [hseen]
    exact hrounds

/-- A move in which nobody gives up fails only if one of its deliveries overruns. -/
theorem Unfailing.answer_or_endless (h : s.Unfailing listeners position) (hs : s.Ready) :
    (moveTo listeners s position).1 = .ok (s.timeline.clamp position) ∨
      (moveTo listeners s position).1 = .error .endlessDelivery ∧ s.Overruns listeners position := by
  obtain ⟨result, s', hcourse, hanswer, -, hseen⟩ := moveTo_course listeners hs position
  cases result with
  | error e =>
    rcases happenAll_endless (refuses_navigate listeners.observed refuse) rfl hcourse with
      hfailed | ⟨rfl, hoverrun⟩
    -- whoever fails is noted, and nobody is
    · exact absurd (hseen ▸ hfailed) (h e)
    · refine .inr ⟨hanswer, ?_⟩
      unfold Overruns heard
      rw [hseen]
      exact hoverrun
  | ok _ =>
    obtain ⟨q, -, -, -, hq⟩ := moveTo_outline listeners hs.idle hs.cursor_le position
    obtain ⟨hcursor, htarget⟩ := hq _ hanswer
    refine .inl (hanswer.trans ?_)
    rw [← htarget, ← hcursor]
    rfl

/-- Nor does it fail if nobody ever sees a registry with more than `additionLimit` places. -/
theorem Unfailing.answer_of_bounded (h : s.Unfailing listeners position) (hs : s.Ready)
    (hbounded : ∀ x ∈ s.heard listeners position, x.timeline.registry.length ≤ additionLimit) :
    (moveTo listeners s position).1 = .ok (s.timeline.clamp position) := by
  refine (h.answer_or_endless hs).resolve_right ?_
  rintro ⟨-, earlier, opening, turns, hheard, hoverrun⟩
  obtain ⟨x, hx, hlength⟩ := hoverrun.grown
  have hplaces := hbounded x (hheard ▸ List.mem_append_right earlier hx)
  omega

/-- Listeners that return do not give up in any move, whatever else they do. -/
theorem unfailing_of_all_return (hs : s.Ready) (hreturns : ∀ l m, (listeners l m).Returns)
    (position : Int) : s.Unfailing listeners position := by
  intro e he
  have hinner := refuses_navigate listeners.observed refuse
  obtain ⟨result, s', hcourse, -, -, hseen⟩ := moveTo_course listeners hs position
  -- what every reaction and every crossing keeps: nobody has given up yet
  let P (r : Session ι (Watched ι σ)) : Prop := r.timeline.moving = true ∧ .failed e ∉ r.kept.2
  have hreact : ∀ l m r, P r →
      P (react (navigate listeners.observed refuse) (listeners.observed l m) r).2 := by
    rintro l m r ⟨hmoving, hunfailing⟩
    refine ⟨react_moving hinner _ r hmoving, fun hfailed => ?_⟩
    have hnoted := failed_of_returns hinner (hreturns l m) (r.noted (.told ⟨l, m, r.timeline⟩))
      hmoving hfailed
    rcases List.mem_append.mp hnoted with hbefore | htold
    · exact hunfailing hbefore
    · cases List.mem_singleton.mp htold
  have hcross : ∀ c r, P r → P (r.update (Timeline.cross c)) := by
    rintro c r ⟨hmoving, hunfailing⟩
    exact ⟨(Timeline.cross_moving c r.timeline).trans hmoving, hunfailing⟩
  have hend := happenAll_keeps hreact hcross (s.timeline.events position)
    ((s.observed []).setMoving true) ⟨rfl, List.not_mem_nil⟩
  rw [hcourse] at hend
  rw [hseen] at he
  exact hend.2 he

/-- A move of listeners that do not give up fails only if one of its deliveries overruns. -/
theorem answer_of_returns (hs : s.Ready) (hreturns : ∀ l m, (listeners l m).Returns)
    (position : Int) :
    (moveTo listeners s position).1 = .ok (s.timeline.clamp position) ∨
      (moveTo listeners s position).1 = .error .endlessDelivery ∧ s.Overruns listeners position :=
  (unfailing_of_all_return hs hreturns position).answer_or_endless hs

variable (listeners) in
/-- What a move consists of that returns. -/
structure Delivers (s : Session ι σ) (position : Int) (rounds : List (Round ι)) : Prop where
  /-- There is a delivery for every write of the steps that are crossed, in order, and one for the
  position reached. -/
  messages : rounds.map Round.message =
    Notification.ofMove (s.timeline.log.sweepWrites s.timeline.cursor (s.timeline.clamp position))
      (s.timeline.clamp position)
  /-- Nobody is told anything else. -/
  heard : s.heard listeners position = rounds.flatMap Round.turns
  /-- Every delivery begins with the registry that the one before it has left. -/
  linked : Linked s.timeline.registry rounds (moveTo listeners s position).2.timeline.registry
  live : ∀ r ∈ rounds, r.Live
  /-- Who keeps a place all along has the turn of that place in every delivery. -/
  kept : ∀ (j : Nat) (l : ι), (∀ x ∈ s.heard listeners position, x.timeline.registry[j]? = some l) →
    (moveTo listeners s position).2.timeline.registry[j]? = some l →
    ∀ r ∈ rounds, r.told[j]? = some l

/-- **Deliveries to a registry that changes**, in a ready session, as all reachable ones are
(`Reachable.ready`), with listeners that do not give up, whatever else they do.  Unless they register
more than `additionLimit` listeners in one delivery, the move returns its target and consists of live
deliveries: additions and removals count from the next turn on, not from the next delivery. -/
theorem moveTo_delivers (hs : s.Ready) (hreturns : ∀ l m, (listeners l m).Returns)
    (position : Int) :
    ((moveTo listeners s position).1 = .error .endlessDelivery ∧ s.Overruns listeners position) ∨
    ((moveTo listeners s position).1 = .ok (s.timeline.clamp position) ∧
      ∃ rounds, s.Delivers listeners position rounds) := by
  rcases answer_of_returns hs hreturns position with hok | hendless
  · refine .inr ⟨hok, ?_⟩
    obtain ⟨rounds, u, hhappens, hheard, hend⟩ := moveTo_happens (f := Timeline.outline) hs
      (fun l m r hr => react_outline (refuses_navigate listeners.observed refuse) _ r hr) hok
    have hlive : ∀ r ∈ rounds, r.Live :=
      fun r hr => Round.live_of_walk (fun _ _ h => h) (hhappens.walk r hr)
    refine ⟨rounds, ?_, hheard, ?_, hlive, fun j l hturns hlast r hr => ?_⟩
    · rw [hhappens.messages]
      exact Timeline.messages_events hs.cursor_le position
    · rw [hend]
      exact hhappens.linked
    · rw [hheard] at hturns
      rw [hend] at hlast
      -- who has place `j` at every turn has it in every registry of every round
      have hall := (hhappens.forall_registries (P := fun registry => registry[j]? = some l)
        hturns hlast).2 r hr
      exact (hlive r hr).kept j l hall
  · exact .inl hendless

end Move

/-- A listener that registers another one whenever it is told something: the other one is told the
same message. -/
theorem moveTo_delivers_addition :
    let listeners : Listeners Bool Unit := fun l _ => if l then .done else .addListener true .done
    let s : Session Bool Unit :=
      run listeners ⟨Timeline.ofTrace { log := [[⟨5, 0, 42⟩]] } {}, (), []⟩ [.addListener false]
    (moveTo listeners s 1).1 = .ok 1 ∧ (∃ rounds, s.Delivers listeners 1 rounds) ∧
      (s.heard listeners 1).map (fun x => (x.listener, x.message)) =
        [(false, .cellChanged 5 42), (true, .cellChanged 5 42),
          (false, .cursorMoved 1), (true, .cursorMoved 1), (true, .cursorMoved 1)] := by
  intro listeners s
  have hs : s.Ready := ready_run ⟨rfl, Nat.zero_le _⟩ _
  have hreturns : ∀ l m, (listeners l m).Returns := by
    intro l m
    cases l with
    | false => exact .addListener true .done
    | true => exact .done
  have hheard : (s.heard listeners 1).map (fun x => (x.listener, x.message)) =
      [(false, .cellChanged 5 42), (true, .cellChanged 5 42),
        (false, .cursorMoved 1), (true, .cursorMoved 1), (true, .cursorMoved 1)] := by
    decide +zetaReduce
  rcases moveTo_delivers hs hreturns 1 with ⟨-, hoverruns⟩ | ⟨hok, hrounds⟩
  -- five turns do not overrun
  · have hlength := congrArg List.length hheard
    have hlimit := hoverruns.length_lt
    rw [List.length_map] at hlength
    rw [hlength] at hlimit
    exact absurd hlimit (by decide)
  · exact ⟨hok, hrounds, hheard⟩

/-- A listener that removes itself when it is told something: the one behind it is registered all
along and is not told. -/
theorem moveTo_passes_over :
    let listeners : Listeners Bool Unit := fun l _ =>
      if l then .done else .removeListener false fun _ => .done
    let s : Session Bool Unit :=
      run listeners ⟨Timeline.ofTrace { log := [[⟨5, 0, 42⟩]] } {}, (), []⟩
        [.addListener false, .addListener true]
    (∀ l m, (listeners l m).Returns) ∧ (moveTo listeners s 1).1 = .ok 1 ∧
      s.timeline.registry = [false, true] ∧
      (∀ x ∈ s.heard listeners 1, true ∈ x.timeline.registry) ∧
      (moveTo listeners s 1).2.timeline.registry = [true] ∧
      (s.heard listeners 1).map (fun x => (x.listener, x.message)) =
        [(false, .cellChanged 5 42), (true, .cursorMoved 1)] := by
  intro listeners s
  refine ⟨fun l m => ?_, by decide +zetaReduce, by decide +zetaReduce, by decide +zetaReduce,
    by decide +zetaReduce, by decide +zetaReduce⟩
  cases l with
  | false => exact .removeListener false fun _ => .done
  | true => exact .done

end Session

end Rewind
