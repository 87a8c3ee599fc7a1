import Rewind.Proofs.Agenda
import Rewind.Proofs.Move

/-!
# The course of a move

Whatever listeners do, a move is the same crossings in the same order, each followed by the messages
about its writes, with a delivery for every message and one more at the end (`happenAll`,
`travel_eq_happenAll`); only how far it gets is up to them.  `Leads` says that crossings follow each
other, and `happenAll_outline` where the cursor is after them.
-/

namespace Rewind

/-- Goes over a step, one way or the other. -/
def Timeline.cross {ι : Type} : Crossing → Timeline ι → Timeline ι
  | .forth _ => advance
  | .back _ => retreat

theorem Timeline.cross_registry {ι : Type} (c : Crossing) (t : Timeline ι) :
    (t.cross c).registry = t.registry := by
  cases c with
  | forth i => exact t.advance_registry
  | back i => exact t.retreat_registry

theorem Timeline.cross_moving {ι : Type} (c : Crossing) (t : Timeline ι) :
    (t.cross c).moving = t.moving := by
  cases c with
  | forth i => exact t.advance_moving
  | back i => exact t.retreat_moving

namespace Session

variable {ι σ : Type}

/-! ## Crossings that follow each other -/

section Leads

variable {t : Timeline ι} {q : Nat}

/-- A crossing goes on from `q`, away from where `t` is. -/
def Meets (t : Timeline ι) (q : Nat) : Crossing → Prop
  | .forth i => i = q ∧ t.cursor ≤ i ∧ i < t.count
  | .back i => i + 1 = q ∧ i < t.cursor ∧ i < t.count

/-- The crossings of some events go on from `q`, one after another. -/
def Leads (t : Timeline ι) : Nat → List Event → Prop
  | _, [] => True
  | q, .crossed c :: events => Meets t q c ∧ Leads t c.cursor events
  | q, .said .. :: events => Leads t q events

theorem leads_append {events more : List Event} :
    Leads t q (events ++ more) ↔ Leads t q events ∧ Leads t (Event.landing q events) more := by
  induction events generalizing q with
  | nil => exact (and_iff_right trivial).symm
  | cons e events ih =>
    cases e with
    | crossed c => exact (and_congr_right fun _ => ih).trans and_assoc.symm
    | said about m => exact ih

theorem leads_said (about : Option Crossing) (writes : List (Int × Int)) :
    Leads t q (writes.map fun w => .said about (.ofWrite w)) := by
  induction writes with
  | nil => trivial
  | cons w writes ih => exact ih

theorem leads_ofCrossing {log : Log} {c : Crossing} :
    Leads t q (Event.ofCrossing log c) ↔ Meets t q c :=
  and_iff_left (leads_said (some c) (c.writes log))

theorem leads_forth (n : Nat) (ho : t.cursor ≤ q) (hn : q + n ≤ t.count) (log : Log) :
    Leads t q (Event.along log (Crossing.ahead q n)) ∧
      Event.landing q (Event.along log (Crossing.ahead q n)) = q + n := by
  induction n generalizing q with
  | zero => exact ⟨trivial, rfl⟩
  | succ n ih =>
    obtain ⟨hleads, hlanding⟩ := ih (q := q + 1) (by omega) (by omega)
    have hlt : q < t.count := by omega
    rw [Crossing.ahead_succ, Event.along_cons, leads_append, Event.landing_append,
      Event.landing_ofCrossing, leads_ofCrossing]
    exact ⟨⟨⟨rfl, ho, hlt⟩, hleads⟩, hlanding.trans (by omega)⟩

theorem leads_back (n : Nat) (ho : q + n ≤ t.cursor) (hn : q + n ≤ t.count) (log : Log) :
    Leads t (q + n) (Event.along log (Crossing.behind q n)) ∧
      Event.landing (q + n) (Event.along log (Crossing.behind q n)) = q := by
  induction n with
  | zero => exact ⟨trivial, rfl⟩
  | succ n ih =>
    obtain ⟨hleads, hlanding⟩ := ih (by omega) (by omega)
    have hlt : q + n < t.cursor := by omega
    have hlt' : q + n < t.count := by omega
    rw [Crossing.behind_succ, Event.along_cons, leads_append, Event.landing_append,
      Event.landing_ofCrossing, leads_ofCrossing]
    exact ⟨⟨⟨rfl, hlt, hlt'⟩, hleads⟩, hlanding⟩

/-- The path of a move leads from one end to the other. -/
theorem leads_path {target : Nat} (hcursor : t.cursor ≤ t.count) (ht : target ≤ t.count)
    (log : Log) :
    Leads t t.cursor (Event.along log (Crossing.path t.cursor target)) ∧
      Event.landing t.cursor (Event.along log (Crossing.path t.cursor target)) = target := by
  by_cases hle : t.cursor ≤ target
  · have hover := leads_forth (t := t) (target - t.cursor) le_rfl (by omega) log
    rwa [Nat.add_sub_cancel' hle, ← Crossing.path_of_le hle] at hover
  · have hback := leads_back (t := t) (q := target) (t.cursor - target) (by omega) (by omega) log
    rwa [Nat.add_sub_cancel' (by omega), ← Crossing.path_of_ge (by omega)] at hback

theorem leads_ofMove {target : Nat} (hcursor : t.cursor ≤ t.count) (ht : target ≤ t.count) :
    Leads t t.cursor (Event.ofMove t.log t.cursor target) ∧
      Event.landing t.cursor (Event.ofMove t.log t.cursor target) = target := by
  obtain ⟨hleads, hlanding⟩ := leads_path hcursor ht t.log
  rw [Event.ofMove, leads_append, Event.landing_append]
  exact ⟨⟨hleads, trivial⟩, hlanding⟩

/-- Going on from `q` leads to where the crossing ends. -/
theorem Meets.outline {c : Crossing} (h : Meets t q c) {u : Timeline ι}
    (hu : u.outline = (t.sweepTo q).outline) :
    (u.cross c).outline = (t.sweepTo c.cursor).outline := by
  match c with
  | .forth i =>
    obtain ⟨rfl, ho, hq⟩ := h
    exact (Timeline.advance_congr hu).1.trans (congrArg _ (Timeline.sweepTo_advance ho hq))
  | .back i =>
    obtain ⟨rfl, ho, hq⟩ := h
    exact (Timeline.retreat_congr hu).1.trans (congrArg _ (Timeline.sweepTo_retreat ho hq))

end Leads

/-! ## One event after another -/

variable [DecidableEq ι]

section Happen

variable (listeners : Listeners ι σ) (inner : Mover ι σ)

/-- Lets one event happen. -/
def happen : Event → Session ι σ → Outcome ι σ Unit
  | .crossed c, s => (.ok (), s.update (Timeline.cross c))
  | .said _ m, s => deliver listeners inner s m

/-- Lets one event happen after another until a listener fails. -/
def happenAll : List Event → Session ι σ → Outcome ι σ Unit
  | [], s => (.ok (), s)
  | e :: events, s => andThen (happen listeners inner e s) (happenAll events)

end Happen

variable {listeners : Listeners ι σ} {inner : Mover ι σ} {t : Timeline ι} {q : Nat}
  {s s' : Session ι σ}

theorem happenAll_cons (e : Event) (events : List Event) (s : Session ι σ) :
    happenAll listeners inner (e :: events) s =
      andThen (happen listeners inner e s) (happenAll listeners inner events) :=
  rfl

theorem happenAll_append (events more : List Event) (s : Session ι σ) :
    happenAll listeners inner (events ++ more) s =
      andThen (happenAll listeners inner events s) (happenAll listeners inner more) := by
  induction events generalizing s with
  | nil => rfl
  | cons e events ih =>
    rw [List.cons_append, happenAll_cons, happenAll_cons, andThen_assoc]
    exact andThen_congr fun s₁ _ => ih s₁

/-- What every crossing and every reaction keeps is kept by events. -/
theorem happenAll_keeps {P : Session ι σ → Prop}
    (hreact : ∀ l n s, P s → P (react inner (listeners l n) s).2)
    (hcross : ∀ c s, P s → P (s.update (Timeline.cross c))) (events : List Event)
    (s : Session ι σ) (h : P s) : P (happenAll listeners inner events s).2 := by
  induction events generalizing s with
  | nil => exact h
  | cons e events ih =>
    rw [happenAll_cons]
    cases e with
    | crossed c => exact andThen_keeps (hcross c s h) ih
    | said about m => exact andThen_keeps (deliver_keeps hreact s m h) ih

section Outline

variable (hinner : Refuses inner) (hmoving : t.moving = true)
include hinner hmoving

variable (listeners) in
/-- A delivery leaves all but the memory and the registry as it is. -/
theorem deliver_outline (h : s.timeline.outline = (t.sweepTo q).outline) (m : Notification) :
    (deliver listeners inner s m).2.timeline.outline = (t.sweepTo q).outline := by
  refine deliver_keeps
    (P := fun r => r.timeline.outline = (t.sweepTo q).outline) (fun l n r hr => ?_) s m h
  have hm : r.timeline.moving = true := (congrArg Timeline.moving hr).trans hmoving
  exact (react_outline hinner _ r hm).trans hr

/-- After some events the timeline is where its crossings lead. -/
theorem happenAll_outline (h : s.timeline.outline = (t.sweepTo q).outline) {events : List Event}
    (hleads : Leads t q events) (hok : happenAll listeners inner events s = (.ok (), s')) :
    s'.timeline.outline = (t.sweepTo (Event.landing q events)).outline := by
  induction events generalizing q s with
  | nil =>
    cases hok
    exact h
  | cons e events ih =>
    cases e with
    | crossed c => exact ih (s := s.update (Timeline.cross c)) (hleads.1.outline h) hleads.2 hok
    | said about m =>
      obtain ⟨s₁, hsaid, hrest⟩ := andThen_eq_ok_iff.mp hok
      -- a delivery moves nothing, so the next event meets the same cursor and log
      have hnext := deliver_outline listeners hinner hmoving h m
      change (happen listeners inner (.said about m) s).2.timeline.outline = _ at hnext
      rw [hsaid] at hnext
      exact ih hnext hleads hrest

end Outline

/-! ## A move is its course -/

theorem deliverAll_silent (hs : s.timeline.registry = []) (ns : List Notification) :
    deliverAll listeners inner s ns = (.ok (), s) := by
  induction ns with
  | nil => rfl
  | cons n ns ih =>
    rw [deliverAll_cons, deliver_silent listeners inner hs n]
    exact ih

theorem deliverAll_eq_happenAll (about : Option Crossing) (writes : List (Int × Int))
    (s : Session ι σ) :
    deliverAll listeners inner s (writes.map .ofWrite) =
      happenAll listeners inner (writes.map fun w => .said about (.ofWrite w)) s := by
  induction writes generalizing s with
  | nil => rfl
  | cons w writes ih =>
    rw [List.map_cons, deliverAll_cons, List.map_cons, happenAll_cons]
    exact andThen_congr fun s₁ _ => ih s₁

/-- The report that is left out when nobody listens would do nothing. -/
theorem report_eq_happenAll (about : Option Crossing) (writes : List (Int × Int))
    (s : Session ι σ) :
    report listeners inner s writes =
      happenAll listeners inner (writes.map fun w => .said about (.ofWrite w)) s := by
  rw [← deliverAll_eq_happenAll]
  unfold report
  by_cases hempty : s.timeline.registry = []
  · rw [if_pos (List.isEmpty_iff.mpr hempty), deliverAll_silent hempty]
  · rw [if_neg (by rwa [List.isEmpty_iff])]

theorem stepForward_eq_happenAll (h : s.timeline.outline = (t.sweepTo q).outline) :
    stepForward listeners inner s =
      happenAll listeners inner (Event.ofCrossing t.log (.forth q)) s := by
  have hlog := congrArg Timeline.log h
  change s.timeline.log = t.log at hlog
  have hcursor : s.timeline.cursor = q := congrArg Timeline.cursor h
  have hwrites : redosAhead s.timeline = Crossing.writes t.log (.forth q) := by
    unfold redosAhead
    rw [hlog, hcursor, Crossing.writes]
    cases t.log[q]? <;> rfl
  unfold stepForward
  rw [hwrites, report_eq_happenAll (some (.forth q))]
  rfl

theorem stepBackward_eq_happenAll (h : s.timeline.outline = (t.sweepTo (q + 1)).outline) :
    stepBackward listeners inner s =
      happenAll listeners inner (Event.ofCrossing t.log (.back q)) s := by
  have hlog := congrArg Timeline.log h
  change s.timeline.log = t.log at hlog
  have hcursor : s.timeline.cursor = q + 1 := congrArg Timeline.cursor h
  have hwrites : undosBehind s.timeline = Crossing.writes t.log (.back q) := by
    unfold undosBehind
    rw [hlog, hcursor, Crossing.writes]
    dsimp only
    cases t.log[q]? <;> rfl
  unfold stepBackward
  rw [hwrites, report_eq_happenAll (some (.back q))]
  rfl

section Course

variable (listeners) (hinner : Refuses inner) (hmoving : t.moving = true)
include hinner hmoving

theorem forward_eq_happenAll (n : Nat) (h : s.timeline.outline = (t.sweepTo q).outline)
    (ho : t.cursor ≤ q) (hn : q + n ≤ t.count) :
    forward listeners inner n s =
      happenAll listeners inner (Event.along t.log (Crossing.ahead q n)) s := by
  induction n generalizing q s with
  | zero => rfl
  | succ n ih =>
    have hleads : Leads t q (Event.ofCrossing t.log (.forth q)) :=
      leads_ofCrossing.mpr ⟨rfl, ho, by omega⟩
    rw [forward_succ, stepForward_eq_happenAll h, Crossing.ahead_succ, Event.along_cons,
      happenAll_append]
    refine andThen_congr fun s₁ hok => ?_
    have hnext := happenAll_outline hinner hmoving h hleads hok
    rw [Event.landing_ofCrossing] at hnext
    exact ih hnext (Nat.le_succ_of_le ho) (by omega)

theorem backward_eq_happenAll (n : Nat) (h : s.timeline.outline = (t.sweepTo (q + n)).outline)
    (ho : q + n ≤ t.cursor) (hn : q + n ≤ t.count) :
    backward listeners inner n s =
      happenAll listeners inner (Event.along t.log (Crossing.behind q n)) s := by
  induction n generalizing s with
  | zero => rfl
  | succ n ih =>
    have hlt : q + n < t.cursor := by omega
    have hlt' : q + n < t.count := by omega
    -- the step undone is the topmost of the stretch, whence the induction on the upper end
    have hleads : Leads t (q + n + 1) (Event.ofCrossing t.log (.back (q + n))) :=
      leads_ofCrossing.mpr ⟨rfl, hlt, hlt'⟩
    rw [backward_succ, stepBackward_eq_happenAll h, Crossing.behind_succ, Event.along_cons,
      happenAll_append]
    refine andThen_congr fun s₁ hok => ?_
    have hnext := happenAll_outline hinner hmoving h hleads hok
    rw [Event.landing_ofCrossing] at hnext
    exact ih hnext (by omega) (by omega)

/-- **A move is its course**, whatever listeners do. -/
theorem travel_eq_happenAll (h : s.timeline.outline = t.outline) (hcursor : t.cursor ≤ t.count)
    {target : Nat} (ht : target ≤ t.count) :
    travel listeners inner target s =
      happenAll listeners inner (Event.ofMove t.log t.cursor target) s := by
  have hself : s.timeline.outline = (t.sweepTo t.cursor).outline := by
    rw [Timeline.sweepTo_cursor, h]
  -- both ways end with the same message, once the cursor stands at the target
  have hlast : ∀ s₁, s₁.timeline.cursor = target →
      deliver listeners inner s₁ (.cursorMoved s₁.timeline.cursor) =
        happenAll listeners inner [.said none (.cursorMoved target)] s₁ := by
    intro s₁ hs₁
    rw [hs₁]
    cases hd : deliver listeners inner s₁ (.cursorMoved target) with
    | mk result s₂ => cases result <;> simp [happenAll, happen, andThen, hd]
  obtain ⟨hleads, hlanding⟩ := leads_path hcursor ht t.log
  have hcursor' := congrArg Timeline.cursor h
  change s.timeline.cursor = t.cursor at hcursor'
  rw [travel_eq, hcursor', Event.ofMove, happenAll_append]
  by_cases hle : t.cursor ≤ target
  · have hforward := forward_eq_happenAll listeners hinner hmoving
      (target - t.cursor) hself le_rfl (by omega)
    rw [← Crossing.path_of_le hle] at hforward
    rw [hforward]
    refine andThen_congr fun s₁ hok => ?_
    have hreached : s₁.timeline.cursor = target :=
      (congrArg Timeline.cursor (happenAll_outline hinner hmoving hself hleads hok)).trans hlanding
    -- having gone forward there is nothing to go back over
    rw [hreached, Nat.sub_self, backward, andThen]
    exact hlast s₁ hreached
  · have hback : s.timeline.outline = (t.sweepTo (target + (t.cursor - target))).outline := by
      rwa [Nat.add_sub_cancel' (by omega)]
    have hbackward := backward_eq_happenAll listeners hinner hmoving _ hback
      (by omega) (by omega)
    rw [← Crossing.path_of_ge (by omega)] at hbackward
    -- and behind the target there is nothing to go forward over
    rw [Nat.sub_eq_zero_of_le (by omega), forward, andThen, hcursor', hbackward]
    refine andThen_congr fun s₁ hok => ?_
    exact hlast s₁
      ((congrArg Timeline.cursor (happenAll_outline hinner hmoving hself hleads hok)).trans hlanding)

end Course

/-! ## Calls from outside of any move -/

section Move

variable (hidle : s.timeline.moving = false) (position : Int)
include hidle

/-- A move that fails answers with the error, with the flag taken back. -/
theorem moveTo_of_travel_error {e : Fault}
    (h : travel listeners (navigate listeners refuse) (s.timeline.clamp position)
      (s.setMoving true) = (.error e, s')) :
    moveTo listeners s position = (.error e, s'.setMoving false) :=
  navigate_of_travel_error hidle position h

/-- A move that does not fail answers where it ends, with the flag taken back. -/
theorem moveTo_of_travel_ok
    (h : travel listeners (navigate listeners refuse) (s.timeline.clamp position)
      (s.setMoving true) = (.ok (), s')) :
    ∃ journal, moveTo listeners s position =
      (.ok s'.timeline.cursor, ⟨{ s'.timeline with moving := false }, s'.kept, journal⟩) :=
  navigate_of_travel_ok hidle position h

end Move

end Session

end Rewind
