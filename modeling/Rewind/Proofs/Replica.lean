import Rewind.Proofs.Places

/-!
# Replicas

A listener keeps a replica of the cells: it begins with a copy, writes to it whatever it is told, and
takes no notice of the end of a move.  In the middle of a step the cells are ahead of the replica by
the writes that have not been told yet (`Event.pending`); at the end of the step the two meet again
(`Happens.replicates`), in both directions and with no regard to what the log says.  It does not
matter whether the copy is made between calls or inside of one, since a write that the copy knows
already changes nothing.  All it takes is that the listener is told everything, that is, that it
keeps its place in the registry (`run_replicates`); behind one that leaves, a write may be lost.
-/

namespace Rewind

namespace Cells

variable {ι : Type} [DecidableEq ι]

/-- What a message makes of a replica. -/
def receive (replica : Cells) : Notification → Cells
  | .cellChanged address value => replica.insert address value
  | .cursorMoved _ => replica

/-- What somebody else's or one's own turn makes of the replica of `l`. -/
def attend (l : ι) (replica : Cells) (x : Sight ι) : Cells :=
  if x.listener = l then replica.receive x.message else replica

/-- The replica of `l` after some turns. -/
def attendAll (l : ι) (replica : Cells) (seen : List (Sight ι)) : Cells :=
  seen.foldl (attend l) replica

/-- Whenever `l` is told about the end of a move, its replica is what the cells are then. -/
def Tracks (l : ι) : Cells → List (Sight ι) → Prop
  | _, [] => True
  | replica, x :: seen =>
    (x.listener = l → ∀ position, x.message = .cursorMoved position →
      replica = x.timeline.memory.cells) ∧ Tracks l (attend l replica x) seen

theorem attendAll_append (l : ι) (replica : Cells) (seen more : List (Sight ι)) :
    attendAll l replica (seen ++ more) = attendAll l (attendAll l replica seen) more :=
  List.foldl_append

theorem tracks_append {l : ι} {replica : Cells} {seen more : List (Sight ι)} :
    Tracks l replica (seen ++ more) ↔
      Tracks l replica seen ∧ Tracks l (attendAll l replica seen) more := by
  induction seen generalizing replica with
  | nil => exact (and_iff_right trivial).symm
  | cons x seen ih => exact (and_congr_right fun _ => ih).trans and_assoc.symm

omit [DecidableEq ι] in
/-- A message that is told again changes nothing. -/
theorem receive_receive (replica : Cells) (m : Notification) :
    (replica.receive m).receive m = replica.receive m := by
  cases m with
  | cellChanged a v => exact SortedMap.insertAll_insertAll replica [(a, v)]
  | cursorMoved p => rfl

/-- What a delivery makes of a replica, however often its owner is told. -/
theorem attendAll_of_message {l : ι} {m : Notification} {turns : List (Sight ι)}
    (h : ∀ x ∈ turns, x.message = m) (replica : Cells) :
    attendAll l replica turns =
      if l ∈ turns.map Sight.listener then replica.receive m else replica := by
  induction turns generalizing replica with
  | nil => rfl
  | cons x turns ih =>
    obtain ⟨hx, hturns⟩ := List.forall_mem_cons.mp h
    show attendAll l (attend l replica x) turns = _
    -- one message twice over is one message, so it only counts whether `l` had a turn at all
    rw [ih hturns, attend, hx]
    by_cases hl : x.listener = l
    · simp [hl, receive_receive]
    · simp [hl, Ne.symm hl]

/-- A message about a write is none about the end; one about the end finds a replica that is what the
cells are. -/
theorem tracks_of_message {l : ι} {m : Notification} {turns : List (Sight ι)} {replica : Cells}
    (h : ∀ x ∈ turns, x.message = m)
    (hend : ∀ position, m = .cursorMoved position →
      ∀ x ∈ turns, replica = x.timeline.memory.cells) : Tracks l replica turns := by
  induction turns generalizing replica with
  | nil => trivial
  | cons x turns ih =>
    obtain ⟨hx, hturns⟩ := List.forall_mem_cons.mp h
    refine ⟨fun _ position hposition => ?_, ih hturns fun position hposition => ?_⟩
    · exact hend position (hx.symm.trans hposition) x List.mem_cons_self
    · have hsame : attend l replica x = replica := by
        rw [attend, hx, hposition]
        exact ite_self _
      -- a cursor move writes nothing, so the copy stays what it was for the later turns
      rw [hsame]
      exact fun y hy => hend position hposition y (List.mem_cons_of_mem _ hy)

end Cells

/-! ## Writes that have not been told yet -/

namespace Event

/-- The writes that are still to be told about the crossing before some events. -/
def pending : List Event → List (Int × Int)
  | .said _ (.cellChanged address value) :: events => (address, value) :: pending events
  | .said _ (.cursorMoved _) :: _ | .crossed _ :: _ | [] => []

/-- The messages behind every crossing are those about its writes, and all of them have been told
before the end. -/
def Reported (log : Log) : List Event → Prop
  | [] => True
  | .crossed c :: events => pending events = c.writes log ∧ Reported log events
  | .said _ (.cellChanged ..) :: events => Reported log events
  | .said _ (.cursorMoved _) :: events => pending events = [] ∧ Reported log events

theorem Reported.of_said {log : Log} {about : Option Crossing} {m : Notification}
    {events : List Event} (h : Reported log (.said about m :: events)) : Reported log events := by
  cases m with
  | cellChanged a v => exact h
  | cursorMoved p => exact h.2

theorem pending_said (about : Option Crossing) (writes : List (Int × Int)) (events : List Event) :
    pending ((writes.map fun w => .said about (.ofWrite w)) ++ events) =
      writes ++ pending events := by
  induction writes with
  | nil => rfl
  | cons w writes ih => exact congrArg (w :: ·) ih

theorem reported_said {log : Log} {about : Option Crossing} {writes : List (Int × Int)}
    {events : List Event} :
    Reported log ((writes.map fun w => .said about (.ofWrite w)) ++ events) ↔
      Reported log events := by
  induction writes with
  | nil => rfl
  | cons w writes ih => exact ih

/-- A move begins with nothing to be told, and tells everything before its end. -/
theorem reported_ofMove (log : Log) (o t : Nat) :
    pending (ofMove log o t) = [] ∧ Reported log (ofMove log o t) := by
  -- a course ends with the cursor move, and in front of it the writes of every step are all told
  have hall : ∀ cs, pending (along log cs ++ [.said none (.cursorMoved t)]) = [] ∧
      Reported log (along log cs ++ [.said none (.cursorMoved t)]) := by
    intro cs
    induction cs with
    | nil => exact ⟨rfl, rfl, trivial⟩
    | cons c cs ih =>
      refine ⟨rfl, ?_⟩
      rw [along_cons, List.append_assoc]
      refine ⟨(pending_said (some c) (c.writes log) _).trans ?_, reported_said.mpr ih.2⟩
      rw [ih.1, List.append_nil]
  exact hall _

end Event

namespace Timeline

variable {ι : Type} {t : Timeline ι} {c : Crossing}

theorem Faces.log (h : t.Faces c) : (t.cross c).log = t.log := by
  match c with
  | .forth i =>
    obtain ⟨step, hstep⟩ := getElem?_of_lt_count (h.1 ▸ h.2)
    rw [cross, advance_of_getElem? hstep]
  | .back i =>
    obtain ⟨step, hstep⟩ := getElem?_of_lt_count h.2
    rw [cross, retreat_of_getElem? h.1 hstep]

/-- A crossing writes to the cells all that is then told about it. -/
theorem Faces.cells (h : t.Faces c) :
    (t.cross c).memory.cells = t.memory.cells.insertAll (c.writes t.log) := by
  match c with
  | .forth i =>
    obtain ⟨rfl, hi⟩ := h
    obtain ⟨step, hstep⟩ := getElem?_of_lt_count hi
    rw [cross, advance_of_getElem? hstep, Crossing.writes, hstep]
    rfl
  | .back i =>
    obtain ⟨step, hstep⟩ := getElem?_of_lt_count h.2
    rw [cross, retreat_of_getElem? h.1 hstep, Crossing.writes, hstep]
    rfl

end Timeline

/-- After a delivery the cells are ahead of a replica by one write less, if its owner has been told or
knew the write before. -/
theorem Cells.ahead_of_message {ι : Type} [DecidableEq ι] {l : ι} {log : Log}
    {about : Option Crossing} {m : Notification} {events : List Event} {turns : List (Sight ι)}
    {replica cells : Cells} (hreported : Event.Reported log (.said about m :: events))
    (hbehind : replica.insertAll (Event.pending (.said about m :: events)) = cells)
    (hturns : ∀ x ∈ turns, x.message = m ∧ x.timeline.memory.cells = cells)
    (hknown : l ∈ turns.map Sight.listener ∨ replica.insertAll (Event.pending events) = cells) :
    (attendAll l replica turns).insertAll (Event.pending events) = cells ∧
      Tracks l replica turns := by
  have hmessage : ∀ x ∈ turns, x.message = m := fun x hx => (hturns x hx).1
  rw [attendAll_of_message hmessage]
  cases m with
  | cellChanged a v =>
    refine ⟨?_, tracks_of_message hmessage fun position h => by cases h⟩
    -- a missed write is harmless only where a later one covers it
    by_cases hl : l ∈ turns.map Sight.listener
    · rw [if_pos hl]
      exact hbehind
    · rw [if_neg hl]
      exact hknown.resolve_left hl
  | cursorMoved p =>
    -- all writes have been told, so there is nothing that the cells are ahead by
    have hsame : replica = cells := hbehind
    refine ⟨?_, tracks_of_message hmessage fun _ _ x hx => hsame.trans (hturns x hx).2.symm⟩
    rw [hreported.1, receive, ite_self]
    exact hsame

namespace Happens

variable {ι β : Type} {f : Timeline ι → β} {t u : Timeline ι} {events : List Event}
  {rounds : List (Round ι)} {l : ι} {j : Nat}
  (hf : ∀ t u : Timeline ι, f t = f u → t.outline = u.outline ∧ t.memory = u.memory)
include hf

/-- Who keeps a place is told every message. -/
theorem mem_told (h : Happens f t events rounds u)
    (hturns : ∀ x ∈ rounds.flatMap Round.turns, x.timeline.registry[j]? = some l)
    (hend : u.registry[j]? = some l) {r : Round ι} (hr : r ∈ rounds) : l ∈ r.told := by
  have hall := (h.forall_registries (P := fun registry => registry[j]? = some l) hturns hend).2 r hr
  have hlive := Round.live_of_walk (fun t u htu => (hf t u htu).1) (h.walk r hr)
  exact List.mem_of_getElem? (hlive.kept j l hall)

/-- Everyone who is told something in a delivery finds the same cells. -/
theorem turns_of_walk {m : Notification} {i : Nat} {turns : List (Sight ι)}
    (h : Walk f m i t turns u) : ∀ x ∈ turns, x.message = m ∧
      x.timeline.memory.cells = t.memory.cells :=
  fun _ hx => ⟨(h.of_mem hx).1, congrArg Memory.cells (hf _ _ (h.of_mem hx).2).2⟩

variable [DecidableEq ι]

/-- **The cells are ahead of a replica by the writes that are still to be told**, and so the two meet
whenever there are none. -/
theorem replicates (h : Happens f t events rounds u) (hreported : Event.Reported t.log events)
    {replica : Cells} (hbehind : replica.insertAll (Event.pending events) = t.memory.cells)
    (hturns : ∀ x ∈ rounds.flatMap Round.turns, x.timeline.registry[j]? = some l)
    (hend : u.registry[j]? = some l) :
    Cells.attendAll l replica (rounds.flatMap Round.turns) = u.memory.cells ∧
      Cells.Tracks l replica (rounds.flatMap Round.turns) := by
  induction h generalizing replica with
  | nil => exact ⟨hbehind, trivial⟩
  | @crossed t u c events rounds hfaces rest ih =>
    refine ih ?_ ?_ hturns hend
    · rw [hfaces.log]
      exact hreported.2
    · rw [hreported.1, hfaces.cells]
      exact congrArg (·.insertAll (c.writes t.log)) hbehind
  | @said t t' u about m turns events rounds hwalk rest ih =>
    have hall : Happens f t (.said about m :: events) (⟨m, t, turns, t'⟩ :: rounds) u :=
      .said hwalk rest
    -- who keeps place `j` has a turn in every round, also in this one
    have htold := hall.mem_told hf hturns hend List.mem_cons_self
    obtain ⟨hahead, htracks⟩ := Cells.ahead_of_message hreported hbehind
      (turns_of_walk hf hwalk) (.inl htold)
    -- the listeners of this round leave log and cells as they were
    obtain ⟨houtline, hmemory⟩ := hf _ _ hwalk.closing
    have hlog := congrArg Timeline.log houtline
    change t'.log = t.log at hlog
    rw [List.flatMap_cons] at hturns ⊢
    rw [Cells.attendAll_append, Cells.tracks_append]
    obtain ⟨hmeet, htracks'⟩ := ih (hlog ▸ hreported.of_said) (by rw [hahead, hmemory])
      (List.forall_mem_append.mp hturns).2 hend
    exact ⟨hmeet, htracks, htracks'⟩

/-- A copy of the cells that is made in the turn of some listener is as good as a replica that has
been kept all along: the cells hold the writes that are still to be told. -/
theorem replicates_from (h : Happens f t events rounds u) (hreported : Event.Reported t.log events)
    (hahead : t.memory.cells.insertAll (Event.pending events) = t.memory.cells)
    {before after : List (Sight ι)} {x : Sight ι}
    (hseen : rounds.flatMap Round.turns = before ++ x :: after)
    (hturns : ∀ y ∈ after, y.timeline.registry[j]? = some l) (hend : u.registry[j]? = some l) :
    Cells.attendAll l x.timeline.memory.cells after = u.memory.cells ∧
      Cells.Tracks l x.timeline.memory.cells after := by
  induction h generalizing before with
  | nil => simp at hseen
  | @crossed t u c events rounds hfaces rest ih =>
    refine ih ?_ ?_ hseen hend
    · rw [hfaces.log]
      exact hreported.2
    · rw [hreported.1, hfaces.cells, SortedMap.insertAll_insertAll]
  | @said t t' u about m turns events rounds hwalk rest ih =>
    obtain ⟨houtline, hmemory⟩ := hf _ _ hwalk.closing
    have hlog := congrArg Timeline.log houtline
    change t'.log = t.log at hlog
    have hreported' : Event.Reported t'.log events := hlog ▸ hreported.of_said
    -- what is still to come has been written before, whether or not this message is heard
    have hahead' : t.memory.cells.insertAll (Event.pending events) = t.memory.cells := by
      cases m with
      | cellChanged a v => exact SortedMap.insertAll_of_cons hahead
      | cursorMoved p =>
        rw [hreported.1]
        rfl
    rw [List.flatMap_cons, List.append_eq_append_iff] at hseen
    rcases hseen with ⟨before', -, hrest⟩ | ⟨turns', hsplit, hafter⟩
    -- the point to start from lies in a later round
    · exact ih hreported' (by rw [hmemory]; exact hahead') hrest hend
    · cases turns' with
      | nil =>
        -- or it is the first turn of one
        have hrest : rounds.flatMap Round.turns = [] ++ x :: after := hafter.symm
        exact ih hreported' (by rw [hmemory]; exact hahead') hrest hend
      | cons y turns' =>
        rw [List.cons_append] at hafter
        obtain ⟨rfl, rfl⟩ := List.cons.inj hafter
        -- or it lies in the midst of this round, of which `turns'` is what is left
        have hturn := turns_of_walk hf hwalk
        change turns = _ at hsplit
        rw [hsplit] at hturn
        -- the copy is what the cells are all through the delivery
        have hcopy := (hturn x (List.mem_append_right _ List.mem_cons_self)).2
        rw [hcopy]
        obtain ⟨hknown, htracks⟩ := Cells.ahead_of_message hreported hahead
          (fun z hz => hturn z (List.mem_append_right _ (List.mem_cons_of_mem _ hz)))
          (.inr hahead') (l := l)
        obtain ⟨hmeet, htracks'⟩ := rest.replicates hf hreported' (by rw [hknown, hmemory])
          (List.forall_mem_append.mp hturns).2 hend
        rw [Cells.attendAll_append, Cells.tracks_append]
        exact ⟨hmeet, htracks, htracks'⟩

end Happens

namespace Session

variable {ι σ : Type} [DecidableEq ι] {listeners : Listeners ι σ} {s : Session ι σ} {l : ι}

section Calls

variable (listeners)

/-- What is told in a call. -/
def heardIn (s : Session ι σ) : Call ι → List (Sight ι)
  | .moveTo position => s.heard listeners position
  | .moveBy offset => s.heard listeners (s.timeline.cursor + offset)
  | .addListener _ | .removeListener _ => []

/-- What is told in one call after another. -/
def heardInRun (s : Session ι σ) : List (Call ι) → List (Sight ι)
  | [] => []
  | c :: calls => s.heardIn listeners c ++ heardInRun (s.call listeners c).2 calls

/-- A listener keeps its place in the registry through some turns of a call, to its end. -/
def KeepsPlace (s : Session ι σ) (l : ι) (c : Call ι) (turns : List (Sight ι)) : Prop :=
  ∃ j : Nat, (∀ x ∈ turns, x.timeline.registry[j]? = some l) ∧
    (s.call listeners c).2.timeline.registry[j]? = some l

/-- Every call returns, and a listener keeps its place in the registry through each. -/
def Stays (l : ι) (s : Session ι σ) : List (Call ι) → Prop
  | [] => True
  | c :: calls => (∃ answer, (s.call listeners c).1 = .ok answer) ∧
    s.KeepsPlace listeners l c (s.heardIn listeners c) ∧ Stays l (s.call listeners c).2 calls

end Calls

/-- The cells at the end of some turns of a call. -/
def cellsAfter (s : Session ι σ) (turns : List (Sight ι)) : Cells :=
  (turns.getLast?.map fun x => x.timeline.memory.cells).getD s.timeline.memory.cells

/-- A copy of the cells, made before a move or in it, is kept up to date by what is told from then
on. -/
theorem moveTo_replicates (hs : s.Ready) (hquiet : ∀ l m, (listeners l m).LeavesMemory)
    {position : Int} {before after : List (Sight ι)}
    (hseen : s.heard listeners position = before ++ after)
    (hok : ∃ p, (moveTo listeners s position).1 = .ok p) {j : Nat}
    (hturns : ∀ x ∈ after, x.timeline.registry[j]? = some l)
    (hend : (moveTo listeners s position).2.timeline.registry[j]? = some l) :
    Cells.attendAll l (s.cellsAfter before) after =
        (moveTo listeners s position).2.timeline.memory.cells ∧
      Cells.Tracks l (s.cellsAfter before) after := by
  -- what the listeners leave alone: everything but the registry, whose changes `hturns` covers
  let f : Timeline ι → Timeline ι × Memory := fun t => (t.outline, t.memory)
  have hf : ∀ t u : Timeline ι, f t = f u → t.outline = u.outline ∧ t.memory = u.memory :=
    fun t u h => Prod.mk.inj h
  have hinner := refuses_navigate listeners.observed refuse
  have hspared : ∀ l m (r : Session ι (Watched ι σ)), r.timeline.moving = true →
      f (react (navigate listeners.observed refuse) (listeners.observed l m) r).2.timeline =
        f r.timeline := by
    intro l m r hr
    have hleaves : (listeners.observed l m).LeavesMemory :=
      .look fun _ _ => .keep _ (hquiet l m).observed
    exact Prod.ext (react_outline hinner _ r hr) (react_memory hinner hleaves r hr)
  obtain ⟨p, hok⟩ := hok
  obtain ⟨rounds, u, hhappens, hheard, htimeline⟩ := moveTo_happens hs hspared hok
  obtain ⟨hpending, hreported⟩ := Event.reported_ofMove s.timeline.log s.timeline.cursor
    (s.timeline.clamp position)
  change Event.pending (s.timeline.events position) = [] at hpending
  -- before the first event the cells are not ahead of anything
  have hstart : s.timeline.memory.cells.insertAll (Event.pending (s.timeline.events position)) =
      (s.setMoving true).timeline.memory.cells := by
    rw [hpending]
    rfl
  rw [hheard] at hseen
  rw [htimeline] at hend ⊢
  -- `l` comes along with the whole move, or at a turn within it
  rcases List.eq_nil_or_concat' before with rfl | ⟨before, x, rfl⟩
  · rw [List.nil_append] at hseen
    subst hseen
    exact hhappens.replicates hf hreported hstart hturns hend
  · have hcopy : s.cellsAfter (before ++ [x]) = x.timeline.memory.cells := by
      simp [cellsAfter]
    rw [List.append_assoc, List.singleton_append] at hseen
    rw [hcopy]
    exact hhappens.replicates_from hf hreported hstart hseen hturns hend

theorem mem_removeListener {listener : ι} (hl : l ∈ s.timeline.registry)
    (hne : l ≠ listener) : l ∈ (s.removeListener listener).2.timeline.registry := by
  unfold removeListener Timeline.removeListener
  by_cases h : listener ∈ s.timeline.registry
  · rw [if_pos h]
    exact (List.mem_erase_of_ne hne).mpr hl
  · rw [if_neg h]
    exact hl

theorem call_replicates (hs : s.Ready) (hquiet : ∀ l m, (listeners l m).LeavesMemory)
    {c : Call ι} {before after : List (Sight ι)} (hseen : s.heardIn listeners c = before ++ after)
    (hok : ∃ answer, (s.call listeners c).1 = .ok answer)
    (hplace : s.KeepsPlace listeners l c after) :
    Cells.attendAll l (s.cellsAfter before) after = (s.call listeners c).2.timeline.memory.cells ∧
      Cells.Tracks l (s.cellsAfter before) after := by
  obtain ⟨j, hturns, hend⟩ := hplace
  have hmove : ∀ position, s.heard listeners position = before ++ after →
      (∃ answer, (moveTo listeners s position).1.map some = .ok answer) →
      (moveTo listeners s position).2.timeline.registry[j]? = some l →
      Cells.attendAll l (s.cellsAfter before) after =
          (moveTo listeners s position).2.timeline.memory.cells ∧
        Cells.Tracks l (s.cellsAfter before) after := by
    rintro position hseen ⟨answer, hanswer⟩ hend
    refine moveTo_replicates hs hquiet hseen ?_ hturns hend
    cases hmove : (moveTo listeners s position).1 with
    | ok p => exact ⟨p, rfl⟩
    | error e =>
      rw [hmove] at hanswer
      cases hanswer
  cases c with
  | moveTo position => exact hmove position hseen hok hend
  | moveBy offset => exact hmove _ hseen hok hend
  | addListener listener =>
    obtain ⟨rfl, rfl⟩ := List.append_eq_nil_iff.mp hseen.symm
    exact ⟨rfl, trivial⟩
  | removeListener listener =>
    obtain ⟨rfl, rfl⟩ := List.append_eq_nil_iff.mp hseen.symm
    exact ⟨congrArg Memory.cells (removeListener_frame s listener).2.symm, trivial⟩

theorem runs_replicate (hs : s.Ready) (hquiet : ∀ l m, (listeners l m).LeavesMemory)
    {calls : List (Call ι)} (hstays : s.Stays listeners l calls) :
    Cells.attendAll l s.timeline.memory.cells (s.heardInRun listeners calls) =
        (s.run listeners calls).timeline.memory.cells ∧
      Cells.Tracks l s.timeline.memory.cells (s.heardInRun listeners calls) := by
  induction calls generalizing s with
  | nil => exact ⟨rfl, trivial⟩
  | cons c calls ih =>
    obtain ⟨hok, hplace, hrest⟩ := hstays
    have hseen : s.heardIn listeners c = [] ++ s.heardIn listeners c := rfl
    obtain ⟨hmeet, htracks⟩ := call_replicates hs hquiet hseen hok hplace
    -- the next call begins with the cells that this one has left, and the copy is those cells
    obtain ⟨hmeet', htracks'⟩ := ih (ready_call hs c) hrest
    rw [heardInRun, Cells.attendAll_append, Cells.tracks_append]
    change Cells.attendAll l s.timeline.memory.cells _ = _ at hmeet
    rw [hmeet]
    exact ⟨hmeet', htracks, htracks'⟩

theorem Stays.take {calls : List (Call ι)} (h : s.Stays listeners l calls) (n : Nat) :
    s.Stays listeners l (calls.take n) := by
  induction calls generalizing s n with
  | nil =>
    rw [List.take_nil]
    trivial
  | cons c calls ih =>
    cases n with
    | zero => trivial
    | succ n => exact ⟨h.1, h.2.1, ih h.2.2 n⟩

/-- A registered listener stays through calls that return, unless somebody removes listeners in them or
it is removed itself in between. -/
theorem stays_of_removesNobody (hs : s.Ready) (hlisteners : ∀ l m, (listeners l m).RemovesNobody)
    (hl : l ∈ s.timeline.registry) {calls : List (Call ι)}
    (hcalls : ∀ c ∈ calls, c ≠ .removeListener l)
    (hok : ∀ answer ∈ s.answers listeners calls, ∃ p, answer = .ok p) :
    s.Stays listeners l calls := by
  induction calls generalizing s with
  | nil => trivial
  | cons c calls ih =>
    obtain ⟨hc, hcalls⟩ := List.forall_mem_cons.mp hcalls
    obtain ⟨hanswer, hok⟩ := List.forall_mem_cons.mp hok
    -- nobody is removed, so nobody's place moves; a removal by a call takes someone else out
    have hplace : s.KeepsPlace listeners l c (s.heardIn listeners c) := by
      obtain ⟨j, hj⟩ := List.mem_iff_getElem?.mp hl
      cases c with
      | moveTo position => exact ⟨j, heard_getElem? hs hlisteners hj position⟩
      | moveBy offset => exact ⟨j, heard_getElem? hs hlisteners hj _⟩
      | addListener listener =>
        refine ⟨j, by simp [heardIn], ?_⟩
        show (s.timeline.registry ++ [listener])[j]? = some l
        rw [List.getElem?_append_left (List.getElem?_eq_some_iff.mp hj).1, hj]
      | removeListener listener =>
        have hne : l ≠ listener := fun h => hc (h ▸ rfl)
        obtain ⟨i, hi⟩ := List.mem_iff_getElem?.mp (mem_removeListener hl hne)
        exact ⟨i, by simp [heardIn], hi⟩
    have hstill : l ∈ (s.call listeners c).2.timeline.registry := by
      obtain ⟨j, -, hj⟩ := hplace
      exact List.mem_of_getElem? hj
    exact ⟨hanswer, hplace, ih (ready_call hs c) hstill hcalls hok⟩

/-- **Replicas**, in a ready session, as all reachable ones are (`Reachable.ready`), whose listeners
do not write to the memory.  A copy of the cells is made before a call or in the turn of a listener,
and kept up to date by what `l` is told from then on.  If `l` keeps its place in the registry and
the calls return, the copy is what the cells are whenever `l` is told about the end of a move, and
after every call. -/
theorem run_replicates (hs : s.Ready) (hquiet : ∀ l m, (listeners l m).LeavesMemory) {c : Call ι}
    {before after : List (Sight ι)} (hseen : s.heardIn listeners c = before ++ after)
    (hok : ∃ answer, (s.call listeners c).1 = .ok answer)
    (hplace : s.KeepsPlace listeners l c after) {calls : List (Call ι)}
    (hstays : (s.call listeners c).2.Stays listeners l calls) :
    let next := (s.call listeners c).2
    Cells.Tracks l (s.cellsAfter before) (after ++ next.heardInRun listeners calls) ∧
      ∀ n, Cells.attendAll l (s.cellsAfter before)
          (after ++ next.heardInRun listeners (calls.take n)) =
        (next.run listeners (calls.take n)).timeline.memory.cells := by
  intro next
  obtain ⟨hmeet, htracks⟩ := call_replicates hs hquiet hseen hok hplace
  have hready : next.Ready := ready_call hs c
  refine ⟨?_, fun n => ?_⟩
  · rw [Cells.tracks_append, hmeet]
    exact ⟨htracks, (runs_replicate hready hquiet hstays).2⟩
  -- a run can be cut off after any number of calls, for staying holds of every prefix
  · rw [Cells.attendAll_append, hmeet]
    exact (runs_replicate hready hquiet (hstays.take n)).1

/-- A listener that is registered in the middle of a step, in the turn of another one, with a copy of
the cells.  The write that is told then, and the one after it, are in the copy already. -/
theorem run_replicates_midway :
    let listeners : Listeners Bool Bool := fun l _ =>
      if l then .done else .look fun known _ =>
        if known then .done else .keep true (.addListener true .done)
    let log : Log := [[⟨5, 0, 42⟩, ⟨6, 0, 1⟩], [⟨5, 42, 7⟩]]
    let s : Session Bool Bool :=
      run listeners ⟨Timeline.ofTrace { log := log } {}, false, []⟩ [.addListener false]
    let before := (s.heardIn listeners (.moveTo 2)).take 1
    let after := (s.heardIn listeners (.moveTo 2)).drop 1
    before.map (fun x => (x.listener, x.message)) = [(false, .cellChanged 5 42)] ∧
      (s.cellsAfter before).get? 6 = some 1 ∧
      Cells.Tracks true (s.cellsAfter before)
        (after ++ (s.call listeners (.moveTo 2)).2.heardInRun listeners [.moveBy (-1)]) ∧
      Cells.attendAll true (s.cellsAfter before) after =
        (s.call listeners (.moveTo 2)).2.timeline.memory.cells := by
  intro listeners log s before after
  have hs : s.Ready := ready_run ⟨rfl, Nat.zero_le _⟩ _
  have hquiet : ∀ l m, (listeners l m).LeavesMemory := by
    intro l m
    cases l with
    | true => exact .done
    | false =>
      refine .look fun known t => ?_
      cases known with
      | true => exact .done
      | false => exact .keep true (.addListener true .done)
  have hkeeps : ∀ l m, (listeners l m).RemovesNobody := by
    intro l m
    cases l with
    | true => exact .done
    | false =>
      refine .look fun known t => ?_
      cases known with
      | true => exact .done
      | false => exact .keep true (.addListener true .done)
  have hseen : s.heardIn listeners (.moveTo 2) = before ++ after := (List.take_append_drop 1 _).symm
  have hplace : s.KeepsPlace listeners true (.moveTo 2) after :=
    ⟨1, by decide +zetaReduce, by decide +zetaReduce⟩
  have hstays : (s.call listeners (.moveTo 2)).2.Stays listeners true [.moveBy (-1)] := by
    refine stays_of_removesNobody (ready_call hs _) hkeeps (by decide +zetaReduce) (by simp) ?_
    intro answer hanswer
    exact ⟨some 1, (List.mem_singleton.mp hanswer).trans (by decide +zetaReduce)⟩
  obtain ⟨htracks, hmeet⟩ := run_replicates hs hquiet hseen
    ⟨some 2, by decide +zetaReduce⟩ hplace hstays
  have hnow := hmeet 0
  rw [List.take_zero, heardInRun, List.append_nil, run_nil] at hnow
  -- reducible, or else the session would be run to compare it with itself
  refine ⟨by decide +zetaReduce, by decide +zetaReduce, ?_, ?_⟩
  · with_reducible exact htracks
  · with_reducible exact hnow

/-- A replica behind a listener that removes itself: the write that is told then is lost to it. -/
theorem replica_misses_write :
    let listeners : Listeners Bool Unit := fun l _ =>
      if l then .done else .removeListener false fun _ => .done
    let s : Session Bool Unit :=
      run listeners ⟨Timeline.ofTrace { log := [[⟨5, 0, 42⟩, ⟨6, 0, 1⟩]] } {}, (), []⟩
        [.addListener false, .addListener true]
    let replica := Cells.attendAll true s.timeline.memory.cells (s.heardIn listeners (.moveTo 1))
    (∀ l m, (listeners l m).Returns ∧ (listeners l m).LeavesMemory) ∧
      (s.call listeners (.moveTo 1)).1 = .ok (some 1) ∧
      (s.heard listeners 1).map (fun x => (x.listener, x.message)) =
        [(false, .cellChanged 5 42), (true, .cellChanged 6 1), (true, .cursorMoved 1)] ∧
      replica.get? 5 = none ∧
      (s.call listeners (.moveTo 1)).2.timeline.memory.cells.get? 5 = some 42 := by
  intro listeners s replica
  refine ⟨fun l m => ?_, by decide +zetaReduce, by decide +zetaReduce, by decide +zetaReduce,
    by decide +zetaReduce⟩
  cases l with
  | false => exact ⟨.removeListener false fun _ => .done, .removeListener false fun _ => .done⟩
  | true => exact ⟨.done, .done⟩

end Session

end Rewind
