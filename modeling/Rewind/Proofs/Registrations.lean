import Rewind.Proofs.Stream

/-!
# Registrations

Who is registered after a history of additions, removals and moves.  `surviving` says it of the
history alone: of the additions of a listener those are left that are not among the first, as many
as it was removed.  An addition puts one more behind them (`surviving_concat`) and a removal takes
away the earliest of its listener (`exists_surviving_remove`), and that is what the registry holds
after any run (`booked_run`).  So everyone hears a move once for each addition that is left
(`registered_of_booked`), and the moves of a run go as they do where nobody is ever registered
(`Unheard.run`).
-/

namespace Rewind

/-! ## Additions that are left -/

section Surviving

variable {ι : Type} [DecidableEq ι]

/-- Additions of listeners behind `earlier` ones, each with the number of earlier additions of the
same listener. -/
def numbered (earlier : List ι) : List ι → List (ι × Nat)
  | [] => []
  | l :: ls => (l, earlier.count l) :: numbered (earlier ++ [l]) ls

/-- Whether a numbered addition is left when the listeners `gone` have been removed. -/
def isLeft (gone : List ι) (x : ι × Nat) : Bool := gone.count x.1 ≤ x.2

/-- The additions that are left of those `made` when the listeners `gone` have been removed: all but
the first of each listener, as many as it was removed. -/
def surviving (made gone : List ι) : List (ι × Nat) := (numbered [] made).filter (isLeft gone)

theorem isLeft_iff {gone : List ι} {x : ι × Nat} :
    isLeft gone x = true ↔ gone.count x.1 ≤ x.2 :=
  decide_eq_true_iff

theorem numbered_append (earlier ls more : List ι) :
    numbered earlier (ls ++ more) = numbered earlier ls ++ numbered (earlier ++ ls) more := by
  induction ls generalizing earlier with
  | nil => rw [List.append_nil]; rfl
  | cons l ls ih =>
    rw [List.cons_append, numbered, numbered, ih, List.append_assoc, List.singleton_append,
      List.cons_append]

theorem mem_numbered {earlier ls : List ι} {x : ι × Nat} (h : x ∈ numbered earlier ls) :
    earlier.count x.1 ≤ x.2 ∧ x.2 < (earlier ++ ls).count x.1 := by
  induction ls generalizing earlier with
  | nil => cases h
  | cons l ls ih =>
    rcases List.mem_cons.mp h with rfl | h
    · refine ⟨le_rfl, ?_⟩
      rw [List.count_append, List.count_cons_self]
      exact Nat.lt_add_of_pos_right (Nat.succ_pos _)
    · obtain ⟨hle, hlt⟩ := ih h
      rw [List.count_append] at hle
      rw [List.append_assoc, List.singleton_append] at hlt
      exact ⟨by omega, hlt⟩

theorem exists_append_cons_of_lt_count {as : List ι} {a : ι} {n : Nat} (h : n < as.count a) :
    ∃ before behind, as = before ++ a :: behind ∧ before.count a = n := by
  induction as generalizing n with
  | nil => cases h
  | cons b as ih =>
    by_cases hb : b = a
    · subst hb
      -- this is the occurrence sought, or one of those before it
      cases n with
      | zero => exact ⟨[], as, rfl, rfl⟩
      | succ n =>
        rw [List.count_cons_self] at h
        obtain ⟨before, behind, rfl, hn⟩ := ih (Nat.lt_of_succ_lt_succ h)
        exact ⟨b :: before, behind, rfl, by rw [List.count_cons_self, hn]⟩
    · rw [List.count_cons_of_ne hb] at h
      obtain ⟨before, behind, rfl, hn⟩ := ih h
      exact ⟨b :: before, behind, rfl, by rw [List.count_cons_of_ne hb, hn]⟩

variable {made gone : List ι} {l : ι}

/-- A new addition is left, behind the others. -/
theorem surviving_concat (h : gone.count l ≤ made.count l) :
    surviving (made ++ [l]) gone = surviving made gone ++ [(l, made.count l)] := by
  have hleft : isLeft gone (l, made.count l) = true := isLeft_iff.mpr h
  rw [surviving, numbered_append, List.filter_append, ← surviving, List.nil_append, numbered,
    numbered, List.filter_cons_of_pos hleft, List.filter_nil]

/-- One removal more takes away the earliest addition of the listener that is left. -/
theorem exists_surviving_remove (h : gone.count l < made.count l) :
    ∃ front back, surviving made gone = front ++ (l, gone.count l) :: back ∧
      (∀ x ∈ front, x.1 ≠ l) ∧ surviving made (gone ++ [l]) = front ++ back := by
  obtain ⟨before, behind, rfl, hcount⟩ := exists_append_cons_of_lt_count h
  have hnumbered : numbered [] (before ++ l :: behind) =
      numbered [] before ++ (l, gone.count l) :: numbered (before ++ [l]) behind := by
    rw [numbered_append, List.nil_append, numbered, hcount]
  have hgone : (gone ++ [l]).count l = gone.count l + 1 := by
    rw [List.count_append, List.count_singleton_self]
  -- the earlier additions of the listener are not left before, the later ones are left after
  have hfront : ∀ x ∈ numbered [] before, x.1 = l → x.2 < gone.count l := by
    intro x hx hl
    have hlt := (mem_numbered hx).2
    rwa [hl, List.nil_append, hcount] at hlt
  have hback : ∀ x ∈ numbered (before ++ [l]) behind, x.1 = l → gone.count l + 1 ≤ x.2 := by
    intro x hx hl
    have hle := (mem_numbered hx).1
    rwa [hl, List.count_append, List.count_singleton_self, hcount] at hle
  -- whatever is left besides the lost one is left before and after the removal alike
  have hsame : ∀ x ∈ numbered [] before ++ numbered (before ++ [l]) behind,
      isLeft (gone ++ [l]) x = isLeft gone x := by
    intro x hx
    rw [Bool.eq_iff_iff, isLeft_iff, isLeft_iff]
    by_cases hl : x.1 = l
    · rw [hl, hgone]
      rcases List.mem_append.mp hx with hx | hx
      · have := hfront x hx hl
        omega
      · have := hback x hx hl
        omega
    · rw [List.count_append, List.count_singleton, if_neg (by simpa using Ne.symm hl), Nat.add_zero]
  have hleft : isLeft gone (l, gone.count l) = true := isLeft_iff.mpr le_rfl
  have hlost : ¬ isLeft (gone ++ [l]) (l, gone.count l) = true := by
    rw [isLeft_iff, hgone]
    exact Nat.not_succ_le_self _
  refine ⟨(numbered [] before).filter (isLeft gone),
    (numbered (before ++ [l]) behind).filter (isLeft gone), ?_, ?_, ?_⟩
  · rw [surviving, hnumbered, List.filter_append, List.filter_cons_of_pos hleft]
  · intro x hx hl
    have hlt := hfront x (List.mem_of_mem_filter hx) hl
    have hle := isLeft_iff.mp (List.of_mem_filter hx)
    rw [hl] at hle
    omega
  · rw [surviving, hnumbered, List.filter_append, List.filter_cons_of_neg hlost,
      ← List.filter_append, List.filter_congr hsame, List.filter_append]

variable (registry made gone) in
/-- The registry holds the additions that are left, and no listener was removed more often than it
was added. -/
structure Booked (registry made gone : List ι) : Prop where
  ordered : registry = (surviving made gone).map Prod.fst
  counted : ∀ l, registry.count l + gone.count l = made.count l

namespace Booked

variable {registry : List ι}

theorem mem_iff (h : Booked registry made gone) : l ∈ registry ↔ gone.count l < made.count l := by
  have := h.counted l
  rw [← List.count_pos_iff]
  omega

theorem add (h : Booked registry made gone) (l : ι) :
    Booked (registry ++ [l]) (made ++ [l]) gone where
  ordered := by
    have := h.counted l
    rw [surviving_concat (by omega), List.map_append, ← h.ordered]
    rfl
  counted l' := by
    have := h.counted l'
    rw [List.count_append, List.count_append]
    omega

theorem remove (h : Booked registry made gone) (hl : l ∈ registry) :
    Booked (registry.erase l) made (gone ++ [l]) where
  ordered := by
    obtain ⟨front, back, hbefore, hfront, hafter⟩ := exists_surviving_remove (h.mem_iff.mp hl)
    -- `erase` takes the first occurrence, and that is the earliest addition still left
    have hnot : l ∉ front.map Prod.fst := by
      rintro hmem
      obtain ⟨x, hx, hxl⟩ := List.mem_map.mp hmem
      exact hfront x hx hxl
    rw [h.ordered, hbefore, hafter, List.map_append, List.map_cons,
      List.erase_append_right _ hnot, List.erase_cons_head, List.map_append]
  counted l' := by
    have hcount := h.counted l'
    rw [List.count_append]
    by_cases hl' : l' = l
    -- one addition less is in the registry, and one removal more is counted
    · subst hl'
      have hpos := List.count_pos_iff.mpr hl
      rw [List.count_erase_self, List.count_singleton_self]
      omega
    · rw [List.count_erase_of_ne hl', List.count_singleton, if_neg (by simpa using Ne.symm hl')]
      exact hcount

end Booked

end Surviving

/-! ## Additions and removals of a run -/

namespace Call

variable {ι : Type}

/-- The listener that a call adds. -/
def added? : Call ι → Option ι
  | addListener l => some l
  | moveTo _ | moveBy _ | removeListener _ => none

/-- The listener that a call removes, given what it answers. -/
def removed? : Call ι × Except Fault (Option Nat) → Option ι
  | (removeListener l, .ok _) => some l
  | _ => none

/-- Whether a call is a move. -/
def isMove : Call ι → Bool
  | moveTo _ | moveBy _ => true
  | addListener _ | removeListener _ => false

end Call

namespace Session

variable {ι σ : Type} [DecidableEq ι]

/-- The listeners that are added by some calls. -/
def added (calls : List (Call ι)) : List ι := calls.filterMap Call.added?

section Definitions

variable (listeners : Listeners ι σ) (s : Session ι σ)

/-- The listeners that are removed in a run, by calls that answer without an error. -/
def removed (calls : List (Call ι)) : List ι :=
  (calls.zip (s.answers listeners calls)).filterMap Call.removed?

/-- The additions that are left behind a run. -/
def registrations (calls : List (Call ι)) : List (ι × Nat) :=
  surviving (added calls) (s.removed listeners calls)

/-- Nobody gives up in a call. -/
def UnfailingIn (s : Session ι σ) : Call ι → Prop
  | .moveTo position => s.Unfailing listeners position
  | .moveBy offset => s.Unfailing listeners (s.timeline.cursor + offset)
  | .addListener _ | .removeListener _ => True

/-- Nobody gives up in any call of a run. -/
def UnfailingRun (s : Session ι σ) : List (Call ι) → Prop
  | [] => True
  | c :: calls => s.UnfailingIn listeners c ∧ (s.call listeners c).2.UnfailingRun calls

/-- What the additions and removals of a run amount to, in its registry and in the next call. -/
structure Registered (s₀ : Session ι σ) (calls : List (Call ι)) : Prop where
  /-- Who is registered, in the order of the additions that are left. -/
  registry : (s₀.run listeners calls).timeline.registry =
    (s₀.registrations listeners calls).map Prod.fst
  counted : ∀ l, (s₀.run listeners calls).timeline.registry.count l +
    (s₀.removed listeners calls).count l = (added calls).count l
  /-- One more addition is left, behind the others. -/
  add : ∀ l, ((s₀.run listeners calls).call listeners (.addListener l)).1 = .ok none ∧
    s₀.registrations listeners (calls ++ [.addListener l]) =
      s₀.registrations listeners calls ++ [(l, (added calls).count l)]
  /-- A listener that was removed as often as it was added cannot be removed, and trying to changes
  nothing. -/
  refuse : ∀ l, (added calls).count l ≤ (s₀.removed listeners calls).count l →
    (s₀.run listeners calls).call listeners (.removeListener l) =
      (.error .notRegistered, s₀.run listeners calls)
  /-- Any other can, and its earliest addition that is left is left no longer. -/
  remove : ∀ l, (s₀.removed listeners calls).count l < (added calls).count l →
    (s₀.run listeners calls).call listeners (.removeListener l) =
      (.ok none, (s₀.run listeners calls).update fun t =>
        { t with registry := t.registry.erase l }) ∧
    ∃ front back,
      s₀.registrations listeners calls =
        front ++ (l, (s₀.removed listeners calls).count l) :: back ∧
      (∀ x ∈ front, x.1 ≠ l) ∧
      s₀.registrations listeners (calls ++ [.removeListener l]) = front ++ back
  /-- Each message of a move goes to all additions that are left, in their order, so each listener
  receives it as often as it was added and not removed. -/
  hear : ∀ position, (s₀.run listeners calls).Unfailing listeners position →
    let t := (s₀.run listeners calls).timeline
    let heard := (s₀.run listeners calls).heard listeners position
    let messages := Notification.ofMove (t.log.sweepWrites t.cursor (t.clamp position))
      (t.clamp position)
    heard.map (fun x => (x.listener, x.message)) =
        messages.flatMap (fun m => (s₀.registrations listeners calls).map fun x => (x.1, m)) ∧
      ∀ l, (heard.filter fun x => x.listener = l).map Sight.message = messages.flatMap fun m =>
        List.replicate ((added calls).count l - (s₀.removed listeners calls).count l) m
  byOffset : ∀ offset, moveBy listeners (s₀.run listeners calls) offset =
    moveTo listeners (s₀.run listeners calls) ((s₀.run listeners calls).timeline.cursor + offset)

/-- The second session is the first one as it would be if nobody had ever been registered. -/
structure Unheard (s s' : Session ι σ) : Prop where
  outline : s'.timeline.outline = s.timeline.outline
  registry : s'.timeline.registry = []
  memory : (∀ l m, (listeners l m).LeavesMemory) → s'.timeline.memory = s.timeline.memory

end Definitions

variable {listeners : Listeners ι σ} {s s' : Session ι σ}

/-! ## One call -/

variable (listeners) in
theorem call_removeListener_of_mem {l : ι} (h : l ∈ s.timeline.registry) :
    s.call listeners (.removeListener l) =
      (.ok none, s.update fun t => { t with registry := t.registry.erase l }) := by
  have hremove : s.timeline.removeListener l =
      .ok { s.timeline with registry := s.timeline.registry.erase l } := if_pos h
  simp only [call, removeListener, hremove]
  rfl

variable (listeners) in
theorem call_removeListener_of_notMem {l : ι} (h : l ∉ s.timeline.registry) :
    s.call listeners (.removeListener l) = (.error .notRegistered, s) := by
  have hremove : s.timeline.removeListener l = .error .notRegistered := if_neg h
  simp only [call, removeListener, hremove]
  rfl

theorem removed_cons (s : Session ι σ) (c : Call ι) (calls : List (Call ι)) :
    s.removed listeners (c :: calls) =
      s.removed listeners [c] ++ (s.call listeners c).2.removed listeners calls := by
  simp only [removed, answers, List.zip_cons_cons, List.zip_nil_right]
  exact List.filterMap_append (l := [(c, (s.call listeners c).1)])

theorem removed_append (s : Session ι σ) (calls more : List (Call ι)) :
    s.removed listeners (calls ++ more) =
      s.removed listeners calls ++ (s.run listeners calls).removed listeners more := by
  induction calls generalizing s with
  | nil => rfl
  | cons c calls ih => rw [List.cons_append, removed_cons, ih, removed_cons s c calls, run_cons,
      List.append_assoc]

theorem removed_removeListener_of_mem {l : ι} (h : l ∈ s.timeline.registry) :
    s.removed listeners [.removeListener l] = [l] := by
  unfold removed answers
  rw [call_removeListener_of_mem listeners h]
  rfl

theorem removed_removeListener_of_notMem {l : ι} (h : l ∉ s.timeline.registry) :
    s.removed listeners [.removeListener l] = [] := by
  unfold removed answers
  rw [call_removeListener_of_notMem listeners h]
  rfl

/-- Of messages that go to all registrations, a listener receives each as often as it is registered.
-/
theorem filter_flatMap_registry (registry : List ι) (messages : List Notification) (l : ι) :
    ((messages.flatMap fun m => registry.map (·, m)).filter fun x => x.1 = l).map Prod.snd =
      messages.flatMap fun m => List.replicate (registry.count l) m := by
  rw [List.filter_flatMap, List.map_flatMap]
  congr 1
  funext m
  induction registry with
  | nil => rfl
  | cons l' registry ih =>
    rw [List.map_cons, List.filter_cons, List.count_cons]
    by_cases hl : l' = l
    · simp [hl, ih, List.replicate_succ]
    · simp [hl, ih]

/-! ## Sessions without listeners -/

omit [DecidableEq ι] in
theorem Unheard.log (h : Unheard listeners s s') : s'.timeline.log = s.timeline.log :=
  have hlog := congrArg Timeline.log h.outline
  hlog

omit [DecidableEq ι] in
theorem Unheard.cursor (h : Unheard listeners s s') : s'.timeline.cursor = s.timeline.cursor :=
  have hcursor := congrArg Timeline.cursor h.outline
  hcursor

/-- Additions and removals change nothing but the registry. -/
theorem Unheard.register (h : Unheard listeners s s') {c : Call ι} (hc : c.isMove = false) :
    Unheard listeners (s.call listeners c).2 s' := by
  cases c with
  | moveTo position => cases hc
  | moveBy offset => cases hc
  | addListener l => exact ⟨h.outline, h.registry, h.memory⟩
  | removeListener l =>
    obtain ⟨houtline, hmemory⟩ := removeListener_frame s l
    refine ⟨h.outline.trans houtline.symm, h.registry, fun hquiet => ?_⟩
    exact (h.memory hquiet).trans hmemory.symm

/-! ## All runs -/

section Runs

variable (hlisteners : ∀ l m, (listeners l m).LeavesRegistry)
include hlisteners

/-- What a call does to the registry. -/
theorem booked_call (hs : s.Ready) {made gone : List ι} (h : Booked s.timeline.registry made gone)
    (c : Call ι) :
    Booked (s.call listeners c).2.timeline.registry (made ++ added [c])
      (gone ++ s.removed listeners [c]) := by
  have hmove : ∀ position, (moveTo listeners s position).2.timeline.registry =
      s.timeline.registry :=
    moveTo_registry hs.cursor_le (fun l _ => hlisteners l) hs.idle
  cases c with
  | moveTo position =>
    show Booked (moveTo listeners s position).2.timeline.registry (made ++ []) (gone ++ [])
    rwa [hmove, List.append_nil, List.append_nil]
  | moveBy offset =>
    show Booked (moveTo listeners s _).2.timeline.registry (made ++ []) (gone ++ [])
    rwa [hmove, List.append_nil, List.append_nil]
  | addListener l =>
    show Booked (s.timeline.registry ++ [l]) (made ++ [l]) (gone ++ [])
    rw [List.append_nil]
    exact h.add l
  | removeListener l =>
    show Booked _ (made ++ []) _
    rw [List.append_nil]
    -- a removal that finds nobody is not counted, since it fails and changes nothing
    by_cases hl : l ∈ s.timeline.registry
    · rw [call_removeListener_of_mem listeners hl, removed_removeListener_of_mem hl]
      exact h.remove hl
    · rw [call_removeListener_of_notMem listeners hl, removed_removeListener_of_notMem hl,
        List.append_nil]
      exact h

/-- What a run does to the registry. -/
theorem booked_run (hs : s.Ready) {made gone : List ι} (h : Booked s.timeline.registry made gone)
    (calls : List (Call ι)) :
    Booked (s.run listeners calls).timeline.registry (made ++ added calls)
      (gone ++ s.removed listeners calls) := by
  induction calls generalizing s made gone with
  | nil =>
    show Booked _ (made ++ []) (gone ++ [])
    rwa [List.append_nil, List.append_nil]
  | cons c calls ih =>
    have hcalls := ih (ready_call hs c) (booked_call hlisteners hs h c)
    have hadded : added (c :: calls) = added [c] ++ added calls :=
      List.filterMap_append (l := [c])
    rwa [List.append_assoc, List.append_assoc, ← hadded, ← removed_cons] at hcalls

theorem registered_of_booked {s₀ : Session ι σ} {calls : List (Call ι)}
    (hs : (s₀.run listeners calls).Ready)
    (h : Booked (s₀.run listeners calls).timeline.registry (added calls)
      (s₀.removed listeners calls)) : s₀.Registered listeners calls := by
  have hadded : ∀ c, added (calls ++ [c]) = added calls ++ added [c] :=
    fun c => List.filterMap_append
  constructor
  case registry => exact h.ordered
  case counted => exact h.counted
  case add =>
    refine fun l => ⟨rfl, ?_⟩
    -- not more have been removed than were added, so the new addition is left
    have hle : (s₀.removed listeners calls).count l ≤ (added calls).count l := by
      have := h.counted l
      omega
    rw [registrations, hadded, removed_append]
    show surviving (added calls ++ [l]) (_ ++ []) = _
    rw [List.append_nil, surviving_concat hle]
    rfl
  case refuse =>
    intro l hle
    exact call_removeListener_of_notMem listeners fun hl => absurd (h.mem_iff.mp hl) (by omega)
  case remove =>
    intro l hlt
    have hl := h.mem_iff.mpr hlt
    obtain ⟨front, back, hbefore, hfront, hafter⟩ := exists_surviving_remove hlt
    refine ⟨call_removeListener_of_mem listeners hl, front, back, hbefore, hfront, ?_⟩
    rw [registrations, hadded, removed_append, removed_removeListener_of_mem hl]
    show surviving (added calls ++ []) _ = _
    rw [List.append_nil, hafter]
  case hear =>
    intro position hunfailing t heard messages
    have hmessages := hunfailing.heard_messages hs fun l _ => hlisteners l
    refine ⟨?_, fun l => ?_⟩
    · rw [hmessages, h.ordered]
      simp only [List.map_map]
      rfl
    -- the messages of one listener are those of its places, and it has as many as are counted
    · have hfilter : (heard.filter fun x => x.listener = l).map Sight.message =
          ((heard.map fun x => (x.listener, x.message)).filter fun x => x.1 = l).map Prod.snd := by
        rw [List.filter_map, List.map_map]
        rfl
      have hcount : t.registry.count l =
          (added calls).count l - (s₀.removed listeners calls).count l :=
        Nat.eq_sub_of_add_eq (h.counted l)
      rw [hfilter, hmessages, filter_flatMap_registry, hcount]
  case byOffset => exact fun _ => rfl

/-- Nobody gives up in any run if no listener ever does. -/
theorem unfailingRun_of_returns (hs : s.Ready) (hreturns : ∀ l m, (listeners l m).Returns)
    (calls : List (Call ι)) : s.UnfailingRun listeners calls := by
  induction calls generalizing s with
  | nil => trivial
  | cons c calls ih =>
    have hmove := unfailing_of_returns hs (fun l _ => hlisteners l)
    refine ⟨?_, ih (ready_call hs c)⟩
    cases c with
    | moveTo position => exact hmove position fun l _ => hreturns l
    | moveBy offset => exact hmove _ fun l _ => hreturns l
    | addListener l => trivial
    | removeListener l => trivial

/-- A move in which nobody gives up goes as it does without listeners. -/
theorem Unheard.moveTo (h : Unheard listeners s s') (hs : s.Ready)
    (hs' : s'.Ready) {position : Int} (hunfailing : s.Unfailing listeners position) :
    (moveTo listeners s' position).1 = (moveTo listeners s position).1 ∧
      Unheard listeners (moveTo listeners s position).2 (moveTo listeners s' position).2 := by
  have hregistry : ∀ l ∈ s.timeline.registry, ∀ m, (listeners l m).LeavesRegistry :=
    fun l _ => hlisteners l
  obtain ⟨hanswer', htimeline'⟩ :=
    moveTo_silent listeners hs'.idle hs'.cursor_le h.registry position
  obtain ⟨hcursor, hmemory⟩ := hunfailing.landed hs hregistry
  -- neither session has another log or cursor, so they ask for the same position
  have hclamp : s'.timeline.clamp position = s.timeline.clamp position := by
    unfold Timeline.clamp Timeline.count
    rw [h.log]
  rw [hclamp] at hanswer' htimeline'
  refine ⟨hanswer'.trans (hunfailing.answer hs hregistry).symm, ?_, ?_, fun hquiet => ?_⟩
  · have houtline : (Session.moveTo listeners s position).2.timeline.outline =
        { s.timeline.outline with
          cursor := (Session.moveTo listeners s position).2.timeline.cursor } :=
      outline_call hs (.moveTo position)
    rw [houtline, htimeline', hcursor, ← h.outline]
    rfl
  · rw [htimeline']
    exact h.registry
  -- listeners that poke may leave other values, so memory agrees only if nobody does
  · rw [htimeline', hmemory fun l _ => hquiet l, Timeline.sweepTo, Timeline.sweepTo, h.log,
      h.cursor, h.memory hquiet]

theorem Unheard.move (h : Unheard listeners s s') (hs : s.Ready)
    (hs' : s'.Ready) {c : Call ι} (hc : c.isMove = true) (hunfailing : s.UnfailingIn listeners c) :
    (s'.call listeners c).1 = (s.call listeners c).1 ∧
      Unheard listeners (s.call listeners c).2 (s'.call listeners c).2 := by
  cases c with
  | moveTo position =>
    obtain ⟨hanswer, hnext⟩ := h.moveTo hlisteners hs hs' hunfailing
    exact ⟨congrArg (Except.map some) hanswer, hnext⟩
  | moveBy offset =>
    obtain ⟨hanswer, hnext⟩ := h.moveTo hlisteners hs hs' hunfailing
    unfold call moveBy
    rw [h.cursor]
    exact ⟨congrArg (Except.map some) hanswer, hnext⟩
  | addListener l => cases hc
  | removeListener l => cases hc

/-- The moves of a run in which nobody gives up are answered as in the run of the moves alone, in
which nobody is registered. -/
theorem Unheard.run (h : Unheard listeners s s') (hs : s.Ready) (hs' : s'.Ready)
    {calls : List (Call ι)} (hunfailing : s.UnfailingRun listeners calls) :
    ((calls.zip (s.answers listeners calls)).filter fun x => x.1.isMove) =
        (calls.filter Call.isMove).zip (s'.answers listeners (calls.filter Call.isMove)) ∧
      Unheard listeners (s.run listeners calls)
        (s'.run listeners (calls.filter Call.isMove)) := by
  induction calls generalizing s s' with
  | nil => exact ⟨rfl, h⟩
  | cons c calls ih =>
    obtain ⟨hunfailing, hrest⟩ := hunfailing
    rw [answers, List.zip_cons_cons, run_cons]
    -- a move is made by both sessions, a registration by the first one only
    cases hc : c.isMove with
    | true =>
      obtain ⟨hanswer, hnext⟩ := h.move hlisteners hs hs' hc hunfailing
      obtain ⟨hanswers, hrun⟩ := ih hnext (ready_call hs c) (ready_call hs' c) hrest
      simp only [List.filter_cons, hc, if_true]
      rw [hanswers, answers, List.zip_cons_cons, hanswer, run_cons]
      exact ⟨rfl, hrun⟩
    | false =>
      simp only [List.filter_cons, hc, Bool.false_eq_true, if_false]
      exact ih (h.register hc) (ready_call hs c) hs' hrest

/-- **Registrations and moves**, in any run of additions, removals and moves, if listeners leave the
registry as it is: the registry holds the additions that are left, and a removal fails where none of
its listener is.  If nobody gives up, the moves of the run are answered and end as they do alone,
with nobody registered. -/
theorem run_registered {trace : Trace} {options : Options} {kept : σ} {s₀ : Session ι σ}
    (hstart : start (Timeline.build trace options) kept = .ok s₀) (calls : List (Call ι)) :
    s₀.Registered listeners calls ∧
      (s₀.UnfailingRun listeners calls →
        let moves := calls.filter Call.isMove
        ((calls.zip (s₀.answers listeners calls)).filter fun x => x.1.isMove) =
            moves.zip (s₀.answers listeners moves) ∧
          (s₀.run listeners calls).timeline.cursor = (s₀.run listeners moves).timeline.cursor ∧
          ((∀ l m, (listeners l m).LeavesMemory) →
            (s₀.run listeners calls).timeline.memory =
              (s₀.run listeners moves).timeline.memory)) := by
  have hready := ready_of_start hstart
  have hnobody : s₀.timeline.registry = [] := by
    rw [timeline_of_start hstart]
    rfl
  have hbooked : Booked s₀.timeline.registry [] [] := by
    rw [hnobody]
    exact ⟨rfl, fun _ => rfl⟩
  refine ⟨registered_of_booked hlisteners (ready_run hready calls)
    (booked_run hlisteners hready hbooked calls), fun hunfailing => ?_⟩
  -- the session with nobody registered goes along with itself
  have hself : Unheard listeners s₀ s₀ := ⟨rfl, hnobody, fun _ => rfl⟩
  obtain ⟨hanswers, hrun⟩ := hself.run hlisteners hready hready hunfailing
  exact ⟨hanswers, hrun.cursor.symm, fun hquiet => (hrun.memory hquiet).symm⟩

end Runs

/-- A listener that is added in front of another one and behind it, and then removed: it hears a move
once, behind the other one, and can be removed once more and no longer. -/
theorem run_registered_twice :
    let listeners : Listeners Bool Unit := fun _ _ => .done
    let trace : Trace := { log := [[⟨5, 0, 42⟩]] }
    let options : Options := { checkLog := false }
    let calls : List (Call Bool) := [.addListener false, .addListener true, .addListener false,
      .moveTo 1, .removeListener false]
    ∃ s₀ : Session Bool Unit, start (Timeline.build trace options) () = .ok s₀ ∧
      (s₀.run listeners calls).timeline.registry = [true, false] ∧
      ((s₀.run listeners calls).heard listeners 0).map (fun x => (x.listener, x.message)) =
        [(true, .cellChanged 5 0), (false, .cellChanged 5 0),
          (true, .cursorMoved 0), (false, .cursorMoved 0)] ∧
      ((s₀.run listeners (calls ++ [.removeListener false])).call listeners
        (.removeListener false)).1 = .error .notRegistered ∧
      (s₀.run listeners calls).timeline.cursor = 1 := by
  intro listeners trace options calls
  have hoff : trace.Accepted options ∨ options.checkLog = false := .inr rfl
  obtain ⟨s₀, hstart⟩ := exists_start (ι := Bool) hoff ()
  have hlisteners : ∀ l m, (listeners l m).LeavesRegistry := fun _ _ => .done
  have hreturns : ∀ l m, (listeners l m).Returns := fun _ _ => .done
  have hready := ready_of_start hstart
  obtain ⟨hregistered, hmoves⟩ := run_registered hlisteners hstart calls
  obtain ⟨hregistered', -⟩ := run_registered hlisteners hstart (calls ++ [.removeListener false])
  have hunfailing := unfailingRun_of_returns hlisteners hready hreturns calls
  have hnext : (s₀.run listeners calls).Unfailing listeners 0 :=
    unfailing_of_returns (ready_run hready calls) (fun l _ => hlisteners l) 0 fun l _ => hreturns l
  refine ⟨s₀, hstart, hregistered.registry.trans ?_,
    (hregistered.hear 0 hnext).1.trans ?_, ?_, (hmoves hunfailing).2.1.trans ?_⟩
  all_goals cases hstart
  · decide +zetaReduce
  · decide +zetaReduce
  · rw [hregistered'.refuse false (by decide +zetaReduce)]
  · decide +zetaReduce

end Session

end Rewind
