import Mathlib.Tactic.Common
import Rewind.Notification
import Rewind.Timeline.Basic

/-!
# The agenda of a move

What a move is to do, written down beforehand.  `Event`s are the crossings of steps with the
messages about their writes, and the message about the end (`Timeline.events`).  In `Deed.agenda`
every message is told to one registration after another; `handed` and `told` read off who is told
what.
-/

namespace Rewind

/-- A step that a move goes over, one way or the other. -/
inductive Crossing where
  | forth (step : Nat)
  | back (step : Nat)
  deriving DecidableEq, Repr

namespace Crossing

/-- The cursor after a crossing. -/
def cursor : Crossing → Nat
  | forth i => i + 1
  | back i => i

/-- The writes of a crossing, in the order recorded. -/
def writes (log : Log) : Crossing → List (Int × Int)
  | forth i => Step.redos (log[i]?.getD [])
  | back i => Step.undos (log[i]?.getD [])

/-- The crossings of `n` steps from `q` on. -/
def ahead (q n : Nat) : List Crossing := (List.range' q n).map forth

/-- The crossings of `n` steps back to `q`. -/
def behind (q n : Nat) : List Crossing := (List.range' q n).reverse.map back

/-- The crossings from one position to another, in order. -/
def path (o t : Nat) : List Crossing := ahead o (t - o) ++ behind t (o - t)

theorem ahead_succ (q n : Nat) : ahead q (n + 1) = .forth q :: ahead (q + 1) n := by
  rw [ahead, List.range'_succ, List.map_cons, ahead]

theorem behind_succ (q n : Nat) : behind q (n + 1) = .back (q + n) :: behind q n := by
  rw [behind, List.range'_1_concat, List.reverse_append, List.map_append]
  rfl

theorem path_of_le {o t : Nat} (h : o ≤ t) : path o t = ahead o (t - o) := by
  rw [path, Nat.sub_eq_zero_of_le h]
  exact List.append_nil _

theorem path_of_ge {o t : Nat} (h : t ≤ o) : path o t = behind t (o - t) := by
  rw [path, Nat.sub_eq_zero_of_le h]
  rfl

end Crossing

/-- What happens in a move: a crossing, or a message about one or about the end. -/
inductive Event where
  | crossed (c : Crossing)
  | said (about : Option Crossing) (message : Notification)
  deriving DecidableEq, Repr

namespace Event

/-- A crossing, with the messages about its writes. -/
def ofCrossing (log : Log) (c : Crossing) : List Event :=
  .crossed c :: (c.writes log).map fun w => .said (some c) (.ofWrite w)

/-- Crossings, each with the messages about its writes. -/
def along (log : Log) (cs : List Crossing) : List Event := cs.flatMap (ofCrossing log)

/-- What happens in a move from one position to another. -/
def ofMove (log : Log) (o t : Nat) : List Event :=
  along log (Crossing.path o t) ++ [.said none (.cursorMoved t)]

@[simp] theorem along_cons (log : Log) (c : Crossing) (cs : List Crossing) :
    along log (c :: cs) = ofCrossing log c ++ along log cs := rfl

/-- The messages, in order. -/
def messages (events : List Event) : List Notification :=
  events.filterMap fun
    | crossed _ => none
    | said _ m => some m

/-- The cursor after some events. -/
def landing (q : Nat) (events : List Event) : Nat :=
  events.foldl (fun q e => match e with
    | crossed c => c.cursor
    | said .. => q) q

theorem landing_append (q : Nat) (events more : List Event) :
    landing q (events ++ more) = landing (landing q events) more := List.foldl_append

theorem landing_said (q : Nat) (about : Option Crossing) (writes : List (Int × Int)) :
    landing q (writes.map fun w => .said about (.ofWrite w)) = q := by
  induction writes with
  | nil => rfl
  | cons w writes ih => exact ih

@[simp] theorem landing_ofCrossing (q : Nat) (log : Log) (c : Crossing) :
    landing q (ofCrossing log c) = c.cursor :=
  landing_said c.cursor (some c) (c.writes log)

end Event

/-- What happens in a move of a timeline to a position. -/
def Timeline.events {ι : Type} (t : Timeline ι) (position : Int) : List Event :=
  Event.ofMove t.log t.cursor (t.clamp position)

/-- One thing to do in a move. -/
inductive Deed where
  | cross (c : Crossing)
  | tell (registration : Nat) (message : Notification)
  deriving DecidableEq, Repr

namespace Deed

/-- Tells the first `k` registrations, in order. -/
def tellFirst (k : Nat) (m : Notification) : List Deed := (List.range k).map (.tell · m)

/-- What is to do for an event with `k` registrations. -/
def ofEvent (k : Nat) : Event → List Deed
  | .crossed c => [.cross c]
  | .said _ m => tellFirst k m

/-- What is to do for some events with `k` registrations. -/
def agenda (k : Nat) (events : List Event) : List Deed := events.flatMap (ofEvent k)

/-- The messages that a registration is handed, in order. -/
def handed (i : Nat) (deeds : List Deed) : List Notification :=
  deeds.filterMap fun
    | cross _ => none
    | tell j m => if j = i then some m else none

/-- Who is told what, in order. -/
def told {ι : Type} (registry : List ι) (deeds : List Deed) : List (ι × Notification) :=
  deeds.filterMap fun
    | cross _ => none
    | tell j m => registry[j]?.map (·, m)

@[simp] theorem agenda_cons (k : Nat) (e : Event) (events : List Event) :
    agenda k (e :: events) = ofEvent k e ++ agenda k events := rfl

theorem agenda_append (k : Nat) (events more : List Event) :
    agenda k (events ++ more) = agenda k events ++ agenda k more := List.flatMap_append

theorem handed_append (i : Nat) (deeds more : List Deed) :
    handed i (deeds ++ more) = handed i deeds ++ handed i more := List.filterMap_append

theorem told_append {ι : Type} (registry : List ι) (deeds more : List Deed) :
    told registry (deeds ++ more) = told registry deeds ++ told registry more :=
  List.filterMap_append

theorem told_tell {ι : Type} (registry : List ι) (i : Nat) (m : Notification)
    (deeds : List Deed) :
    told registry (.tell i m :: deeds) =
      (registry[i]?.map (·, m)).toList ++ told registry deeds := by
  cases h : registry[i]? <;> simp [told, h]

theorem handed_tellFirst (i k : Nat) (m : Notification) :
    handed i (tellFirst k m) = if i < k then [m] else [] := by
  induction k with
  | zero => rfl
  | succ k ih =>
    unfold tellFirst at ih ⊢
    rw [List.range_succ, List.map_append, handed_append, ih]
    by_cases hlt : i < k
    · have hne : k ≠ i := by omega
      simp [handed, hlt, hne, Nat.lt_succ_of_lt hlt]
    · by_cases heq : k = i
      · simp [handed, heq]
      · have hnot : ¬ i < k + 1 := by omega
        simp [handed, hlt, heq, hnot]

theorem tellFirst_split {j k : Nat} (m : Notification) (h : j < k) :
    ∃ rest, tellFirst k m = tellFirst j m ++ .tell j m :: rest := by
  obtain ⟨n, rfl⟩ : ∃ n, k = j + 1 + n := ⟨k - (j + 1), by omega⟩
  refine ⟨((List.range n).map (j + 1 + ·)).map (.tell · m), ?_⟩
  unfold tellFirst
  rw [List.range_add, List.range_succ, List.map_append, List.map_append, List.append_assoc]
  rfl

/-- On the agenda every registration is handed every message. -/
theorem handed_agenda {i k : Nat} (h : i < k) (events : List Event) :
    handed i (agenda k events) = Event.messages events := by
  induction events with
  | nil => rfl
  | cons e events ih =>
    rw [agenda_cons, handed_append, ih]
    cases e with
    | crossed c => rfl
    | said about m =>
      show handed i (tellFirst k m) ++ _ = _
      rw [handed_tellFirst, if_pos h]
      rfl

/-- Up to a message that registration `j` is the last to hear, the registrations up to `j` are
handed one message more than the others. -/
theorem handed_upTo {i k : Nat} (h : i < k) (j : Nat) (before : List Event) (m : Notification)
    (rest : List Notification) :
    handed i (agenda k before ++ tellFirst (j + 1) m) =
      (Event.messages before ++ m :: rest).take
        (if i ≤ j then (Event.messages before).length + 1 else (Event.messages before).length) := by
  rw [handed_append, handed_agenda h, handed_tellFirst]
  by_cases hij : i ≤ j
  · rw [if_pos hij, if_pos (Nat.lt_succ_of_le hij), List.take_length_add_append]
    rfl
  · rw [if_neg hij, if_neg (by omega), List.take_left', List.append_nil]
    rfl

theorem told_tellFirst {ι : Type} (registry : List ι) (k : Nat) (m : Notification) :
    told registry (tellFirst k m) = (registry.take k).map (·, m) := by
  induction k with
  | zero => rfl
  | succ k ih =>
    unfold tellFirst at ih ⊢
    rw [List.range_succ, List.map_append, told_append, ih, List.take_add_one, List.map_append]
    congr 1
    cases h : registry[k]? <;> simp [told, h]

/-- On the agenda every message goes to all who are registered. -/
theorem told_agenda {ι : Type} (registry : List ι) (events : List Event) :
    told registry (agenda registry.length events) =
      (Event.messages events).flatMap fun m => registry.map (·, m) := by
  induction events with
  | nil => rfl
  | cons e events ih =>
    rw [agenda_cons, told_append, ih]
    cases e with
    | crossed c => rfl
    | said about m =>
      show told registry (tellFirst registry.length m) ++ _ = _
      rw [told_tellFirst, List.take_length]
      rfl

end Deed

end Rewind
