import Mathlib.Data.Nat.Basic
import Mathlib.Order.Basic
import Mathlib.Tactic.Common
import Rewind.Proofs.Writes
import Rewind.Timeline.Basic

/-!
# Sweeps over a log

`log.between i j` are the steps with numbers from `i` on and below `j`.  `Cells.rewind` takes a log
back, its last step first, and `Cells.sweep log o q` is what a cursor does to cells on its way from
`o` to `q`: it replays the steps in between, or takes them back.  `Timeline.sweepTo` is the timeline
on whose way nobody interferes; `advance` and `retreat` are its two smallest cases.
-/

namespace Rewind

namespace Step

/-- The addresses that a step writes. -/
def addresses (step : Step) : List Int := step.map Update.address

@[simp] theorem map_fst_redos (step : Step) : step.redos.map Prod.fst = step.addresses := by
  simp [redos, addresses, Update.redo, Function.comp_def]

@[simp] theorem map_fst_undos (step : Step) : step.undos.map Prod.fst = step.addresses := by
  simp [undos, addresses, Update.undo, Function.comp_def]

end Step

namespace Log

/-- The addresses that a log writes. -/
def addresses (log : Log) : List Int := log.flatMap Step.addresses

theorem mem_addresses {log : Log} {a : Int} :
    a ∈ log.addresses ↔ ∃ step ∈ log, a ∈ Step.addresses step := by
  simp [addresses]

theorem mem_addresses_append {log more : Log} {a : Int} :
    a ∈ Log.addresses (log ++ more) ↔ a ∈ log.addresses ∨ a ∈ more.addresses := by
  simp [addresses]

theorem mem_addresses_cons {step : Step} {log : Log} {a : Int} :
    a ∈ Log.addresses (step :: log) ↔ a ∈ Step.addresses step ∨ a ∈ log.addresses := by
  simp [addresses]

/-- The steps with numbers from `i` on and below `j`. -/
def between (log : Log) (i j : Nat) : Log := (log.take j).drop i

theorem between_zero (log : Log) (j : Nat) : log.between 0 j = log.take j := rfl

theorem between_of_le {i j : Nat} (log : Log) (h : j ≤ i) : log.between i j = [] :=
  List.drop_eq_nil_of_le (le_trans (List.length_take_le j log) h)

theorem between_succ {log : Log} {i j : Nat} {step : Step} (h : i ≤ j)
    (hstep : log[j]? = some step) : log.between i (j + 1) = log.between i j ++ [step] := by
  have hlen : (log.take j).length = j := by
    rw [List.length_take]
    have := (List.getElem?_eq_some_iff.mp hstep).1
    omega
  unfold between
  rw [List.take_add_one, hstep, Option.toList_some, List.drop_append_of_le_length (by omega)]

theorem between_cons {log : Log} {i j : Nat} {step : Step} (h : i < j)
    (hstep : log[i]? = some step) : log.between i j = step :: log.between (i + 1) j := by
  have hi : (log.take j)[i]? = some step := by rw [List.getElem?_take_of_lt h, hstep]
  obtain ⟨hlt, hget⟩ := List.getElem?_eq_some_iff.mp hi
  unfold between
  rw [List.drop_eq_getElem_cons hlt, hget]

theorem between_append {i j k : Nat} (log : Log) (hij : i ≤ j) (hjk : j ≤ k) :
    log.between i j ++ log.between j k = log.between i k := by
  by_cases hlen : j ≤ log.length
  · have htake : (log.take k).take j = log.take j := by rw [List.take_take, Nat.min_eq_left hjk]
    have hdrop : ((log.take k).drop i).drop (j - i) = (log.take k).drop j := by
      rw [List.drop_drop, Nat.add_sub_cancel' hij]
    unfold between
    rw [← htake, ← hdrop, List.drop_take, List.take_append_drop]
  · have hk : log.take k = log.take j := by
      rw [List.take_of_length_le (by omega), List.take_of_length_le (by omega)]
    unfold between
    have hnil : (log.take j).drop j = [] := List.drop_eq_nil_of_le (List.length_take_le j log)
    rw [hk, hnil, List.append_nil]

theorem take_append_between {j k : Nat} (log : Log) (h : j ≤ k) :
    log.take j ++ log.between j k = log.take k := by
  rw [← between_zero, between_append log (Nat.zero_le j) h, between_zero]

theorem mem_addresses_take {log : Log} {j k : Nat} (h : j ≤ k) {a : Int} :
    a ∈ Log.addresses (log.take k) ↔
      a ∈ Log.addresses (log.take j) ∨ a ∈ (log.between j k).addresses := by
  rw [← take_append_between log h, mem_addresses_append]

theorem mem_addresses_take_mono {log : Log} {j k : Nat} (h : j ≤ k) {a : Int}
    (ha : a ∈ Log.addresses (log.take j)) : a ∈ Log.addresses (log.take k) :=
  (mem_addresses_take h).mpr (.inl ha)

end Log

namespace Cells

/-- The cells after one step is taken back. -/
def undoStep (cells : Cells) (step : Step) : Cells := cells.insertAll step.undos

/-- The cells after all steps of a log are taken back, the last one first. -/
def rewind (cells : Cells) (log : Log) : Cells := log.foldr (fun step c => c.undoStep step) cells

/-- The cells when the cursor goes from `o` to `q`: the steps in between are replayed, or taken
back. -/
def sweep (cells : Cells) (log : Log) (o q : Nat) : Cells :=
  (cells.replay (log.between o q)).rewind (log.between q o)

@[simp] theorem rewind_nil (cells : Cells) : cells.rewind [] = cells := rfl

@[simp] theorem rewind_cons (cells : Cells) (step : Step) (log : Log) :
    cells.rewind (step :: log) = (cells.rewind log).undoStep step := rfl

theorem sweep_of_le {o q : Nat} (cells : Cells) (log : Log) (h : o ≤ q) :
    cells.sweep log o q = cells.replay (log.between o q) := by
  rw [sweep, Log.between_of_le log h, rewind_nil]

theorem sweep_of_ge {o q : Nat} (cells : Cells) (log : Log) (h : q ≤ o) :
    cells.sweep log o q = cells.rewind (log.between q o) := by
  rw [sweep, Log.between_of_le log h, replay_nil]

theorem sweep_self (cells : Cells) (log : Log) (o : Nat) : cells.sweep log o o = cells := by
  rw [sweep_of_le cells log le_rfl, Log.between_of_le log le_rfl, replay_nil]

theorem sweep_succ {log : Log} {o q : Nat} {step : Step} (cells : Cells) (h : o ≤ q)
    (hstep : log[q]? = some step) :
    cells.sweep log o (q + 1) = (cells.sweep log o q).replayStep step := by
  rw [sweep_of_le cells log (by omega), sweep_of_le cells log h, Log.between_succ h hstep,
    replay_append, replay_cons, replay_nil]

theorem sweep_pred {log : Log} {o q : Nat} {step : Step} (cells : Cells) (h : q < o)
    (hstep : log[q]? = some step) :
    cells.sweep log o q = (cells.sweep log o (q + 1)).undoStep step := by
  rw [sweep_of_ge cells log h.le, sweep_of_ge cells log h, Log.between_cons h hstep, rewind_cons]

theorem replay_take_succ {log : Log} {p : Nat} {step : Step} (cells : Cells)
    (hstep : log[p]? = some step) :
    cells.replay (log.take (p + 1)) = (cells.replay (log.take p)).replayStep step := by
  rw [← Log.between_zero, Log.between_succ (Nat.zero_le p) hstep, replay_append, Log.between_zero,
    replay_cons, replay_nil]

/-! ## Which addresses have a value -/

theorem contains_replay (cells : Cells) (log : Log) (a : Int) :
    (cells.replay log).contains a = true ↔ cells.contains a = true ∨ a ∈ log.addresses := by
  induction log generalizing cells with
  | nil => simp [Log.addresses]
  | cons step log ih =>
    rw [replay_cons, ih, replayStep, SortedMap.contains_insertAll, Step.map_fst_redos,
      Log.mem_addresses_cons, or_assoc]

end Cells

/-! ## The writes of a sweep -/

namespace Log

/-- The writes on the way of the cursor from `o` to `q`, in order. -/
def sweepWrites (log : Log) (o q : Nat) : List (Int × Int) :=
  (log.between o q).flatMap Step.redos ++ (log.between q o).reverse.flatMap Step.undos

theorem sweepWrites_of_le {o q : Nat} (log : Log) (h : o ≤ q) :
    log.sweepWrites o q = (log.between o q).flatMap Step.redos := by
  rw [sweepWrites, between_of_le log h, List.reverse_nil, List.flatMap_nil, List.append_nil]

theorem sweepWrites_of_ge {o q : Nat} (log : Log) (h : q ≤ o) :
    log.sweepWrites o q = (log.between q o).reverse.flatMap Step.undos := by
  rw [sweepWrites, between_of_le log h, List.flatMap_nil, List.nil_append]

/-- On a way without a turn the writes follow each other. -/
theorem sweepWrites_append {o r q : Nat} (log : Log) (h : min o q ≤ r) (h' : r ≤ max o q) :
    log.sweepWrites o r ++ log.sweepWrites r q = log.sweepWrites o q := by
  rcases Nat.le_total o q with hle | hle
  · have hor : o ≤ r := by omega
    have hrq : r ≤ q := by omega
    rw [sweepWrites_of_le log hor, sweepWrites_of_le log hrq, sweepWrites_of_le log hle,
      ← List.flatMap_append, between_append log hor hrq]
  · have hqr : q ≤ r := by omega
    have hro : r ≤ o := by omega
    rw [sweepWrites_of_ge log hro, sweepWrites_of_ge log hqr, sweepWrites_of_ge log hle,
      ← List.flatMap_append, ← List.reverse_append, between_append log hqr hro]

/-- A way and its way back write the same addresses. -/
theorem mem_sweepWrites {log : Log} {o q : Nat} {a : Int} :
    a ∈ (log.sweepWrites o q).map Prod.fst ↔
      a ∈ (log.between o q).addresses ∨ a ∈ (log.between q o).addresses := by
  have hredos : ∀ steps : Log,
      a ∈ (steps.flatMap Step.redos).map Prod.fst ↔ a ∈ steps.addresses := by
    intro steps
    rw [List.map_flatMap, addresses]
    simp only [Step.map_fst_redos]
  have hundos : ∀ steps : Log,
      a ∈ (steps.flatMap Step.undos).map Prod.fst ↔ a ∈ steps.addresses := by
    intro steps
    rw [List.map_flatMap, addresses]
    simp only [Step.map_fst_undos]
  rw [sweepWrites, List.map_append, List.mem_append, hredos, hundos, mem_addresses, mem_addresses,
    mem_addresses]
  simp only [List.mem_reverse]

theorem mem_sweepWrites_comm {log : Log} {o q : Nat} {a : Int} :
    a ∈ (log.sweepWrites o q).map Prod.fst ↔ a ∈ (log.sweepWrites q o).map Prod.fst := by
  rw [mem_sweepWrites, mem_sweepWrites, or_comm]

end Log

namespace Cells

theorem replay_eq_insertAll (cells : Cells) (log : Log) :
    cells.replay log = cells.insertAll (log.flatMap Step.redos) := by
  induction log generalizing cells with
  | nil => rfl
  | cons step log ih =>
    rw [replay_cons, ih, List.flatMap_cons, SortedMap.insertAll_append]
    rfl

theorem rewind_eq_insertAll (cells : Cells) (log : Log) :
    cells.rewind log = cells.insertAll (log.reverse.flatMap Step.undos) := by
  induction log with
  | nil => rfl
  | cons step log ih =>
    rw [rewind_cons, ih, List.reverse_cons, List.flatMap_append, SortedMap.insertAll_append,
      List.flatMap_cons, List.flatMap_nil, List.append_nil]
    rfl

theorem sweep_eq_insertAll (cells : Cells) (log : Log) (o q : Nat) :
    cells.sweep log o q = cells.insertAll (log.sweepWrites o q) := by
  rw [sweep, rewind_eq_insertAll, replay_eq_insertAll, Log.sweepWrites,
    SortedMap.insertAll_append]

/-- A way without a turn may be gone in two parts. -/
theorem sweep_sweep {o r q : Nat} (cells : Cells) (log : Log) (h : min o q ≤ r)
    (h' : r ≤ max o q) : (cells.sweep log o r).sweep log r q = cells.sweep log o q := by
  rw [sweep_eq_insertAll, sweep_eq_insertAll, sweep_eq_insertAll, ← SortedMap.insertAll_append,
    Log.sweepWrites_append log h h']

theorem contains_sweep (cells : Cells) (log : Log) (o q : Nat) (a : Int) :
    (cells.sweep log o q).contains a = true ↔
      cells.contains a = true ∨ a ∈ (log.sweepWrites o q).map Prod.fst := by
  rw [sweep_eq_insertAll, SortedMap.contains_insertAll]

end Cells

end Rewind
