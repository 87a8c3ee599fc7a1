import Mathlib.Data.List.Perm.Subperm
import Rewind.Log.Replay

/-!
# Writes in turn

What a list of writes does to a map.  `get?_insertAll` says it once and for all: a key holds the
last value written to it, and what it held before if nothing was written.  The laws for keys that
are not written, or written once, and for the set of keys follow from it.  At the end, when two maps
have the same keys (`keys_eq_iff`, `size_eq_iff`).
-/

namespace Rewind.SortedMap

section Writes

variable {α β : Type} [DecidableEq α]

theorem isSome_lookup_reverse_iff {es : List (α × β)} {k : α} :
    (es.reverse.lookup k).isSome = true ↔ k ∈ es.map Prod.fst := by
  rw [List.lookup_isSome_iff, List.mem_map]
  constructor
  · rintro ⟨e, he, hk⟩
    exact ⟨e, List.mem_reverse.mp he, (beq_iff_eq.mp hk).symm⟩
  · rintro ⟨e, he, rfl⟩
    exact ⟨e, List.mem_reverse.mpr he, beq_self_eq_true e.1⟩

variable [Ord α] [Std.LawfulEqOrd α] [Std.TransOrd α]

/-- A key holds the last value written to it, or what it held before. -/
theorem get?_insertAll (m : SortedMap α β) (es : List (α × β)) (k : α) :
    (m.insertAll es).get? k = (es.reverse.lookup k).or (m.get? k) := by
  induction es generalizing m with
  | nil => rfl
  | cons e es ih =>
    obtain ⟨k', v⟩ := e
    rw [insertAll_cons, ih, List.reverse_cons, List.lookup_append, Option.or_assoc]
    congr 1
    by_cases h : k = k'
    · subst h
      rw [get?_insert_self, List.lookup_cons_self, Option.some_or]
    · have hlookup : [(k', v)].lookup k = none := by
        rw [List.lookup_cons, beq_false_of_ne h, List.lookup_nil]
      rw [get?_insert_of_ne m v h, hlookup, Option.none_or]

/-- A map of entries holds the last one of each key. -/
theorem get?_ofList (es : List (α × β)) (k : α) : (ofList es).get? k = es.reverse.lookup k := by
  rw [ofList, get?_insertAll, get?_empty, Option.or_none]

theorem ofList_eq_iff {es fs : List (α × β)} :
    ofList es = ofList fs ↔ ∀ k, es.reverse.lookup k = fs.reverse.lookup k := by
  constructor
  · intro h k
    rw [← get?_ofList, ← get?_ofList, h]
  · intro h
    refine ext_get? fun k => ?_
    rw [get?_ofList, get?_ofList, h]

theorem get?_insertAll_of_notMem (m : SortedMap α β) {es : List (α × β)} {k : α}
    (h : k ∉ es.map Prod.fst) : (m.insertAll es).get? k = m.get? k := by
  have hnone : es.reverse.lookup k = none := by
    rw [← Option.isSome_eq_false_iff.trans Option.isNone_iff_eq_none, Bool.eq_false_iff]
    exact fun hs => h (isSome_lookup_reverse_iff.mp hs)
  rw [get?_insertAll, hnone, Option.none_or]

/-- Only the writes to a key matter for its value. -/
theorem get?_insertAll_filter (m : SortedMap α β) (es : List (α × β)) (k : α) :
    (m.insertAll es).get? k = (m.insertAll (es.filter fun e => e.1 = k)).get? k := by
  induction es generalizing m with
  | nil => rfl
  | cons e es ih =>
    by_cases hk : e.1 = k
    · simp [hk, ih]
    · have hkept : (m.insert e.1 e.2).get? k = m.get? k := get?_insert_of_ne m e.2 (Ne.symm hk)
      rw [insertAll_cons, ih, get?_insertAll, hkept, ← get?_insertAll]
      simp [hk]

/-- The value of a key that is written does not depend on the map. -/
theorem get?_insertAll_of_mem (m n : SortedMap α β) {es : List (α × β)} {k : α}
    (h : k ∈ es.map Prod.fst) : (m.insertAll es).get? k = (n.insertAll es).get? k := by
  obtain ⟨v, hv⟩ := Option.isSome_iff_exists.mp (isSome_lookup_reverse_iff.mpr h)
  rw [get?_insertAll, get?_insertAll, hv, Option.some_or, Option.some_or]

/-- A key that is written once holds what is written. -/
theorem get?_insertAll_of_nodup (m : SortedMap α β) {es : List (α × β)} {e : α × β} (he : e ∈ es)
    (hes : (es.map Prod.fst).Nodup) : (m.insertAll es).get? e.1 = some e.2 := by
  induction es generalizing m with
  | nil => cases he
  | cons d es ih =>
    obtain ⟨hd, hes⟩ := List.nodup_cons.mp hes
    rw [insertAll_cons]
    rcases List.mem_cons.mp he with rfl | he
    · rw [get?_insertAll_of_notMem _ hd, get?_insert_self]
    · exact ih _ he hes

theorem contains_insertAll (m : SortedMap α β) (es : List (α × β)) (k : α) :
    (m.insertAll es).contains k = true ↔ m.contains k = true ∨ k ∈ es.map Prod.fst := by
  rw [contains, get?_insertAll, Option.isSome_or, Bool.or_eq_true, isSome_lookup_reverse_iff,
    or_comm, contains]

/-! ## Writes that change nothing -/

/-- Writing the same again changes nothing. -/
theorem insertAll_insertAll (m : SortedMap α β) (es : List (α × β)) :
    (m.insertAll es).insertAll es = m.insertAll es := by
  refine ext_get? fun k => ?_
  rw [get?_insertAll, get?_insertAll, ← Option.or_assoc, Option.or_self]

/-- If writes change nothing, then neither do those behind the first one. -/
theorem insertAll_of_cons {m : SortedMap α β} {e : α × β} {es : List (α × β)}
    (h : m.insertAll (e :: es) = m) : m.insertAll es = m := by
  rw [insertAll_cons] at h
  have hagain := insertAll_insertAll (m.insert e.1 e.2) es
  rwa [h] at hagain

theorem insert_of_get? {m : SortedMap α β} {k : α} {v : β} (h : m.get? k = some v) :
    m.insert k v = m := by
  refine ext_get? fun k' => ?_
  by_cases hk : k' = k
  · rw [hk, get?_insert_self, h]
  · rw [get?_insert_of_ne m v hk]

omit [DecidableEq α] in
theorem insertNew_of_contains {m : SortedMap α β} {k : α} (v : β) (h : m.contains k = true) :
    m.insertNew k v = m := by
  unfold insertNew
  rw [if_pos h]

end Writes

/-! ## The same keys -/

variable {α β : Type} [Ord α]

theorem ascending_keys (m : SortedMap α β) : m.keys.Pairwise fun k l => compare k l = .lt :=
  m.ascending.map Prod.fst fun _ _ h => h

variable [Std.LawfulEqOrd α]

theorem nodup_keys (m : SortedMap α β) : m.keys.Nodup := by
  refine m.ascending_keys.imp fun {k l} hlt heq => ?_
  have hself : compare l l = .eq := Std.ReflCmp.compare_self
  rw [heq, hself] at hlt
  cases hlt

variable [Std.TransOrd α]

/-- A map is the map of its entries. -/
theorem ofList_entries [DecidableEq α] (m : SortedMap α β) : ofList m.entries = m := by
  refine ext_get? fun k => ?_
  by_cases hk : k ∈ m.keys
  · obtain ⟨e, he, rfl⟩ := List.mem_map.mp hk
    rw [ofList, get?_insertAll_of_nodup _ he m.nodup_keys, mem_entries_iff.mp he]
  · have hnone : m.get? k = none := by
      rw [mem_keys_iff, contains, Option.not_isSome_iff_eq_none] at hk
      exact hk
    rw [ofList, get?_insertAll_of_notMem _ hk, hnone, get?_empty]

theorem keys_eq_iff {m n : SortedMap α β} :
    m.keys = n.keys ↔ ∀ k, m.contains k = true ↔ n.contains k = true := by
  constructor
  · intro h k
    rw [← mem_keys_iff, ← mem_keys_iff, h]
  · intro h
    have hperm : m.keys.Perm n.keys := by
      rw [List.perm_ext_iff_of_nodup m.nodup_keys n.nodup_keys]
      intro k
      rw [mem_keys_iff, mem_keys_iff, h]
    refine hperm.eq_of_pairwise (fun k l _ _ hkl hlk => ?_) m.ascending_keys n.ascending_keys
    rw [Std.OrientedCmp.gt_of_lt hkl] at hlk
    cases hlk

/-- Of two maps with nested key sets, the sizes tell whether they are the same. -/
theorem size_eq_iff {m n : SortedMap α β}
    (hle : ∀ k, m.contains k = true → n.contains k = true) :
    m.size = n.size ↔ ∀ k, m.contains k = true ↔ n.contains k = true := by
  have hm : m.keys.length = m.size := List.length_map ..
  have hn : n.keys.length = n.size := List.length_map ..
  rw [← keys_eq_iff, ← hm, ← hn]
  constructor
  · intro h
    -- as many keys, and all of them among the others, so no key is missing
    have hsub : m.keys.Subperm n.keys := by
      refine m.nodup_keys.subperm fun k hk => ?_
      exact mem_keys_iff.mpr (hle k (mem_keys_iff.mp hk))
    have hperm := hsub.perm_of_length_le (Nat.le_of_eq h.symm)
    rw [keys_eq_iff]
    intro k
    rw [← mem_keys_iff, ← mem_keys_iff, hperm.mem_iff]
  · intro h
    rw [h]

end Rewind.SortedMap
