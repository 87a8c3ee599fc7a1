/-!
# Sorted maps

`SortedMap α β` is a finite map kept as its entries in strictly ascending key order, so two maps
with the same entries are the same value.  `get?` is the view; `insert`, `ofList` and `insertNew`
are described through it (`get?_insert`, `get?_insertNew`), and `ext_get?` says the view
decides equality.
-/

namespace Rewind

/-- A finite map from `α` to `β` with its entries in strictly ascending key order. -/
structure SortedMap (α β : Type) [Ord α] where
  /-- The entries, in ascending key order. -/
  entries : List (α × β)
  /-- No key occurs twice and the keys ascend. -/
  ascending : entries.Pairwise fun x y => compare x.1 y.1 = .lt

namespace SortedMap

section Entries

variable {α β : Type} [Ord α]

/-- The value of the first entry with key `k`. -/
def lookup (k : α) : List (α × β) → Option β
  | [] => none
  | (k', v) :: rest => if compare k k' = .eq then some v else lookup k rest

/-- One pass that puts `(k, v)` at its place and replaces an entry with the same key. -/
def place (k : α) (v : β) : List (α × β) → List (α × β)
  | [] => [(k, v)]
  | (k', v') :: rest =>
    match compare k k' with
    | .lt => (k, v) :: (k', v') :: rest
    | .eq => (k, v) :: rest
    | .gt => (k', v') :: place k v rest

theorem mem_place {k : α} {v : β} {e : α × β} {es : List (α × β)} (h : e ∈ place k v es) :
    e = (k, v) ∨ e ∈ es := by
  induction es with
  | nil => simpa [place] using h
  | cons hd tl ih =>
    obtain ⟨k', v'⟩ := hd
    simp only [place] at h
    split at h
    · simpa using h
    · simp only [List.mem_cons] at h ⊢
      rcases h with h | h
      · exact .inl h
      · exact .inr (.inr h)
    · simp only [List.mem_cons] at h ⊢
      rcases h with h | h
      · exact .inr (.inl h)
      · rcases ih h with h | h
        · exact .inl h
        · exact .inr (.inr h)

variable [Std.LawfulEqOrd α]

theorem lookup_eq_some_iff {k : α} {v : β} {es : List (α × β)}
    (h : es.Pairwise fun x y => compare x.1 y.1 = .lt) : lookup k es = some v ↔ (k, v) ∈ es := by
  induction es with
  | nil => simp [lookup]
  | cons hd tl ih =>
    obtain ⟨k', v'⟩ := hd
    obtain ⟨hhd, htl⟩ := List.pairwise_cons.mp h
    by_cases hk : compare k k' = .eq
    · have : k = k' := Std.LawfulEqCmp.eq_of_compare hk
      subst this
      have hnot : ∀ w, (k, w) ∉ tl := fun w hw => by
        have := hhd (k, w) hw
        simp [Std.ReflCmp.compare_self] at this
      simp only [lookup, hk, if_true, Option.some.injEq, List.mem_cons, Prod.mk.injEq, true_and,
        hnot v, or_false]
      exact eq_comm
    · have hne : k ≠ k' := fun h => hk (by rw [h]; exact Std.ReflCmp.compare_self)
      simp [lookup, hk, ih htl, hne]

variable [Std.TransOrd α]

theorem ascending_place {k : α} {v : β} {es : List (α × β)}
    (h : es.Pairwise fun x y => compare x.1 y.1 = .lt) :
    (place k v es).Pairwise fun x y => compare x.1 y.1 = .lt := by
  induction es with
  | nil => simp [place]
  | cons hd tl ih =>
    obtain ⟨k', v'⟩ := hd
    obtain ⟨hhd, htl⟩ := List.pairwise_cons.mp h
    simp only [place]
    split
    · rename_i hlt
      refine List.pairwise_cons.mpr ⟨fun e he => ?_, h⟩
      rcases List.mem_cons.mp he with rfl | he
      · exact hlt
      · exact Std.TransCmp.lt_trans hlt (hhd e he)
    · rename_i heq
      have : k = k' := Std.LawfulEqCmp.eq_of_compare heq
      subst this
      exact List.pairwise_cons.mpr ⟨hhd, htl⟩
    · rename_i hgt
      refine List.pairwise_cons.mpr ⟨fun e he => ?_, ih htl⟩
      rcases mem_place he with rfl | he
      · exact Std.OrientedCmp.lt_of_gt hgt
      · exact hhd e he

theorem lookup_place (k k' : α) (v : β) (es : List (α × β)) :
    lookup k' (place k v es) = if compare k' k = .eq then some v else lookup k' es := by
  induction es with
  | nil => simp [place, lookup]
  | cons hd tl ih =>
    obtain ⟨k₁, v₁⟩ := hd
    simp only [place]
    split
    · simp [lookup]
    · rename_i heq
      have : k = k₁ := Std.LawfulEqCmp.eq_of_compare heq
      subst this
      by_cases h : compare k' k = .eq <;> simp [lookup, h]
    · rename_i hgt
      by_cases h : compare k' k₁ = .eq
      · have : k' = k₁ := Std.LawfulEqCmp.eq_of_compare h
        subst this
        have : ¬ compare k' k = .eq := by
          intro h'
          have := Std.OrientedCmp.eq_symm h'
          rw [hgt] at this
          cases this
        simp [lookup, this]
      · simp [lookup, h, ih]

/-- Two ascending lists with the same entries are the same list. -/
theorem eq_of_ascending {es fs : List (α × β)}
    (hes : es.Pairwise fun x y => compare x.1 y.1 = .lt)
    (hfs : fs.Pairwise fun x y => compare x.1 y.1 = .lt) (h : ∀ e, e ∈ es ↔ e ∈ fs) : es = fs := by
  induction es generalizing fs with
  | nil =>
    cases fs with
    | nil => rfl
    | cons f fs => exact absurd ((h f).mpr (List.mem_cons_self ..)) (by simp)
  | cons e es ih =>
    cases fs with
    | nil => exact absurd ((h e).mp (List.mem_cons_self ..)) (by simp)
    | cons f fs =>
      obtain ⟨he, hes'⟩ := List.pairwise_cons.mp hes
      obtain ⟨hf, hfs'⟩ := List.pairwise_cons.mp hfs
      have irrefl : ∀ x : α × β, compare x.1 x.1 ≠ .lt := fun x => by
        simp [Std.ReflCmp.compare_self]
      have hef : e = f := by
        rcases List.mem_cons.mp ((h e).mp (List.mem_cons_self ..)) with h₁ | h₁
        · exact h₁
        rcases List.mem_cons.mp ((h f).mpr (List.mem_cons_self ..)) with h₂ | h₂
        · exact h₂.symm
        exact absurd (Std.TransCmp.lt_trans (he f h₂) (hf e h₁)) (irrefl e)
      subst hef
      congr 1
      refine ih hes' hfs' fun x => ⟨fun hx => ?_, fun hx => ?_⟩
      · rcases List.mem_cons.mp ((h x).mp (List.mem_cons_of_mem _ hx)) with rfl | h₁
        · exact absurd (he x hx) (irrefl x)
        · exact h₁
      · rcases List.mem_cons.mp ((h x).mpr (List.mem_cons_of_mem _ hx)) with rfl | h₁
        · exact absurd (hf x hx) (irrefl x)
        · exact h₁

end Entries

variable {α β : Type} [Ord α]

instance [DecidableEq α] [DecidableEq β] : DecidableEq (SortedMap α β) := fun m n =>
  decidable_of_iff (m.entries = n.entries)
    ⟨fun h => by cases m; cases n; cases h; rfl, fun h => h ▸ rfl⟩

/-- The map without entries. -/
def empty : SortedMap α β := ⟨[], .nil⟩

instance : Inhabited (SortedMap α β) := ⟨empty⟩

/-- The value at a key. -/
def get? (m : SortedMap α β) (k : α) : Option β := lookup k m.entries

/-- Whether a key has an entry. -/
def contains (m : SortedMap α β) (k : α) : Bool := (m.get? k).isSome

/-- The keys in ascending order. -/
def keys (m : SortedMap α β) : List α := m.entries.map Prod.fst

/-- The number of entries. -/
def size (m : SortedMap α β) : Nat := m.entries.length

@[simp] theorem get?_empty (k : α) : (empty : SortedMap α β).get? k = none := rfl

variable [Std.LawfulEqOrd α]

theorem mem_entries_iff {m : SortedMap α β} {k : α} {v : β} :
    (k, v) ∈ m.entries ↔ m.get? k = some v :=
  (lookup_eq_some_iff m.ascending).symm

theorem mem_keys_iff {m : SortedMap α β} {k : α} : k ∈ m.keys ↔ m.contains k = true := by
  simp only [keys, contains, List.mem_map, Prod.exists, exists_and_right, exists_eq_right,
    mem_entries_iff, Option.isSome_iff_exists]

variable [Std.TransOrd α]

/-- Sets the value at a key. -/
def insert (m : SortedMap α β) (k : α) (v : β) : SortedMap α β :=
  ⟨place k v m.entries, ascending_place m.ascending⟩

/-- Sets the value at a key that has none yet. -/
def insertNew (m : SortedMap α β) (k : α) (v : β) : SortedMap α β :=
  if m.contains k then m else m.insert k v

/-- Sets every entry in turn, so the last one with a key counts. -/
def insertAll (m : SortedMap α β) (es : List (α × β)) : SortedMap α β :=
  es.foldl (fun m e => m.insert e.1 e.2) m

/-- The map of the given entries; of several with one key the last counts. -/
def ofList (es : List (α × β)) : SortedMap α β := empty.insertAll es

theorem get?_insert (m : SortedMap α β) (k k' : α) (v : β) :
    (m.insert k v).get? k' = if compare k' k = .eq then some v else m.get? k' :=
  lookup_place k k' v m.entries

@[simp] theorem get?_insert_self (m : SortedMap α β) (k : α) (v : β) :
    (m.insert k v).get? k = some v := by
  rw [get?_insert, if_pos Std.ReflCmp.compare_self]

theorem get?_insert_of_ne (m : SortedMap α β) {k k' : α} (v : β) (h : k' ≠ k) :
    (m.insert k v).get? k' = m.get? k' := by
  rw [get?_insert, if_neg fun hc => h (Std.LawfulEqCmp.eq_of_compare hc)]

theorem get?_insertNew_self (m : SortedMap α β) (k : α) (v : β) :
    (m.insertNew k v).get? k = some ((m.get? k).getD v) := by
  cases h : m.get? k <;> simp [insertNew, contains, h]

theorem get?_insertNew_of_ne (m : SortedMap α β) {k k' : α} (v : β) (h : k' ≠ k) :
    (m.insertNew k v).get? k' = m.get? k' := by
  unfold insertNew
  split
  · rfl
  · exact get?_insert_of_ne m v h

/-- A key holds what it held before, or else what is written to it. -/
theorem get?_insertNew [DecidableEq α] (m : SortedMap α β) (k k' : α) (v : β) :
    (m.insertNew k v).get? k' = (m.get? k').or (if k' = k then some v else none) := by
  by_cases h : k' = k
  · subst h
    rw [get?_insertNew_self, if_pos rfl]
    cases m.get? k' <;> rfl
  · rw [get?_insertNew_of_ne m v h, if_neg h, Option.or_none]

/-- Entering values under keys that are not taken yet: a key keeps what it held, or else holds the
first one. -/
theorem get?_foldl_insertNew [DecidableEq α] {γ : Type} (key : γ → α) (value : γ → β)
    (index : SortedMap α β) (xs : List γ) (k : α) :
    (xs.foldl (fun index x => index.insertNew (key x) (value x)) index).get? k =
      (index.get? k).or ((xs.find? fun x => key x = k).map value) := by
  induction xs generalizing index with
  | nil => simp
  | cons x xs ih =>
    rw [List.foldl_cons, ih, get?_insertNew, Option.or_assoc]
    congr 1
    by_cases h : key x = k
    · simp [h]
    · simp [h, Ne.symm h]

@[simp] theorem insertAll_nil (m : SortedMap α β) : m.insertAll [] = m := rfl

@[simp] theorem insertAll_cons (m : SortedMap α β) (e : α × β) (es : List (α × β)) :
    m.insertAll (e :: es) = (m.insert e.1 e.2).insertAll es := rfl

theorem insertAll_append (m : SortedMap α β) (es fs : List (α × β)) :
    m.insertAll (es ++ fs) = (m.insertAll es).insertAll fs := by
  simp [insertAll, List.foldl_append]

/-- The view decides equality. -/
theorem ext_get? {m n : SortedMap α β} (h : ∀ k, m.get? k = n.get? k) : m = n := by
  cases m with | mk es hes => cases n with | mk fs hfs =>
  congr 1
  refine eq_of_ascending hes hfs fun ⟨k, v⟩ => ?_
  rw [← lookup_eq_some_iff hes, ← lookup_eq_some_iff hfs]
  have hk : lookup k es = lookup k fs := h k
  rw [hk]

end SortedMap

end Rewind
