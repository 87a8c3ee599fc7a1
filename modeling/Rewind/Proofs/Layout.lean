import Mathlib.Data.List.Forall2
import Rewind.Json.Writer
import Rewind.Proofs.Spelling
import Rewind.Proofs.Writes

/-!
# The two written forms

A plain value is one that is written so that it can be read back: no floating point numbers, only
integers that are written, and every name of an object once.  Its indented form holds it
(`ofText_indented`), and its canonical form holds the value with the fields of every object sorted
by name (`ofText_canonical`), where halves that make a pair are read as its character
(`Json.joined`).  The canonical form consists of printable ASCII.
-/

namespace Rewind

namespace SortedMap

variable {α β γ : Type} [Ord α] {R : β → γ → Prop}

/-- Entries with one key and related values. -/
def SameKey (R : β → γ → Prop) (e : α × β) (f : α × γ) : Prop := e.1 = f.1 ∧ R e.2 f.2

theorem forall₂_place {es : List (α × β)} {fs : List (α × γ)} (h : List.Forall₂ (SameKey R) es fs)
    {k : α} {v : β} {w : γ} (hvw : R v w) :
    List.Forall₂ (SameKey R) (place k v es) (place k w fs) := by
  induction h with
  | nil => exact .cons ⟨rfl, hvw⟩ .nil
  | @cons e f es fs hef hrest ih =>
    obtain ⟨k₁, v₁⟩ := e
    obtain ⟨k₂, w₁⟩ := f
    obtain ⟨rfl, hvw₁⟩ : k₁ = k₂ ∧ R v₁ w₁ := hef
    simp only [place]
    split
    · exact .cons ⟨rfl, hvw⟩ (.cons ⟨rfl, hvw₁⟩ hrest)
    · exact .cons ⟨rfl, hvw⟩ hrest
    · exact .cons ⟨rfl, hvw₁⟩ ih

variable [Std.LawfulEqOrd α] [Std.TransOrd α]

/-- Sorting by key does not look at the values. -/
theorem forall₂_ofList {es : List (α × β)} {fs : List (α × γ)}
    (h : List.Forall₂ (SameKey R) es fs) :
    List.Forall₂ (SameKey R) (ofList es).entries (ofList fs).entries := by
  suffices hall : ∀ (m : SortedMap α β) (n : SortedMap α γ),
      List.Forall₂ (SameKey R) m.entries n.entries →
      List.Forall₂ (SameKey R) (m.insertAll es).entries (n.insertAll fs).entries from
    hall empty empty .nil
  induction h with
  | nil => exact fun _ _ h => h
  | @cons e f es fs hef hrest ih =>
    intro m n hmn
    obtain ⟨k₁, v⟩ := e
    obtain ⟨k₂, w⟩ := f
    obtain ⟨rfl, hvw⟩ : k₁ = k₂ ∧ R v w := hef
    exact ih _ _ (forall₂_place hmn hvw)

theorem mem_of_mem_ofList {es : List (α × β)} {e : α × β} (h : e ∈ (ofList es).entries) :
    e ∈ es := by
  suffices hall : ∀ m : SortedMap α β, e ∈ (m.insertAll es).entries → e ∈ m.entries ∨ e ∈ es from
    (hall empty h).resolve_left List.not_mem_nil
  clear h
  induction es with
  | nil => exact fun m h => .inl h
  | cons f es ih =>
    intro m h
    rcases ih (m.insert f.1 f.2) h with h | h
    · rcases mem_place h with rfl | h
      · exact .inr (List.mem_cons_self ..)
      · exact .inl h
    · exact .inr (List.mem_cons_of_mem _ h)

end SortedMap

namespace Json

/-- A value that is written so that it can be read back, with lists and objects in it down to a
depth, where `P` holds of all texts but the names of fields. -/
inductive Plain (P : Text → Prop) : Nat → Json → Prop
  | null {d : Nat} : Plain P d .null
  | bool {d : Nat} (b : Bool) : Plain P d (.bool b)
  | int {d : Nat} {n : Int} (h : Integer.isWritable n = true) : Plain P d (.int n)
  | text {d : Nat} {t : Text} (h : P t) : Plain P d (.text t)
  | list {d : Nat} {items : List Json} (h : ∀ v ∈ items, Plain P d v) :
    Plain P (d + 1) (.list items)
  | object {d : Nat} {fields : List (Text × Json)} (hnames : (fields.map Prod.fst).Nodup)
    (hwhole : ∀ f ∈ fields, f.1.isWhole = true) (h : ∀ f ∈ fields, Plain P d f.2) :
    Plain P (d + 1) (.object fields)

variable {P : Text → Prop}

/-! ## Pairs of halves -/

mutual

/-- The value with one character in the place of two halves that make a pair, in all its texts. -/
def joined : Json → Json
  | text t => text t.joined
  | list items => list (joinedItems items)
  | object fields => object (joinedFields fields)
  | v => v

/-- The items with the pairs in their texts joined. -/
def joinedItems : List Json → List Json
  | [] => []
  | v :: rest => v.joined :: joinedItems rest

/-- The fields with the pairs in their names and values joined. -/
def joinedFields : List (Text × Json) → List (Text × Json)
  | [] => []
  | (name, v) :: rest => (name.joined, v.joined) :: joinedFields rest

end

theorem joinedItems_eq_map (items : List Json) : joinedItems items = items.map joined := by
  induction items with
  | nil => rfl
  | cons v items ih => rw [joinedItems, ih, List.map_cons]

theorem joinedFields_eq_map (fields : List (Text × Json)) :
    joinedFields fields = fields.map fun f => (f.1.joined, f.2.joined) := by
  induction fields with
  | nil => rfl
  | cons f fields ih => rw [joinedFields, ih, List.map_cons]

/-- Names without halves stay as they are. -/
theorem joined_object {fields : List (Text × Json)} (h : ∀ f ∈ fields, f.1.isWhole = true) :
    joined (.object fields) = .object (fields.map fun f => (f.1, f.2.joined)) := by
  rw [joined, joinedFields_eq_map]
  exact congrArg object
    (List.map_congr_left fun f hf => by rw [Text.joined_of_isWhole (h f hf)])

/-! ## What may be missing -/

section OrNull

variable {α : Type} {write : α → Json} {o : Option α}

theorem Plain.orNull {d : Nat} (h : ∀ a ∈ o, Plain P d (write a)) :
    Plain P d ((o.map write).getD .null) := by
  cases o with
  | none => exact .null
  | some a => exact h a rfl

theorem joined_orNull (h : ∀ a ∈ o, (write a).joined = write a) :
    ((o.map write).getD .null).joined = (o.map write).getD .null := by
  cases o with
  | none => rfl
  | some a => exact h a rfl

end OrNull

/-! ## Parts side by side -/

theorem joinWith_cons_cons (separator part part' : List Char) (parts : List (List Char)) :
    joinWith separator (part :: part' :: parts)
      = part ++ separator ++ joinWith separator (part' :: parts) := rfl

/-- Written items with commas between them are the items of a list. -/
theorem spellsItems_joinWith {d : Nat} {b b' : List Char} (hb : Blanks b) (hb' : Blanks b')
    {items : List Json} {parts : List (List Char)} (h : List.Forall₂ (Spells d) items parts)
    (hne : items ≠ []) :
    SpellsItems d items (joinWith (',' :: b) parts ++ (b' ++ [']'])) := by
  induction h with
  | nil => exact absurd rfl hne
  | @cons v part items parts hv hrest ih =>
    cases hrest with
    | nil => exact .last hv hb'
    | cons hv' hrest' =>
      rw [joinWith_cons_cons]
      simpa using SpellsItems.more hv blanks_nil hb (ih (List.cons_ne_nil _ _))

/-- Written fields with commas between them are the fields of an object. -/
theorem spellsFields_joinWith {d : Nat} {b b' b'' : List Char} (hb : Blanks b) (hb' : Blanks b')
    (hb'' : Blanks b'') {fields : List (Text × Json)} {parts : List (Text × List Char)}
    (h : List.Forall₂ (SortedMap.SameKey (Spells d)) fields parts)
    (hwhole : ∀ f ∈ fields, f.1.isWhole = true) (hne : fields ≠ []) :
    SpellsFields d fields
      (joinWith (',' :: b) (parts.map (fieldChars (':' :: b''))) ++ (b' ++ ['\x7d'])) := by
  induction h with
  | nil => exact absurd rfl hne
  | @cons f part fields parts hf hrest ih =>
    obtain ⟨name, v⟩ := f
    obtain ⟨name', cs⟩ := part
    obtain ⟨rfl, hv⟩ : name = name' ∧ Spells d v cs := hf
    have hname : name.joined = name :=
      Text.joined_of_isWhole (hwhole (name, v) (List.mem_cons_self ..))
    -- the last field is closed by the brace, and any other one is followed by a comma
    cases hrest with
    | nil =>
      have hlast : SpellsFields d [(name.joined, v)] _ := .last hv blanks_nil hb'' hb'
      rw [hname] at hlast
      simpa [joinWith, fieldChars] using hlast
    | cons hf' hrest' =>
      have hrest := ih (fun f hf => hwhole f (List.mem_cons_of_mem _ hf)) (List.cons_ne_nil _ _)
      have hmore : SpellsFields d ((name.joined, v) :: _) _ :=
        .more hv blanks_nil hb'' blanks_nil hb hrest
      rw [hname] at hmore
      rw [List.map_cons, List.map_cons, joinWith_cons_cons]
      simpa [fieldChars] using hmore

/-! ## The indented form -/

theorem blanks_newLine (k : Nat) : Blanks (newLine k) := by
  intro c hc
  rcases List.mem_cons.mp hc with rfl | hc
  · decide
  · rw [List.eq_of_mem_replicate hc]
    decide

theorem blanks_space : Blanks [' '] := by
  intro c hc
  rw [List.mem_singleton.mp hc]
  decide

theorem indentedItems_eq_map (k : Nat) (items : List Json) :
    indentedItems k items = items.map (indentedChars k) := by
  induction items with
  | nil => rfl
  | cons v items ih => rw [indentedItems, ih, List.map_cons]

theorem indentedFields_eq_map (k : Nat) (fields : List (Text × Json)) :
    indentedFields k fields
      = (fields.map fun f => (f.1, indentedChars k f.2)).map (fieldChars [':', ' ']) := by
  induction fields with
  | nil => rfl
  | cons f fields ih => rw [indentedFields, ih, List.map_cons, List.map_cons]

theorem block_of_ne_nil {k : Nat} {opening closing : Char} {parts : List (List Char)}
    (h : parts ≠ []) :
    block k opening closing parts
      = opening :: (newLine (k + 1) ++ (joinWith (',' :: newLine (k + 1)) parts
          ++ (newLine k ++ [closing]))) := by
  unfold block
  rw [if_neg (by simpa using h)]
  simp

/-- The indented form of a plain value spells it, at every indentation. -/
theorem Plain.spells_indented {d : Nat} {v : Json} (h : Plain P d v) (k : Nat) :
    Spells d v.joined (indentedChars k v) := by
  induction h generalizing k with
  | null => exact .null
  | bool b => exact .bool b
  | int h => exact .int h
  | text h => exact .text _
  -- the items stand one level further in, which is why `k` is general in the induction
  | @list d items h ih =>
    rw [joined, joinedItems_eq_map, indentedChars, indentedItems_eq_map]
    have hitems : List.Forall₂ (Spells d) (items.map joined)
        (items.map (indentedChars (k + 1))) :=
      List.forall₂_map_left_iff.mpr
        (List.forall₂_map_right_iff.mpr (List.forall₂_same.mpr fun v hv => ih v hv (k + 1)))
    cases items with
    | nil => exact .emptyList blanks_nil
    | cons v items =>
      rw [block_of_ne_nil (by simp)]
      exact .list (blanks_newLine _)
        (spellsItems_joinWith (blanks_newLine _) (blanks_newLine _) hitems (List.cons_ne_nil _ _))
  | @object d fields hnames hwhole h ih =>
    rw [joined_object hwhole, indentedChars, indentedFields_eq_map]
    have hfields : List.Forall₂ (SortedMap.SameKey (Spells d))
        (fields.map fun f => (f.1, f.2.joined))
        (fields.map fun f => (f.1, indentedChars (k + 1) f.2)) :=
      List.forall₂_map_left_iff.mpr
        (List.forall₂_map_right_iff.mpr
          (List.forall₂_same.mpr fun f hf => ⟨rfl, ih f hf (k + 1)⟩))
    cases fields with
    | nil => exact .emptyObject blanks_nil
    | cons f fields =>
      rw [block_of_ne_nil (by simp)]
      exact .object (blanks_newLine _) (by rwa [List.map_map])
        (spellsFields_joinWith (blanks_newLine _) (blanks_newLine _) blanks_space hfields
          (List.forall_mem_map.mpr hwhole) (List.cons_ne_nil _ _))

/-- A plain value is what its indented form holds, also with a line feed behind it. -/
theorem ofText_indented {d : Nat} {v : Json} (h : Plain P d v) :
    ofText d (v.indented ++ "\n") = .ok v.joined :=
  ofText_of_spells (h.spells_indented 0) blanks_nil (blanks_newLine 0) (by simp [indented, newLine])

/-! ## The canonical form -/

mutual

/-- The value with the fields of every object sorted by name. -/
def sorted : Json → Json
  | list items => list (sortedItems items)
  | object fields => object (SortedMap.ofList (sortedFields fields)).entries
  | v => v

/-- The items with all fields in them sorted. -/
def sortedItems : List Json → List Json
  | [] => []
  | v :: rest => v.sorted :: sortedItems rest

/-- The fields in their order, with those in their values sorted. -/
def sortedFields : List (Text × Json) → List (Text × Json)
  | [] => []
  | (name, v) :: rest => (name, v.sorted) :: sortedFields rest

end

theorem sortedItems_eq_map (items : List Json) : sortedItems items = items.map sorted := by
  induction items with
  | nil => rfl
  | cons v items ih => rw [sortedItems, ih, List.map_cons]

theorem sortedFields_eq_map (fields : List (Text × Json)) :
    sortedFields fields = fields.map fun f => (f.1, f.2.sorted) := by
  induction fields with
  | nil => rfl
  | cons f fields ih => rw [sortedFields, ih, List.map_cons]

theorem canonicalItems_eq_map (items : List Json) :
    canonicalItems items = items.map canonicalChars := by
  induction items with
  | nil => rfl
  | cons v items ih => rw [canonicalItems, ih, List.map_cons]

theorem canonicalFields_eq_map (fields : List (Text × Json)) :
    canonicalFields fields = fields.map fun f => (f.1, canonicalChars f.2) := by
  induction fields with
  | nil => rfl
  | cons f fields ih => rw [canonicalFields, ih, List.map_cons]

theorem itemsWritable_eq_all (items : List Json) : itemsWritable items = items.all isWritable := by
  induction items with
  | nil => rfl
  | cons v items ih => rw [itemsWritable, ih, List.all_cons]

theorem fieldsWritable_eq_all (fields : List (Text × Json)) :
    fieldsWritable fields = fields.all fun f => f.2.isWritable := by
  induction fields with
  | nil => rfl
  | cons f fields ih => rw [fieldsWritable, ih, List.all_cons]

/-- The canonical form of a plain value spells the sorted value. -/
theorem Plain.spells_canonical {d : Nat} {v : Json} (h : Plain P d v) :
    Spells d v.sorted.joined (canonicalChars v) := by
  induction h with
  | null => exact .null
  | bool b => exact .bool b
  | int h => exact .int h
  | text h => exact .text _
  | @list d items h ih =>
    rw [sorted, sortedItems_eq_map, joined, joinedItems_eq_map, List.map_map, canonicalChars,
      canonicalItems_eq_map]
    have hitems : List.Forall₂ (Spells d) (items.map (joined ∘ sorted))
        (items.map canonicalChars) :=
      List.forall₂_map_left_iff.mpr
        (List.forall₂_map_right_iff.mpr (List.forall₂_same.mpr ih))
    cases items with
    | nil => exact .emptyList blanks_nil
    | cons v items =>
      exact Spells.list (b := []) blanks_nil
        (spellsItems_joinWith blanks_nil blanks_nil hitems (List.cons_ne_nil _ _))
  | @object d fields hnames hwhole h ih =>
    have hsorted : ∀ e ∈ (SortedMap.ofList (fields.map fun f => (f.1, f.2.sorted))).entries,
        e.1.isWhole = true := by
      intro e he
      obtain ⟨f, hf, rfl⟩ := List.mem_map.mp (SortedMap.mem_of_mem_ofList he)
      exact hwhole f hf
    rw [sorted, sortedFields_eq_map, joined_object hsorted, canonicalChars, canonicalFields_eq_map]
    -- sorting looks at the names only, so the written fields come in the order of the values
    have hentries : List.Forall₂ (SortedMap.SameKey fun v cs => Spells d v.joined cs)
        (SortedMap.ofList (fields.map fun f => (f.1, f.2.sorted))).entries
        (SortedMap.ofList (fields.map fun f => (f.1, canonicalChars f.2))).entries :=
      SortedMap.forall₂_ofList (List.forall₂_map_left_iff.mpr
        (List.forall₂_map_right_iff.mpr (List.forall₂_same.mpr fun f hf => ⟨rfl, ih f hf⟩)))
    generalize SortedMap.ofList (fields.map fun f => (f.1, f.2.sorted)) = m at hentries hsorted ⊢
    have hfields : List.Forall₂ (SortedMap.SameKey (Spells d))
        (m.entries.map fun e => (e.1, e.2.joined))
        (SortedMap.ofList (fields.map fun f => (f.1, canonicalChars f.2))).entries :=
      List.forall₂_map_left_iff.mpr hentries
    obtain ⟨_ | ⟨e, es⟩, hes⟩ := m
    · rw [List.forall₂_nil_left_iff.mp hfields]
      exact .emptyObject blanks_nil
    · exact Spells.object (b := []) blanks_nil
        (by rw [List.map_map]; exact SortedMap.nodup_keys ⟨e :: es, hes⟩)
        (spellsFields_joinWith blanks_nil blanks_nil blanks_nil hfields
          (List.forall_mem_map.mpr hsorted) (List.cons_ne_nil _ _))

theorem Plain.isWritable {d : Nat} {v : Json} (h : Plain P d v) : v.isWritable = true := by
  induction h with
  | null => rfl
  | bool b => rfl
  | int h => exact h
  | text h => rfl
  | list h ih => rwa [Json.isWritable, itemsWritable_eq_all, List.all_eq_true]
  | object hnames hwhole h ih => rwa [Json.isWritable, fieldsWritable_eq_all, List.all_eq_true]

/-- A plain value is, but for the order of fields, what its canonical form holds. -/
theorem ofText_canonical {d : Nat} {v : Json} (h : Plain P d v) :
    ofText d (String.ofList v.canonicalChars) = .ok v.sorted.joined :=
  ofText_of_spells h.spells_canonical blanks_nil blanks_nil (by simp)

/-- Where no text has a half, there are no pairs to be joined. -/
theorem Plain.joined_sorted {d : Nat} {v : Json} (h : Plain (·.isWhole = true) d v) :
    v.sorted.joined = v.sorted := by
  induction h with
  | null => rfl
  | bool b => rfl
  | int h => rfl
  | text h => exact congrArg Json.text (Text.joined_of_isWhole h)
  | @list d items h ih =>
    rw [sorted, sortedItems_eq_map, joined, joinedItems_eq_map, List.map_map]
    exact congrArg Json.list (List.map_congr_left ih)
  | @object d fields hnames hwhole h ih =>
    -- sorting moves fields and changes none, so what holds of the fields holds of the sorted ones
    have hmem : ∀ e ∈ (SortedMap.ofList (fields.map fun f => (f.1, f.2.sorted))).entries,
        e.1.isWhole = true ∧ e.2.joined = e.2 := by
      intro e he
      obtain ⟨f, hf, rfl⟩ := List.mem_map.mp (SortedMap.mem_of_mem_ofList he)
      exact ⟨hwhole f hf, ih f hf⟩
    rw [sorted, sortedFields_eq_map, joined_object fun e he => (hmem e he).1]
    refine congrArg Json.object ?_
    refine (List.map_congr_left fun e he => ?_).trans (List.map_id _)
    rw [(hmem e he).2]
    rfl

/-! ### Printable ASCII -/

theorem mem_joinWith {separator : List Char} {parts : List (List Char)} {c : Char}
    (h : c ∈ joinWith separator parts) : c ∈ separator ∨ ∃ part ∈ parts, c ∈ part := by
  induction parts with
  | nil => cases h
  | cons part parts ih =>
    cases parts with
    | nil => exact .inr ⟨part, List.mem_cons_self .., h⟩
    | cons part' parts =>
      rw [joinWith_cons_cons, List.mem_append, List.mem_append] at h
      rcases h with (h | h) | h
      · exact .inr ⟨part, List.mem_cons_self .., h⟩
      · exact .inl h
      · rcases ih h with h | ⟨part', hpart, hc⟩
        · exact .inl h
        · exact .inr ⟨part', List.mem_cons_of_mem _ hpart, hc⟩

theorem printable_of_mem_quoted {t : Text} {c : Char} (h : c ∈ quoted t) : ' ' ≤ c ∧ c ≤ '~' := by
  rw [quoted, List.mem_append, List.mem_cons, List.mem_singleton] at h
  rcases h with (rfl | h) | rfl
  · decide
  · exact printable_of_mem_escapePoints h
  · decide

theorem printable_of_mem_integerChars {n : Int} {c : Char} (h : c ∈ integerChars n) :
    ' ' ≤ c ∧ c ≤ '~' := by
  have hdigit : ∀ {c : Char}, c ∈ Nat.toDigits 10 n.natAbs → ' ' ≤ c ∧ c ≤ '~' := by
    intro c hc
    have h := isDigit_of_mem_toDigits hc
    simp only [Char.isDigit, Bool.and_eq_true, decide_eq_true_eq] at h
    exact ⟨Char.le_trans (by decide) h.1, Char.le_trans h.2 (by decide)⟩
  unfold integerChars at h
  split at h
  · rcases List.mem_cons.mp h with rfl | h
    · decide
    · exact hdigit h
  · exact hdigit h

/-- The canonical form of a plain value is printable ASCII. -/
theorem Plain.printable_canonical {d : Nat} {v : Json} (h : Plain P d v) {c : Char}
    (hc : c ∈ canonicalChars v) : ' ' ≤ c ∧ c ≤ '~' := by
  induction h generalizing c with
  | null =>
    have hall : ∀ c ∈ "null".toList, ' ' ≤ c ∧ c ≤ '~' := by simp
    exact hall c hc
  | bool b =>
    have hall : ∀ b : Bool, ∀ c ∈ if b then "true".toList else "false".toList,
        ' ' ≤ c ∧ c ≤ '~' := by simp
    exact hall b c hc
  | int h => exact printable_of_mem_integerChars hc
  | text h => exact printable_of_mem_quoted hc
  | @list d items h ih =>
    rw [canonicalChars, canonicalItems_eq_map, List.mem_append, List.mem_cons,
      List.mem_singleton] at hc
    rcases hc with (rfl | hc) | rfl
    · decide
    -- a character between the brackets is a comma or stands in an item
    · rcases mem_joinWith hc with hc | ⟨part, hpart, hc⟩
      · rw [List.mem_singleton.mp hc]
        decide
      · obtain ⟨v, hv, rfl⟩ := List.mem_map.mp hpart
        exact ih v hv hc
    · decide
  | @object d fields hnames hwhole h ih =>
    rw [canonicalChars, canonicalFields_eq_map, List.mem_append, List.mem_cons,
      List.mem_singleton] at hc
    rcases hc with (rfl | hc) | rfl
    · decide
    -- a character between the braces is a comma or stands in a name or a value
    · rcases mem_joinWith hc with hc | ⟨part, hpart, hc⟩
      · rw [List.mem_singleton.mp hc]
        decide
      · obtain ⟨⟨name, cs⟩, hentry, rfl⟩ := List.mem_map.mp hpart
        obtain ⟨f, hf, heq⟩ := List.mem_map.mp (SortedMap.mem_of_mem_ofList hentry)
        cases heq
        rw [fieldChars, List.mem_append, List.mem_append, List.mem_singleton] at hc
        rcases hc with (hc | rfl) | hc
        · exact printable_of_mem_quoted hc
        · decide
        · exact ih f hf hc
    · decide

end Json

end Rewind
