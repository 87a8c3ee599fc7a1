import Rewind.Fingerprint
import Rewind.Proofs.Separation
import Rewind.Proofs.TraceText

/-!
# What a canonical form says

Two values without floating point and without halves in their texts have one canonical form exactly
if they differ only in the order of fields, at every depth (`Json.Reordered`), provided that their
integers can be written; else they have none.  The first character tells what kind of value is
written (`Json.Kind.ofChar?`), and values of one kind are told apart part by part
(`Json.Exact.separates`).  The way back puts the fields of each object in one order.
-/

namespace Rewind.Json

/-- A value without floating point, with no halves in its texts, and with every name once in an
object. -/
inductive Exact : Json → Prop
  | null : Exact .null
  | bool (b : Bool) : Exact (.bool b)
  | int (n : Int) : Exact (.int n)
  | text {t : Text} (hwhole : t.isWhole = true) : Exact (.text t)
  | list {items : List Json} (h : ∀ v ∈ items, Exact v) : Exact (.list items)
  | object {fields : List (Text × Json)} (hnames : (fields.map Prod.fst).Nodup)
    (hwhole : ∀ f ∈ fields, f.1.isWhole = true) (h : ∀ f ∈ fields, Exact f.2) :
    Exact (.object fields)

/-- The values are the same but for the order of fields, here and in all values inside. -/
inductive Reordered : Json → Json → Prop
  | null : Reordered .null .null
  | bool (b : Bool) : Reordered (.bool b) (.bool b)
  | int (n : Int) : Reordered (.int n) (.int n)
  | text (t : Text) : Reordered (.text t) (.text t)
  | list {items others : List Json} (hlength : items.length = others.length)
    (h : ∀ p ∈ items.zip others, Reordered p.1 p.2) : Reordered (.list items) (.list others)
  | object {fields others : List (Text × Json)}
    (hnames : (fields.map Prod.fst).Perm (others.map Prod.fst))
    (h : ∀ f ∈ fields, ∀ g ∈ others, f.1 = g.1 → Reordered f.2 g.2) :
    Reordered (.object fields) (.object others)

/-! ## The first character -/

/-- What the first character of a value tells about it. -/
inductive Kind where
  | null
  | bool (b : Bool)
  | number
  | text
  | list
  | object
  deriving DecidableEq, Repr

/-- The kind of a value. -/
def kind : Json → Kind
  | null => .null
  | bool b => .bool b
  | int _ => .number
  | float _ => .number
  | text _ => .text
  | list _ => .list
  | object _ => .object

/-- The kind of value that begins with a character. -/
def Kind.ofChar? (c : Char) : Option Kind :=
  if c = '-' ∨ c.isDigit = true then some .number
  else
    match c with
    | 'n' => some .null
    | 't' => some (.bool true)
    | 'f' => some (.bool false)
    | '"' => some .text
    | '[' => some .list
    | '\x7b' => some .object
    | _ => none

variable {v w : Json} {P : Prop}

/-- The canonical form begins with a character of its kind. -/
theorem Exact.begins (h : v.Exact) :
    ∃ c cs, v.canonicalChars = c :: cs ∧ Kind.ofChar? c = some v.kind := by
  cases h with
  | null => exact ⟨'n', _, rfl, by decide⟩
  | bool b =>
    cases b
    · exact ⟨'f', _, rfl, by decide⟩
    · exact ⟨'t', _, rfl, by decide⟩
  | int n =>
    obtain ⟨c, cs, hcs, hc⟩ := integerChars_eq_cons n
    exact ⟨c, cs, hcs, if_pos hc⟩
  | text hwhole => exact ⟨'"', _, rfl, rfl⟩
  | list h => exact ⟨'[', _, by rw [canonicalChars]; rfl, rfl⟩
  | object hnames hwhole h => exact ⟨'\x7b', _, by rw [canonicalChars]; rfl, rfl⟩

/-- An item does not begin like the end of a list. -/
theorem Exact.begins_item (h : v.Exact) : Begins v.canonicalChars := by
  obtain ⟨c, cs, hcs, hc⟩ := h.begins
  refine ⟨c, cs, hcs, ?_⟩
  rintro rfl
  exact absurd hc (by simp [Kind.ofChar?])

/-- Values of different kinds are told apart at once. -/
theorem Exact.separates_of_kind (hv : v.Exact) (hw : w.Exact)
    (h : v.kind = w.kind → Separates P v.canonicalChars w.canonicalChars) :
    Separates P v.canonicalChars w.canonicalChars := by
  intro r s hr hs heq
  obtain ⟨c, cs, hcs, hc⟩ := hv.begins
  obtain ⟨d, ds, hds, hd⟩ := hw.begins
  have hcd : c = d := by
    rw [hcs, hds] at heq
    exact (List.cons.inj heq).1
  have hkind : v.kind = w.kind := by
    rw [hcd, hd] at hc
    exact (Option.some.inj hc).symm
  exact h hkind r s hr hs heq

/-! ## From the text to the value -/

/-- The same text in front of what goes on. -/
theorem separates_self (hP : P) (x : List Char) : Separates P x x :=
  fun _ _ _ _ heq => ⟨hP, List.append_cancel_left heq⟩

/-- Sorted fields with the same names and with values that are the same but for the order of fields
come from such objects. -/
theorem reordered_of_sorted {fields others : List (Text × Json)}
    (hfields : (fields.map Prod.fst).Nodup) (hothers : (others.map Prod.fst).Nodup)
    (h : List.Forall₂ (SortedMap.SameKey Reordered) (SortedMap.ofList fields).entries
      (SortedMap.ofList others).entries) : Reordered (.object fields) (.object others) := by
  have hperm := SortedMap.perm_entries_ofList hfields
  have hperm' := SortedMap.perm_entries_ofList hothers
  have hkeys : (SortedMap.ofList fields).entries.map Prod.fst =
      (SortedMap.ofList others).entries.map Prod.fst := by
    rw [← List.forall₂_eq_eq_eq, List.forall₂_map_left_iff, List.forall₂_map_right_iff]
    exact h.imp fun _ _ hsame => hsame.1
  refine .object ?_ fun f hf g hg hname => ?_
  · exact ((hperm.map _).symm.trans (.of_eq hkeys)).trans (hperm'.map _)
  · obtain ⟨hlength, hzip⟩ := List.forall₂_iff_zip.mp h
    -- sorted by name, a field of one list meets the field of that name of the other
    have hsorted : f ∈ ((SortedMap.ofList fields).entries.zip
        (SortedMap.ofList others).entries).map Prod.fst := by
      rw [List.map_fst_zip hlength.le]
      exact hperm.mem_iff.mpr hf
    obtain ⟨⟨f, g'⟩, hpair, rfl⟩ := List.mem_map.mp hsorted
    obtain ⟨hname', hsame⟩ := hzip hpair
    have hg' : g' ∈ others := hperm'.mem_iff.mp (List.of_mem_zip hpair).2
    have hgg' : g = g' := List.inj_on_of_nodup_map hothers hg hg' (hname.symm.trans hname')
    rw [hgg']
    exact hsame

/-- Values without floating point are told apart but for the order of fields. -/
theorem Exact.separates (hv : v.Exact) (hw : w.Exact) :
    Separates (v.Reordered w) v.canonicalChars w.canonicalChars := by
  induction hv generalizing w with
  | null =>
    -- the first character tells the kinds apart, so only equal kinds have more to compare
    refine separates_of_kind .null hw fun hkind => ?_
    cases hw with
    | null => exact separates_self .null _
    | _ => nomatch hkind
  | bool b =>
    refine separates_of_kind (.bool b) hw fun hkind => ?_
    cases hw with
    | bool b' =>
      cases hkind
      exact separates_self (.bool b) _
    | _ => nomatch hkind
  | int n =>
    refine separates_of_kind (.int n) hw fun hkind => ?_
    cases hw with
    | int m => exact (separates_integerChars n m).imp fun h => h ▸ .int n
    | _ => nomatch hkind
  | @text s hs =>
    refine separates_of_kind (.text hs) hw fun hkind => ?_
    cases hw with
    | text ht => exact (separates_quoted hs ht).imp fun h => h ▸ .text s
    | _ => nomatch hkind
  | @list items h ih =>
    refine separates_of_kind (.list h) hw fun hkind => ?_
    cases hw with
    | @list others h' =>
      -- an item ends where its text is complete, so the items are told apart one by one
      have hlist := separates_list (f := id) (fun v hv => (h v hv).begins_item)
        (fun w hw => (h' w hw).begins_item) fun v hv w hw => ih v hv (h' w hw)
      rw [List.map_id, List.map_id] at hlist
      refine hlist.imp fun hsame => ?_
      obtain ⟨hlength, hzip⟩ := List.forall₂_iff_zip.mp hsame
      exact .list hlength fun p hp => hzip hp
    | _ => nomatch hkind
  | @object fields hnames hwhole h ih =>
    refine separates_of_kind (.object hnames hwhole h) hw fun hkind => ?_
    cases hw with
    | @object others hnames' hwhole' h' =>
      exact (separates_object hwhole hwhole' fun f hf g hg => ih f hf (h' g hg)).imp
        (reordered_of_sorted hnames hnames')
    | _ => nomatch hkind

/-! ## From the value to the text -/

/-- Lists of the same length with values side by side that `φ` makes the same. -/
theorem map_eq_map_of_zip {α β : Type} {φ : α → β} {xs ys : List α}
    (hlength : xs.length = ys.length) (h : ∀ p ∈ xs.zip ys, φ p.1 = φ p.2) :
    xs.map φ = ys.map φ := by
  rw [← List.forall₂_eq_eq_eq, List.forall₂_map_left_iff, List.forall₂_map_right_iff]
  exact List.forall₂_iff_zip.mpr ⟨hlength, fun hp => h _ hp⟩

/-- Fields with the same names, in any order, and with values under each name that `φ` makes the
same. -/
theorem perm_map_of_names {β : Type} {φ : Json → β} {fields others : List (Text × Json)}
    (hnodup : (fields.map Prod.fst).Nodup)
    (hnames : (fields.map Prod.fst).Perm (others.map Prod.fst))
    (h : ∀ f ∈ fields, ∀ g ∈ others, f.1 = g.1 → φ f.2 = φ g.2) :
    (fields.map fun f => (f.1, φ f.2)).Perm (others.map fun g => (g.1, φ g.2)) := by
  have hnodup' : (others.map Prod.fst).Nodup := hnames.nodup_iff.mp hnodup
  have hdistinct : ∀ {es : List (Text × Json)}, (es.map Prod.fst).Nodup →
      (es.map fun f => (f.1, φ f.2)).Nodup := by
    intro es hes
    refine List.Nodup.of_map Prod.fst ?_
    rwa [List.map_map]
  refine (List.perm_ext_iff_of_nodup (hdistinct hnodup) (hdistinct hnodup')).mpr fun e => ?_
  simp only [List.mem_map]
  constructor
  · rintro ⟨f, hf, rfl⟩
    obtain ⟨g, hg, hname⟩ := List.mem_map.mp (hnames.mem_iff.mp (List.mem_map_of_mem hf))
    exact ⟨g, hg, by rw [h f hf g hg hname.symm, hname]⟩
  · rintro ⟨g, hg, rfl⟩
    obtain ⟨f, hf, hname⟩ := List.mem_map.mp (hnames.mem_iff.mpr (List.mem_map_of_mem hg))
    exact ⟨f, hf, by rw [h f hf g hg hname, hname]⟩

/-- The order of fields is lost in the canonical form. -/
theorem Reordered.canonicalChars_eq (h : v.Reordered w) (hv : v.Exact) :
    v.canonicalChars = w.canonicalChars := by
  induction h with
  | null => rfl
  | bool b => rfl
  | int n => rfl
  | text s => rfl
  | @list items others hlength h ih =>
    cases hv with | list hitems =>
    have hsame : items.map canonicalChars = others.map canonicalChars :=
      map_eq_map_of_zip hlength fun p hp => ih p hp (hitems p.1 (List.of_mem_zip hp).1)
    rw [canonicalChars, canonicalChars, canonicalItems_eq_map, canonicalItems_eq_map, hsame]
  | @object fields others hnames h ih =>
    cases hv with | object hnodup hwhole hfields =>
    -- the same fields in another order, once their values are written
    have hperm := perm_map_of_names hnodup hnames fun f hf g hg hname =>
      ih f hf g hg hname (hfields f hf)
    have hsorted : SortedMap.ofList (canonicalFields fields) =
        SortedMap.ofList (canonicalFields others) := by
      rw [canonicalFields_eq_map, canonicalFields_eq_map]
      refine SortedMap.ofList_of_perm (hperm.trans (SortedMap.perm_entries_ofList ?_).symm)
      rw [List.map_map]
      exact hnames.nodup_iff.mp hnodup
    rw [canonicalChars, canonicalChars, hsorted]

/-- Values that differ in the order of fields are refused alike. -/
theorem Reordered.isWritable_eq (h : v.Reordered w) (hv : v.Exact) :
    v.isWritable = w.isWritable := by
  induction h with
  | null => rfl
  | bool b => rfl
  | int n => rfl
  | text s => rfl
  | @list items others hlength h ih =>
    cases hv with | list hitems =>
    have hsame : items.map isWritable = others.map isWritable :=
      map_eq_map_of_zip hlength fun p hp => ih p hp (hitems p.1 (List.of_mem_zip hp).1)
    have hall := congrArg (List.all · id) hsame
    simpa only [isWritable, itemsWritable_eq_all, List.all_map, Function.id_comp] using hall
  | @object fields others hnames h ih =>
    cases hv with | object hnodup hwhole hfields =>
    have hperm := perm_map_of_names hnodup hnames fun f hf g hg hname =>
      ih f hf g hg hname (hfields f hf)
    have hall := hperm.all_eq (f := Prod.snd)
    simpa only [isWritable, fieldsWritable_eq_all, List.all_map, Function.comp_def] using hall

theorem canonical?_of_writable (h : v.isWritable = true) :
    v.canonical? = some (String.ofList v.canonicalChars) := if_pos h

theorem canonical?_of_not_writable (h : v.isWritable = false) : v.canonical? = none :=
  if_neg (by simp [h])

/-- **The canonical form is canonical and faithful**: two values without floating point, with texts
without halves of any length and at any depth, have a canonical form if their integers can be
written, and it is one text exactly if the values differ only in the order of fields.  A value with
an integer that cannot be written has no canonical form.  Values that differ in the order of fields
have the same canonical form and fingerprint, or have none. -/
theorem canonical_eq_iff (hv : v.Exact) (hw : w.Exact) :
    (v.isWritable = true → w.isWritable = true →
      ∃ s t, v.canonical? = some s ∧ w.canonical? = some t ∧ (s = t ↔ v.Reordered w)) ∧
      (v.isWritable = false → v.canonical? = none) ∧
      (v.Reordered w → v.canonical? = w.canonical? ∧ v.fingerprint? = w.fingerprint?) := by
  have hsame : v.Reordered w → v.canonical? = w.canonical? := by
    intro h
    rw [canonical?, canonical?, h.isWritable_eq hv, h.canonicalChars_eq hv]
  refine ⟨fun hvw hww => ?_, canonical?_of_not_writable, fun h => ⟨hsame h, ?_⟩⟩
  · refine ⟨_, _, canonical?_of_writable hvw, canonical?_of_writable hww, ?_, ?_⟩
    · intro h
      exact (hv.separates hw).of_eq (String.ofList_injective h)
    · intro h
      exact congrArg String.ofList (h.canonicalChars_eq hv)
  · rw [fingerprint?, fingerprint?, hsame h]

/-- Two names that only escapes tell apart: the order of fields does not matter, and to swap what
stands under the names does. -/
theorem canonical_eq_iff_escapes :
    let inner : List (Text × Json) := [("😀", .null), ("\"", .int (-12))]
    let v : Json := .object [("k\n", .list [.object inner]), ("k\\n", .bool true)]
    let w : Json := .object [("k\\n", .bool true), ("k\n", .list [.object inner.reverse])]
    let u : Json := .object [("k\\n", .list [.object inner]), ("k\n", .bool true)]
    (v.Exact ∧ w.Exact ∧ u.Exact) ∧ v.Reordered w ∧ ¬ v.Reordered u := by
  intro inner v w u
  have hinner : ∀ f ∈ inner, Exact f.2 := by
    simp only [inner, List.forall_mem_cons]
    exact ⟨.null, .int _, List.forall_mem_nil _⟩
  have hobject : Exact (.object inner) := .object (by decide) (by decide) hinner
  have hreversed : Exact (.object inner.reverse) :=
    .object (by decide) (by decide) fun f hf => hinner f (List.mem_reverse.mp hf)
  have hlist : ∀ {x : Json}, x.Exact → Exact (.list [x]) :=
    fun hx => .list (List.forall_mem_singleton.mpr hx)
  have hfields : ∀ {name name' : String} {x y : Json}, name ≠ name' → x.Exact → y.Exact →
      Exact (.object [(name, x), (name', y)]) :=
    fun hne hx hy => .object (by simpa using hne) (by simp)
      (List.forall_mem_cons.mpr ⟨hx, List.forall_mem_singleton.mpr hy⟩)
  have hv : v.Exact := hfields (by decide) (hlist hobject) (.bool true)
  have hw : w.Exact := hfields (by decide) (.bool true) (hlist hreversed)
  have hu : u.Exact := hfields (by decide) (hlist hobject) (.bool true)
  obtain ⟨s, t, hs, ht, hst⟩ := (canonical_eq_iff hv hw).1 (by decide +kernel) (by decide +kernel)
  obtain ⟨s', t', hs', ht', hst'⟩ :=
    (canonical_eq_iff hv hu).1 (by decide +kernel) (by decide +kernel)
  refine ⟨⟨hv, hw, hu⟩, hst.mp ?_, fun h => ?_⟩
  · have hsame : v.canonical? = w.canonical? := by decide +kernel
    rw [hs, ht] at hsame
    exact Option.some.inj hsame
  · have hother : v.canonical? ≠ u.canonical? := by decide +kernel
    rw [hs', ht', hst'.mpr h] at hother
    exact hother rfl

/-- An integer of too many digits has no canonical form, and so no fingerprint. -/
theorem canonical_oversized_integer :
    let v : Json := .int Integer.writtenBound
    v.Exact ∧ v.Reordered v ∧ v.canonical? = none ∧ v.fingerprint? = none := by
  intro v
  have htext : v.canonical? = none := canonical?_of_not_writable (by decide +kernel)
  exact ⟨.int _, .int _, htext, by rw [fingerprint?, htext, Option.map_none]⟩

end Rewind.Json
