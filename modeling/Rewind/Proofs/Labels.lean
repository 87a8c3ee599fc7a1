import Rewind.Proofs.Report

/-!
# Names of addresses

The way back from addresses to labels.  `nameIndex` is the index behind it: the labels are sorted by
name, and the first one of an address is entered (`get?_nameIndex`).  Sorted labels do not depend on
the order in which they are given (`SortedMap.sorted_eq_entries`), so neither does the index, and
the name of an address is the least of its labels.  `Timeline.Names` says what both look-ups answer.
-/

namespace Rewind

/-- The name of every address that labels give one: that of the first label in the order of names.
-/
def nameIndex (labels : List (Text × Int)) : SortedMap Int Text :=
  (labels.mergeSort fun x y => x.1 ≤ y.1).foldl (fun index e => index.insertNew e.2 e.1) .empty

/-- What look-ups in both directions answer about labels. -/
structure Timeline.Names {ι : Type} (t : Timeline ι) (labels : List (Text × Int)) : Prop where
  address : ∀ name a, t.addressOf? name = some a ↔ (name, a) ∈ labels
  nameless : ∀ a, t.nameOf? a = none ↔ ∀ name, (name, a) ∉ labels
  least : ∀ a name, t.nameOf? a = some name ↔
    (name, a) ∈ labels ∧ ∀ other, (other, a) ∈ labels → name ≤ other
  /-- From a label to its address and back to a label leads to none that is greater. -/
  back : ∀ name a, (name, a) ∈ labels →
    ∃ least ≤ name, t.nameOf? a = some least ∧ t.addressOf? least = some a
  indexed : ∀ a, t.nameOf? a = (nameIndex labels).get? a

/-! ## The index -/

namespace SortedMap

/-- Sorted entries with distinct keys are those of their map, in whatever order they are given. -/
theorem sorted_eq_entries {β : Type} {es : List (Text × β)} (h : (es.map Prod.fst).Nodup) :
    (es.mergeSort fun x y => x.1 ≤ y.1) = (ofList es).entries := by
  -- two orderings of the same entries by name are one, since no name stands twice
  have hperm : (es.mergeSort fun x y => x.1 ≤ y.1).Perm (ofList es).entries :=
    (List.mergeSort_perm ..).trans (perm_entries_ofList h).symm
  have hsorted : (es.mergeSort fun x y => x.1 ≤ y.1).Pairwise fun x y => x.1 ≤ y.1 := by
    have hmerge : (es.mergeSort fun x y => x.1 ≤ y.1).Pairwise fun x y =>
        decide (x.1 ≤ y.1) = true := by
      refine List.pairwise_mergeSort (fun x y z hxy hyz => ?_) (fun x y => ?_) es
      · rw [decide_eq_true_eq] at hxy hyz ⊢
        exact Std.le_trans hxy hyz
      · simpa using @Std.le_total Text _ _ x.1 y.1
    exact hmerge.imp of_decide_eq_true
  have hentries : (ofList es).entries.Pairwise fun x y => x.1 ≤ y.1 :=
    (ofList es).ascending.imp fun hxy => Text.le_of_compare_eq_lt hxy
  refine hperm.eq_of_pairwise (fun x y hx hy hxy hyx => ?_) hsorted hentries
  -- entries with the same name are the same entry
  have hname : x.1 = y.1 := Std.le_antisymm hxy hyx
  have hx := mem_entries_iff.mp (hperm.mem_iff.mp hx)
  rw [hname, mem_entries_iff.mp hy, Option.some.injEq] at hx
  exact Prod.ext hname hx.symm

variable {α β : Type} [DecidableEq α] [Ord α] [Std.LawfulEqOrd α] [Std.TransOrd α]

theorem get?_ofList_iff {es : List (α × β)} (h : (es.map Prod.fst).Nodup) {k : α} {v : β} :
    (ofList es).get? k = some v ↔ (k, v) ∈ es := by
  rw [← mem_entries_iff, (perm_entries_ofList h).mem_iff]

end SortedMap

namespace Timeline

variable {ι : Type} {t : Timeline ι} {labels : List (Text × Int)}

/-- The name of an address is the one in the index. -/
theorem get?_nameIndex (hlabels : (labels.map Prod.fst).Nodup) (h : t.labels = .ofList labels)
    (a : Int) : (nameIndex labels).get? a = t.nameOf? a := by
  rw [nameIndex, SortedMap.sorted_eq_entries hlabels, SortedMap.get?_foldl_insertNew,
    SortedMap.get?_empty, Option.none_or, nameOf?, h]

theorem names_of_labels (hlabels : (labels.map Prod.fst).Nodup) (h : t.labels = .ofList labels) :
    t.Names labels := by
  have haddress : ∀ name a, t.addressOf? name = some a ↔ (name, a) ∈ labels := by
    intro name a
    rw [addressOf?, h, SortedMap.get?_ofList_iff hlabels]
  have hnone : ∀ a, t.nameOf? a = none → ∀ name, (name, a) ∉ labels := by
    intro a ha name hname
    exact nameOf?_eq_none ha name ((haddress name a).mpr hname)
  have hsome : ∀ a name, t.nameOf? a = some name →
      (name, a) ∈ labels ∧ ∀ other, (other, a) ∈ labels → name ≤ other := by
    intro a name ha
    obtain ⟨hname, hleast⟩ := nameOf?_eq_some ha
    refine ⟨(haddress name a).mp hname, fun other hother => ?_⟩
    exact hleast other ((haddress other a).mpr hother)
  constructor
  case address => exact haddress
  case nameless =>
    refine fun a => ⟨hnone a, fun hall => ?_⟩
    cases ha : t.nameOf? a with
    | none => rfl
    | some name => exact absurd (hsome a name ha).1 (hall name)
  case least =>
    refine fun a name => ⟨hsome a name, fun ⟨hname, hleast⟩ => ?_⟩
    cases ha : t.nameOf? a with
    | none => exact absurd hname (hnone a ha name)
    | some least =>
      obtain ⟨hmem, hle⟩ := hsome a least ha
      -- two least names are at most one another
      rw [Std.le_antisymm (hleast least hmem) (hle name hname)]
  case back =>
    intro name a hname
    cases ha : t.nameOf? a with
    | none => exact absurd hname (hnone a ha name)
    | some least =>
      obtain ⟨hmem, hle⟩ := hsome a least ha
      exact ⟨least, hle name hname, rfl, (haddress least a).mpr hmem⟩
  case indexed => exact fun a => (get?_nameIndex hlabels h a).symm

/-- Look-ups are answered from the labels alone. -/
theorem Names.eq_of_perm {κ : Type} {u : Timeline κ} {labels' : List (Text × Int)}
    (ht : t.Names labels) (hu : u.Names labels') (h : labels'.Perm labels) :
    (∀ a, u.nameOf? a = t.nameOf? a) ∧ ∀ name, u.addressOf? name = t.addressOf? name := by
  refine ⟨fun a => Option.ext fun name => ?_, fun name => Option.ext fun a => ?_⟩
  · simp only [ht.least, hu.least, h.mem_iff]
  · simp only [ht.address, hu.address, h.mem_iff]

end Timeline

/-! ## All runs -/

namespace Session

variable {ι κ σ τ : Type} [DecidableEq ι] [DecidableEq κ]

theorem labels_run {trace : Trace} {options : Options} {kept : σ} {s₀ : Session ι σ}
    (hstart : start (Timeline.build trace options) kept = .ok s₀) (listeners : Listeners ι σ)
    (calls : List (Call ι)) : (s₀.run listeners calls).timeline.labels = trace.labels := by
  have hlabels := congrArg Timeline.labels
    (outline_run (ready_of_start hstart) calls : (s₀.run listeners calls).timeline.outline = _)
  rw [timeline_of_start hstart] at hlabels
  exact hlabels

/-- **Names of addresses after any run**: an address without a label has none, and the name of any
other is the least of its labels by code points.  Timelines whose labels are the same up to their
order answer alike. -/
theorem run_names {labels : List (Text × Int)} (hlabels : (labels.map Prod.fst).Nodup)
    {trace : Trace} {options : Options} (htrace : trace.labels = .ofList labels) {kept : σ}
    {s₀ : Session ι σ} (hstart : start (Timeline.build trace options) kept = .ok s₀)
    (listeners : Listeners ι σ) (calls : List (Call ι)) :
    (s₀.run listeners calls).timeline.Names labels ∧
      ∀ (labels' : List (Text × Int)) (trace' : Trace) (options' : Options) (kept' : τ)
        (s₀' : Session κ τ) (listeners' : Listeners κ τ) (calls' : List (Call κ)),
        labels'.Perm labels → trace'.labels = .ofList labels' →
        start (Timeline.build trace' options') kept' = .ok s₀' →
          let t := (s₀.run listeners calls).timeline
          let u := (s₀'.run listeners' calls').timeline
          (∀ a, u.nameOf? a = t.nameOf? a) ∧ ∀ name, u.addressOf? name = t.addressOf? name := by
  have hnames := Timeline.names_of_labels hlabels
    ((labels_run hstart listeners calls).trans htrace)
  refine ⟨hnames, ?_⟩
  intro labels' trace' options' kept' s₀' listeners' calls' hperm htrace' hstart'
  have hlabels' := ((hperm.map Prod.fst).nodup_iff).mpr hlabels
  exact hnames.eq_of_perm (Timeline.names_of_labels hlabels'
    ((labels_run hstart' listeners' calls').trans htrace')) hperm

/-- Two labels of one address behind a run, and the same labels the other way round. -/
theorem run_names_aliases :
    let labels : List (Text × Int) := [("b", 1), ("a", 1), ("c", 2)]
    let trace : Trace := { labels := .ofList labels, log := [[⟨1, 0, 5⟩]] }
    let trace' : Trace := { labels := .ofList labels.reverse }
    let options : Options := { checkLog := false }
    ∃ s₀ s₀' : Session Unit Unit, start (Timeline.build trace options) () = .ok s₀ ∧
      start (Timeline.build trace' options) () = .ok s₀' ∧
      let t := (s₀.run (fun _ _ => .done) [.moveTo 1]).timeline
      t.nameOf? 1 = some (Text.ofString "a") ∧ t.nameOf? 5 = none ∧
        s₀'.timeline.nameOf? 1 = t.nameOf? 1 := by
  intro labels trace trace' options
  have hoff : trace.Accepted options ∨ options.checkLog = false := .inr rfl
  have hoff' : trace'.Accepted options ∨ options.checkLog = false := .inr rfl
  obtain ⟨s₀, hstart⟩ := exists_start (ι := Unit) hoff ()
  obtain ⟨s₀', hstart'⟩ := exists_start (ι := Unit) hoff' ()
  have hlabels : (labels.map Prod.fst).Nodup := by decide
  obtain ⟨hnames, hsame⟩ := run_names (κ := Unit) (τ := Unit) hlabels rfl hstart
    (fun _ _ => .done) [.moveTo 1]
  have hleast : ∀ other, (other, 1) ∈ labels → "a" ≤ other := by
    intro other hother
    have hother : other = "b" ∨ other = "a" := by simpa [labels] using hother
    rcases hother with rfl | rfl <;> decide
  refine ⟨s₀, s₀', hstart, hstart', (hnames.least 1 "a").mpr ⟨by decide, hleast⟩, ?_, ?_⟩
  · exact (hnames.nameless 5).mpr (by simp [labels])
  · exact (hsame labels.reverse trace' options () s₀' (fun _ _ => .done) [] labels.reverse_perm rfl
      hstart').1 1

end Session

end Rewind
