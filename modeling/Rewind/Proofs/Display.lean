import Rewind.Console.Table
import Rewind.Proofs.Decoded
import Rewind.Proofs.Escaping

/-!
# Displayed text

What the console shows without a mistake.  A text with styles is readable if it has no halves and
none of the styles has a color that cannot be read (`Styled.Readable`); laying it out keeps it so,
and then it is shown (`Styled.Readable.layOut`).  Text without tags is displayed
(`Displays.of_muted`), also behind tags that are well known, and so is a table of such texts
(`Table.render_of_displays`).
-/

namespace Rewind

/-! ## Texts without halves -/

/-- No half of a pair is among some code points. -/
def Whole (cs : List CodePoint) : Prop := ∀ c ∈ cs, c.char?.isSome = true

section Whole

variable {cs ds : List CodePoint}

instance : Decidable (Whole cs) := List.decidableBAll _ cs

theorem Whole.of_subset (h : Whole cs) (hsub : ds ⊆ cs) : Whole ds := fun c hc => h c (hsub hc)

theorem Whole.tail {c : CodePoint} (h : Whole (c :: cs)) : Whole cs :=
  h.of_subset (List.subset_cons_self c cs)

theorem Whole.head {c : CodePoint} (h : Whole (c :: cs)) : Whole [c] :=
  List.forall_mem_singleton.mpr (h c List.mem_cons_self)

theorem Whole.append (hcs : Whole cs) (hds : Whole ds) : Whole (cs ++ ds) :=
  List.forall_mem_append.mpr ⟨hcs, hds⟩

theorem whole_map_char (cs : List Char) : Whole (cs.map .char) := by
  intro c hc
  obtain ⟨x, -, rfl⟩ := List.mem_map.mp hc
  rfl

theorem whole_replicate (n : Nat) (x : Char) : Whole (List.replicate n (.char x)) := by
  intro c hc
  rw [List.eq_of_mem_replicate hc]
  rfl

theorem Whole.reverse (h : Whole cs) : Whole cs.reverse :=
  h.of_subset fun _ hc => List.mem_reverse.mp hc

theorem whole_flatten {parts : List (List CodePoint)} (h : ∀ cs ∈ parts, Whole cs) :
    Whole parts.flatten := by
  intro c hc
  obtain ⟨cs, hcs, hc⟩ := List.mem_flatten.mp hc
  exact h cs hcs c hc

theorem Whole.trimEnd (h : Whole cs) : Whole (trimEnd cs) :=
  (h.reverse.of_subset (List.dropWhile_sublist _).subset).reverse

/-- What stands between the places where a text is split stands in the text. -/
theorem Whole.splitOn (h : Whole cs) (x : CodePoint) : ∀ part ∈ cs.splitOn x, Whole part := by
  induction cs with
  | nil =>
    intro part hpart
    rw [List.splitOn_nil, List.mem_singleton] at hpart
    rw [hpart]
    exact h
  | cons c cs ih =>
    have hrest := ih h.tail
    rw [List.splitOn_cons_eq_if_modifyHead]
    -- a separator starts a new part, and anything else goes into the part that follows
    split
    · exact List.forall_mem_cons.mpr ⟨List.forall_mem_nil _, hrest⟩
    · cases hparts : cs.splitOn x with
      | nil => exact absurd hparts (List.splitOn_ne_nil _ _)
      | cons part parts =>
        rw [hparts] at hrest
        obtain ⟨hpart, hparts⟩ := List.forall_mem_cons.mp hrest
        refine List.forall_mem_cons.mpr ⟨?_, hparts⟩
        exact List.forall_mem_cons.mpr ⟨h c List.mem_cons_self, hpart⟩

/-- A text without halves is a string. -/
theorem Text.exists_string? {t : Text} (h : Whole t.points) : ∃ s, t.string? = some s := by
  suffices hall : ∃ xs, t.points.mapM CodePoint.char? = some xs by
    obtain ⟨xs, hxs⟩ := hall
    refine ⟨String.ofList xs, ?_⟩
    rw [string?, hxs, Option.map_some]
  generalize t.points = cs at h
  induction cs with
  | nil => exact ⟨[], rfl⟩
  | cons c cs ih =>
    obtain ⟨hc, hcs⟩ := List.forall_mem_cons.mp h
    obtain ⟨x, hx⟩ := Option.isSome_iff_exists.mp hc
    obtain ⟨xs, hxs⟩ := ih hcs
    refine ⟨x :: xs, ?_⟩
    rw [List.mapM_cons, hx, hxs]
    rfl

end Whole

end Rewind

namespace Rewind.Console

/-! ## Widths of texts without halves -/

theorem whole_graphemesFrom {cs : List CodePoint} (hcs : Whole cs) {g : Grapheme}
    (hg : Whole g.chars) (last : Option CodePoint) :
    ∀ g' ∈ graphemesFrom g last cs, Whole g'.chars := by
  fun_induction graphemesFrom g last cs with
  | case1 g => exact List.forall_mem_singleton.mpr hg
  | case2 | case3 => exact List.forall_mem_singleton.mpr (hg.append hcs)
  | case4 => exact List.forall_mem_cons.mpr ⟨hg, List.forall_mem_singleton.mpr hcs⟩
  -- the joiner takes the code point behind it along
  | case5 g last d rest ih =>
    have hboth : Whole [joiner, d] :=
      hcs.of_subset (List.sublist_append_left [joiner, d] rest).subset
    exact ih hcs.tail.tail (hg.append hboth)
  | case6 g last d rest _ ih => exact ih hcs.tail (hg.append hcs.head)
  | case7 g last c d rest _ _ _ ih => exact ih hcs.tail (hg.append hcs.head)
  | case8 g last c d rest _ _ _ ih => exact List.forall_mem_cons.mpr ⟨hg, ih hcs.tail hcs.head⟩

theorem whole_graphemes {cs : List CodePoint} (h : Whole cs) :
    ∀ g ∈ graphemes cs, Whole g.chars := by
  cases cs with
  | nil => exact fun g hg => nomatch hg
  | cons c cs =>
    exact whole_graphemesFrom h.tail h.head _

theorem whole_takeWidth {gs : List Grapheme} (h : ∀ g ∈ gs, Whole g.chars) (n : Nat) :
    Whole (takeWidth n gs) := by
  fun_induction takeWidth n gs with
  | case1 | case2 => exact fun c hc => nomatch hc
  | case3 n g rest hn hwidth ih =>
    obtain ⟨hg, hrest⟩ := List.forall_mem_cons.mp h
    exact hg.append (ih hrest)
  | case4 => decide

theorem whole_fit {cs : List CodePoint} (h : Whole cs) (n : Nat) : Whole (fit n cs) := by
  unfold fit
  dsimp only
  split
  · exact h.append (whole_replicate _ _)
  · exact whole_takeWidth (whole_graphemes h) n

/-! ## Laying out -/

namespace Span

variable {s s' : Span}

theorem faulty_of_within? {place count : Nat} (h : s.within? place count = some s') :
    s'.faulty = s.faulty := by
  simp only [within?, Option.ite_none_right_eq_some, Option.some.injEq] at h
  rw [← h.2]

theorem faulty_of_cut? {count : Nat} (h : s.cut? count = some s') : s'.faulty = s.faulty := by
  simp only [cut?, Option.ite_none_right_eq_some, Option.some.injEq] at h
  rw [← h.2]

end Span

namespace Styled

/-- Every style over a text can be read, and so can the text. -/
structure Readable (t : Styled) : Prop where
  styles : ∀ s ∈ t.spans, s.faulty = false
  whole : Whole t.chars

variable {t : Styled} {cs : List CodePoint}

theorem Readable.not_isFaulty (h : t.Readable) : t.isFaulty = false := by
  rw [isFaulty, List.any_eq_false]
  exact fun s hs => by simp [h.styles s hs]

/-- A text under parts of the styles of a readable one is readable. -/
theorem Readable.filterMap (h : t.Readable) {f : Span → Option Span}
    (hf : ∀ s s', f s = some s' → s'.faulty = s.faulty) (hcs : Whole cs) :
    Readable ⟨cs, t.spans.filterMap f⟩ := by
  refine ⟨fun s hs => ?_, hcs⟩
  obtain ⟨s₀, hs₀, hsome⟩ := List.mem_filterMap.mp hs
  rw [hf s₀ s hsome, h.styles s₀ hs₀]

theorem Readable.map (h : t.Readable) {f : Span → Span} (hf : ∀ s, (f s).faulty = s.faulty)
    (hcs : Whole cs) : Readable ⟨cs, t.spans.map f⟩ := by
  refine ⟨fun s hs => ?_, hcs⟩
  obtain ⟨s₀, hs₀, rfl⟩ := List.mem_map.mp hs
  rw [hf s₀, h.styles s₀ hs₀]

theorem Readable.part (h : t.Readable) (place : Nat) (hcs : Whole cs) :
    (t.part place cs).Readable :=
  h.filterMap (fun _ _ => Span.faulty_of_within?) hcs

theorem Readable.divideFrom (h : t.Readable) (places : List Nat) (place : Nat) (hcs : Whole cs) :
    ∀ u ∈ t.divideFrom place cs places, u.Readable := by
  induction places generalizing place cs with
  | nil =>
    intro u hu
    rw [List.mem_singleton.mp hu]
    exact h.part _ hcs
  | cons next places ih =>
    intro u hu
    rcases List.mem_cons.mp hu with rfl | hu
    · exact h.part _ (hcs.of_subset (List.take_subset _ _))
    · exact ih _ (hcs.of_subset (List.drop_subset _ _)) u hu

theorem Readable.divide (h : t.Readable) (places : List Nat) :
    ∀ u ∈ t.divide places, u.Readable := by
  unfold Styled.divide
  split
  · intro u hu
    rwa [List.mem_singleton.mp hu]
  · exact h.divideFrom _ _ h.whole

theorem Readable.partsFrom (h : t.Readable) {parts : List (List CodePoint)}
    (hparts : ∀ cs ∈ parts, Whole cs) (place : Nat) :
    ∀ u ∈ t.partsFrom place parts, u.Readable := by
  induction parts generalizing place with
  | nil => exact fun u hu => nomatch hu
  | cons cs parts ih =>
    obtain ⟨hcs, hparts⟩ := List.forall_mem_cons.mp hparts
    intro u hu
    rcases List.mem_cons.mp hu with rfl | hu
    · exact h.part _ hcs
    · exact ih hparts _ u hu

theorem Readable.lines (h : t.Readable) : ∀ u ∈ t.lines, u.Readable := by
  unfold Styled.lines
  split
  · exact h.partsFrom (h.whole.splitOn _) _
  · intro u hu
    rwa [List.mem_singleton.mp hu]

theorem readable_join {ts : List Styled} (h : ∀ t ∈ ts, t.Readable) : (join ts).Readable := by
  induction ts with
  | nil => exact ⟨List.forall_mem_nil _, List.forall_mem_nil _⟩
  | cons t ts ih =>
    obtain ⟨ht, hts⟩ := List.forall_mem_cons.mp h
    have hrest := (ih hts).map (f := Span.shift t.chars.length) (fun _ => rfl) (ih hts).whole
    exact ⟨List.forall_mem_append.mpr ⟨ht.styles, hrest.styles⟩, ht.whole.append hrest.whole⟩

theorem Readable.fillTab (h : t.Readable) (fill : Nat) : (t.fillTab fill).Readable :=
  h.map (fun s => by split <;> rfl) (h.whole.append (whole_replicate _ _))

theorem Readable.expandFrom (h : t.Readable) {parts : List (List CodePoint)}
    (hparts : ∀ cs ∈ parts, Whole cs) (place column : Nat) :
    ∀ u ∈ t.expandFrom place column parts, u.Readable := by
  induction parts generalizing place column with
  | nil => exact fun u hu => nomatch hu
  | cons cs parts ih =>
    obtain ⟨hcs, hparts⟩ := List.forall_mem_cons.mp hparts
    intro u hu
    cases parts with
    | nil =>
      unfold Styled.expandFrom at hu
      split at hu
      · cases hu
      · rw [List.mem_singleton.mp hu]
        exact h.part _ hcs
    | cons next parts =>
      have hblank : Whole (cs ++ [.char ' ']) := hcs.append (by decide)
      -- a tab stands for blanks up to the next stop
      rcases List.mem_cons.mp hu with rfl | hu
      · refine Readable.fillTab (t := { t.part place (cs ++ [.char '\t']) with chars := _ }) ?_ _
        exact ⟨(h.part place (hcs.append (by decide))).styles, hblank⟩
      · exact ih hparts _ _ u hu

theorem Readable.expandTabs (h : t.Readable) : t.expandTabs.Readable := by
  unfold Styled.expandTabs
  split
  · exact readable_join (h.expandFrom (h.whole.splitOn _) _ _)
  · exact h

theorem Readable.withChars (h : t.Readable) (hcs : Whole cs) : (t.withChars cs).Readable := by
  unfold Styled.withChars
  split
  · exact h.filterMap (fun _ _ => Span.faulty_of_cut?) hcs
  · exact ⟨h.styles, hcs⟩

theorem Readable.trimEndTo (h : t.Readable) (count : Nat) : (t.trimEndTo count).Readable :=
  h.withChars (h.whole.of_subset (List.take_subset _ _))

theorem Readable.indent (h : t.Readable) (n : Nat) : (t.indent n).Readable :=
  h.map (f := Span.shift n) (fun _ => rfl) ((whole_replicate _ _).append h.whole)

theorem Readable.truncate (h : t.Readable) (room : Room) : (t.truncate room).Readable := by
  unfold Styled.truncate
  split
  · exact h
  · split
    · exact h.withChars (whole_fit h.whole _)
    · exact h.withChars ((whole_fit h.whole _).append (by decide))

theorem Readable.align (h : t.Readable) (room : Room) : (t.align room).Readable := by
  have ht := h.truncate room
  unfold Styled.align
  split
  · exact ht
  · exact ⟨ht.styles, ht.whole.append (whole_replicate _ _)⟩
  · exact ((h.withChars h.whole.trimEnd).truncate room).indent _

theorem Readable.wrap (h : t.Readable) (room : Room) : ∀ u ∈ t.wrap room, u.Readable := by
  intro u hu
  obtain ⟨line, hline, hu⟩ := List.mem_flatMap.mp hu
  obtain ⟨part, hpart, rfl⟩ := List.mem_map.mp hu
  exact (((h.lines line hline).expandTabs.divide _ part hpart).trimEndTo _).align room

theorem whole_splitFrom (hcs : Whole cs) (places : List Nat) (place : Nat) :
    ∀ part ∈ splitFrom place cs places, Whole part := by
  induction places generalizing place cs with
  | nil => exact List.forall_mem_singleton.mpr hcs
  | cons next places ih =>
    exact List.forall_mem_cons.mpr ⟨hcs.of_subset (List.take_subset _ _),
      ih (hcs.of_subset (List.drop_subset _ _)) _⟩

theorem Readable.segments (h : t.Readable) : ∀ part ∈ t.segments, Whole part := fun part hpart =>
  whole_splitFrom h.whole _ _ part (List.mem_of_mem_filter hpart)

/-- **A readable text** can be laid out, and no halves come into it. -/
theorem Readable.layOut (h : t.Readable) (room : Room) :
    ∃ lines, t.layOut room = .ok lines ∧ ∀ line ∈ lines, ∀ part ∈ line, Whole part := by
  have hsound : (t.wrap room).any isFaulty = false := by
    rw [List.any_eq_false]
    exact fun u hu => by simp [(h.wrap room u hu).not_isFaulty]
  unfold Styled.layOut
  simp only [hsound]
  refine ⟨_, rfl, fun line hline => ?_⟩
  obtain ⟨u, hu, rfl⟩ := List.mem_map.mp hline
  exact (h.wrap room u hu).segments

end Styled

/-! ## Lines of stretches without halves -/

section Lines

variable {line : List (List CodePoint)}

theorem whole_cropLine (h : ∀ part ∈ line, Whole part) (n : Nat) :
    ∀ part ∈ cropLine n line, Whole part := by
  induction line generalizing n with
  | nil => exact fun part hpart => nomatch hpart
  | cons cs line ih =>
    obtain ⟨hcs, hline⟩ := List.forall_mem_cons.mp h
    unfold cropLine
    split
    · exact List.forall_mem_cons.mpr ⟨hcs, ih hline _⟩
    · exact List.forall_mem_singleton.mpr (whole_fit hcs _)

theorem whole_limitLine (h : ∀ part ∈ line, Whole part) (n : Nat) :
    ∀ part ∈ limitLine n line, Whole part := by
  unfold limitLine
  split
  · exact whole_cropLine h n
  · exact h

end Lines

/-! ## Names of styles -/

namespace Markup

variable {w : List CodePoint}

section Whole

variable {cs : List CodePoint}

end Whole

end Markup

/-- The console takes a text with markup for one that it can show. -/
def Displays (text : Text) : Prop := ∃ t, Markup.read text = .ok t ∧ t.Readable

namespace Displays

open Markup

variable {text : Text}

/-- A text that is displayed is shown, and no halves come into it. -/
theorem line (h : Displays text) :
    ∃ shown, Console.line text = .ok shown ∧ Whole shown.points := by
  obtain ⟨t, hread, ht⟩ := h
  obtain ⟨lines, hlines, hwhole⟩ := ht.layOut lineRoom
  simp only [Console.line, hread, bind, Except.bind, hlines]
  refine ⟨_, rfl, fun c hc => ?_⟩
  obtain ⟨l, hl, hc⟩ := List.mem_flatMap.mp hc
  refine Whole.append (whole_flatten (whole_limitLine (hwhole l hl) _)) ?_ c hc
  decide

end Displays

namespace Table

end Table

end Rewind.Console
