import Rewind.Proofs.Layout

/-!
# Telling written forms apart

Where one written form ends and the next begins.  `Separates P x y` says that texts which begin with
`x` and with `y`, and do not go on with a number behind them, are the same only if `P` holds and the
same is behind both.  Integers and quoted texts of any length, without halves, are told apart so
(`separates_integerChars`, `separates_quoted`), and lists and objects are if what is in them is
(`separates_list`, `separates_object`): a comma or a bracket ends an item, and no item begins with a
bracket that closes.
-/

namespace Rewind.Json

/-- Texts that begin with `x` and `y`, and end there or go on with something that belongs to no
number, are the same only if `P` holds and they go on alike. -/
def Separates (P : Prop) (x y : List Char) : Prop :=
  ∀ r s, EndsNumber r → EndsNumber s → x ++ r = y ++ s → P ∧ r = s

variable {P Q : Prop} {x y : List Char}

theorem Separates.imp (h : Separates P x y) (hPQ : P → Q) : Separates Q x y := by
  intro r s hr hs heq
  obtain ⟨hP, hrs⟩ := h r s hr hs heq
  exact ⟨hPQ hP, hrs⟩

/-- Texts that are told apart say that `P` holds if they are the same. -/
theorem Separates.of_eq (h : Separates P x y) (heq : x = y) : P :=
  (h [] [] endsNumber_nil endsNumber_nil (by rw [heq])).1

/-! ## Integers -/

theorem separates_integerChars (m n : Int) :
    Separates (m = n) (integerChars m) (integerChars n) := by
  intro r s hr hs heq
  have hread := numeral?_integerChars m hr
  rw [heq, numeral?_integerChars n hs, Option.some.injEq, Prod.mk.injEq, Numeral.mk.injEq,
    decide_eq_decide] at hread
  obtain ⟨⟨hsign, hdigits, -, -⟩, hrest⟩ := hread
  have habs : n.natAbs = m.natAbs := by
    have hvalue := congrArg (Nat.ofDigitChars 10 · 0) hdigits
    simpa only [Nat.ofDigitChars_ten_toDigits] using hvalue
  refine ⟨?_, hrest.symm⟩
  rw [← signed_natAbs m, ← signed_natAbs n, habs]
  simp only [hsign]

/-! ## Lists -/

/-- The text begins with a character that does not close a list. -/
def Begins (x : List Char) : Prop := ∃ c cs, x = c :: cs ∧ c ≠ ']'

theorem begins_integerChars (n : Int) : Begins (integerChars n) := by
  obtain ⟨c, cs, hcs, rfl | hc⟩ := integerChars_eq_cons n
  · exact ⟨'-', cs, hcs, by decide⟩
  · exact ⟨c, cs, hcs, (startsValue_of_isDigit hc).2.1⟩

theorem begins_list (items : List Json) : Begins (canonicalChars (.list items)) := by
  rw [canonicalChars]
  exact ⟨'[', _, rfl, by decide⟩

theorem joinWith_comma (part : List Char) (parts : List (List Char)) :
    joinWith [','] (part :: parts) = part ++ parts.flatMap (',' :: ·) := by
  induction parts generalizing part with
  | nil => simp [joinWith]
  | cons part' parts ih =>
    rw [joinWith_cons_cons, ih, List.flatMap_cons, List.append_assoc]
    rfl

/-- The character closes a list or an object. -/
def Closes (c : Char) : Prop := c = ']' ∨ c = '\x7d'

theorem Closes.ne_comma {c : Char} (h : Closes c) : ',' ≠ c := by
  rcases h with rfl | rfl <;> decide

theorem Closes.endsNumber {c : Char} (h : Closes c) (rest : List Char) :
    EndsNumber (c :: rest) := by
  rcases h with rfl | rfl <;> exact endsNumber_cons (by decide) rest

section Parts

variable {α : Type} {write : α → List Char} {R : α → α → Prop} {closing : Char}

section Closing

variable (hclosing : Closes closing)
include hclosing

theorem endsNumber_parts (xs : List α) (r : List Char) :
    EndsNumber ((xs.map write).flatMap (',' :: ·) ++ closing :: r) := by
  cases xs with
  | nil => exact hclosing.endsNumber r
  | cons x xs => exact endsNumber_cons (by decide) _

/-- Items behind commas, up to the bracket, are told apart one by one. -/
theorem forall₂_of_parts {xs ys : List α}
    (h : ∀ x ∈ xs, ∀ y ∈ ys, Separates (R x y) (write x) (write y)) {r s : List Char}
    (heq : (xs.map write).flatMap (',' :: ·) ++ closing :: r =
      (ys.map write).flatMap (',' :: ·) ++ closing :: s) : List.Forall₂ R xs ys ∧ r = s := by
  induction xs generalizing ys with
  | nil =>
    -- a list that has ended shows the closing bracket where the other one has a comma
    cases ys with
    | nil => exact ⟨.nil, (List.cons.inj heq).2⟩
    | cons y ys => exact absurd (List.cons.inj heq).1.symm hclosing.ne_comma
  | cons x xs ih =>
    cases ys with
    | nil => exact absurd (List.cons.inj heq).1 hclosing.ne_comma
    | cons y ys =>
      simp only [List.map_cons, List.flatMap_cons, List.cons_append, List.append_assoc] at heq
      obtain ⟨hxy, hrest⟩ := h x (List.mem_cons_self ..) y (List.mem_cons_self ..) _ _
        (endsNumber_parts hclosing xs r) (endsNumber_parts hclosing ys s) (List.cons.inj heq).2
      obtain ⟨hitems, hrs⟩ := ih (fun x hx y hy => h x (List.mem_cons_of_mem _ hx) y
        (List.mem_cons_of_mem _ hy)) hrest
      exact ⟨.cons hxy hitems, hrs⟩

/-- Items up to the bracket are told apart one by one. -/
theorem forall₂_of_joinWith {xs ys : List α}
    (hxs : ∀ x ∈ xs, ∃ c cs, write x = c :: cs ∧ c ≠ closing)
    (hys : ∀ y ∈ ys, ∃ c cs, write y = c :: cs ∧ c ≠ closing)
    (h : ∀ x ∈ xs, ∀ y ∈ ys, Separates (R x y) (write x) (write y)) {r s : List Char}
    (heq : joinWith [','] (xs.map write) ++ closing :: r =
      joinWith [','] (ys.map write) ++ closing :: s) :
    List.Forall₂ R xs ys ∧ r = s := by
  -- the first item is not behind a comma, and no item begins with the bracket
  have hfirst : ∀ {x : List Char} (more r s : List Char), (∃ c cs, x = c :: cs ∧ c ≠ closing) →
      x ++ more ++ closing :: r ≠ closing :: s := by
    rintro x more r s ⟨c, cs, rfl, hc⟩ hclose
    exact hc (List.cons.inj hclose).1
  cases xs with
  | nil =>
    cases ys with
    | nil => exact ⟨.nil, (List.cons.inj heq).2⟩
    | cons y ys =>
      rw [List.map_cons, joinWith_comma] at heq
      exact absurd heq.symm (hfirst _ _ _ (hys y (List.mem_cons_self ..)))
  | cons x xs =>
    cases ys with
    | nil =>
      rw [List.map_cons, joinWith_comma] at heq
      exact absurd heq (hfirst _ _ _ (hxs x (List.mem_cons_self ..)))
    | cons y ys =>
      rw [List.map_cons, List.map_cons, joinWith_comma, joinWith_comma, List.append_assoc,
        List.append_assoc] at heq
      obtain ⟨hxy, hrest⟩ := h x (List.mem_cons_self ..) y (List.mem_cons_self ..) _ _
        (endsNumber_parts hclosing xs r) (endsNumber_parts hclosing ys s) heq
      obtain ⟨hitems, hrs⟩ := forall₂_of_parts hclosing (fun x hx y hy =>
        h x (List.mem_cons_of_mem _ hx) y (List.mem_cons_of_mem _ hy)) hrest
      exact ⟨.cons hxy hitems, hrs⟩

end Closing

/-- Lists of values written from `f` are told apart if the values are. -/
theorem separates_list {f : α → Json} {as bs : List α}
    (has : ∀ a ∈ as, Begins (f a).canonicalChars) (hbs : ∀ b ∈ bs, Begins (f b).canonicalChars)
    (h : ∀ a ∈ as, ∀ b ∈ bs, Separates (R a b) (f a).canonicalChars (f b).canonicalChars) :
    Separates (List.Forall₂ R as bs) (canonicalChars (.list (as.map f)))
      (canonicalChars (.list (bs.map f))) := by
  intro r s _ _ heq
  have hchars : ∀ (as : List α) (rest : List Char), canonicalChars (.list (as.map f)) ++ rest =
      '[' :: (joinWith [','] (as.map fun a => (f a).canonicalChars) ++ ']' :: rest) := by
    intro as rest
    rw [canonicalChars, canonicalItems_eq_map, List.map_map, List.cons_append, List.cons_append,
      List.append_assoc]
    rfl
  rw [hchars, hchars] at heq
  exact forall₂_of_joinWith (.inl rfl) has hbs h (List.cons.inj heq).2

end Parts

/-! ## Texts and objects -/

theorem separates_quoted {s t : Text} (hs : s.isWhole = true) (ht : t.isWhole = true) :
    Separates (s = t) (quoted s) (quoted t) := by
  intro r r' _ _ heq
  have hchars : ∀ (s : Text) (rest : List Char),
      quoted s ++ rest = '"' :: (escapePoints s.points ++ '"' :: rest) := by
    intro s rest
    simp [quoted]
  rw [hchars, hchars] at heq
  have hread := congrArg readText (List.cons.inj heq).2
  rw [readText_quoted, readText_quoted, Text.joined_of_isWhole hs, Text.joined_of_isWhole ht]
    at hread
  simpa using hread

/-- Sorting by name does not look at what is written. -/
theorem entries_canonicalFields (fields : List (Text × Json)) :
    (SortedMap.ofList (canonicalFields fields)).entries =
      (SortedMap.ofList fields).entries.map fun f => (f.1, f.2.canonicalChars) := by
  have hsame : List.Forall₂ (SortedMap.SameKey fun v cs => cs = canonicalChars v)
      (SortedMap.ofList fields).entries (SortedMap.ofList (canonicalFields fields)).entries := by
    rw [canonicalFields_eq_map]
    exact SortedMap.forall₂_ofList
      (List.forall₂_map_right_iff.mpr (List.forall₂_same.mpr fun f _ => ⟨rfl, rfl⟩))
  symm
  rw [← List.forall₂_eq_eq_eq, List.forall₂_map_left_iff]
  exact hsame.imp fun f part ⟨hname, hvalue⟩ => Prod.ext hname hvalue.symm

/-- A field is told apart by its name and its value. -/
theorem separates_field {f g : Text × Json} (hf : f.1.isWhole = true) (hg : g.1.isWhole = true)
    (h : Separates Q f.2.canonicalChars g.2.canonicalChars) :
    Separates (f.1 = g.1 ∧ Q) (fieldChars [':'] (f.1, f.2.canonicalChars))
      (fieldChars [':'] (g.1, g.2.canonicalChars)) := by
  intro r s hr hs heq
  simp only [fieldChars, List.append_assoc, List.singleton_append] at heq
  obtain ⟨hname, hrest⟩ := separates_quoted hf hg _ _ (endsNumber_cons (by decide) _)
    (endsNumber_cons (by decide) _) heq
  obtain ⟨hQ, hrs⟩ := h r s hr hs (List.cons.inj hrest).2
  exact ⟨⟨hname, hQ⟩, hrs⟩

/-- Objects are told apart by their sorted fields if the values in them are. -/
theorem separates_object {R : Json → Json → Prop} {fields others : List (Text × Json)}
    (hfields : ∀ f ∈ fields, f.1.isWhole = true) (hothers : ∀ g ∈ others, g.1.isWhole = true)
    (h : ∀ f ∈ fields, ∀ g ∈ others, Separates (R f.2 g.2) f.2.canonicalChars g.2.canonicalChars) :
    Separates (List.Forall₂ (SortedMap.SameKey R) (SortedMap.ofList fields).entries
      (SortedMap.ofList others).entries) (canonicalChars (.object fields))
      (canonicalChars (.object others)) := by
  intro r s _ _ heq
  have hchars : ∀ (fields : List (Text × Json)) (rest : List Char),
      canonicalChars (.object fields) ++ rest =
        '\x7b' :: (joinWith [','] ((SortedMap.ofList fields).entries.map fun f =>
          fieldChars [':'] (f.1, f.2.canonicalChars)) ++ '\x7d' :: rest) := by
    intro fields rest
    rw [canonicalChars, entries_canonicalFields, List.map_map]
    simp [Function.comp_def]
  -- a field begins with a quote, so it is not taken for the end of the object
  have hbegins : ∀ f : Text × Json, ∃ c cs,
      fieldChars [':'] (f.1, f.2.canonicalChars) = c :: cs ∧ c ≠ '\x7d' :=
    fun _ => ⟨'"', _, rfl, by decide⟩
  rw [hchars, hchars] at heq
  refine forall₂_of_joinWith (.inr rfl) (fun f _ => hbegins f) (fun g _ => hbegins g)
    (fun f hf g hg => ?_) (List.cons.inj heq).2
  have hf' := SortedMap.mem_of_mem_ofList hf
  have hg' := SortedMap.mem_of_mem_ofList hg
  exact separates_field (hfields f hf') (hothers g hg') (h f hf' g hg')

end Rewind.Json
