import Rewind.Proofs.Numeral
import Rewind.Proofs.Quotation

/-!
# Spellings of JSON values

`Json.Spells depth v cs` says that `cs` is a written form of `v` with lists and objects in it down
to a depth: the grammar of JSON, with blanks wherever they may stand, for values with exact numbers
and one value for each name.  Halves that are written one after the other spell the character of
their pair.  A reader with that depth reads the value back and leaves what follows it
(`readValue_of_spells`), so a text that spells a value holds that value (`ofText_of_spells`), in
whatever layout.
-/

namespace Rewind.Json

/-- Nothing but blanks. -/
def Blanks (cs : List Char) : Prop := ∀ c ∈ cs, isBlank c = true

mutual

/-- A written form of a value. -/
inductive Spells : Nat → Json → List Char → Prop
  | null {d : Nat} : Spells d .null "null".toList
  | bool {d : Nat} (b : Bool) : Spells d (.bool b) (if b then "true".toList else "false".toList)
  | int {d : Nat} {n : Int} (h : Integer.isWritable n = true) : Spells d (.int n) (integerChars n)
  | text {d : Nat} (t : Text) : Spells d (.text t.joined) (quoted t)
  | emptyList {d : Nat} {b : List Char} (hb : Blanks b) :
    Spells (d + 1) (.list []) ('[' :: (b ++ [']']))
  | list {d : Nat} {b cs : List Char} {items : List Json} (hb : Blanks b)
    (h : SpellsItems d items cs) : Spells (d + 1) (.list items) ('[' :: (b ++ cs))
  | emptyObject {d : Nat} {b : List Char} (hb : Blanks b) :
    Spells (d + 1) (.object []) ('\x7b' :: (b ++ ['\x7d']))
  | object {d : Nat} {b cs : List Char} {fields : List (Text × Json)} (hb : Blanks b)
    (hnames : (fields.map Prod.fst).Nodup) (h : SpellsFields d fields cs) :
    Spells (d + 1) (.object fields) ('\x7b' :: (b ++ cs))

/-- A written form of the items of a list, with the bracket behind them. -/
inductive SpellsItems : Nat → List Json → List Char → Prop
  | last {d : Nat} {v : Json} {cs b : List Char} (h : Spells d v cs) (hb : Blanks b) :
    SpellsItems d [v] (cs ++ (b ++ [']']))
  | more {d : Nat} {v : Json} {items : List Json} {cs b b' more : List Char} (h : Spells d v cs)
    (hb : Blanks b) (hb' : Blanks b') (hmore : SpellsItems d items more) :
    SpellsItems d (v :: items) (cs ++ (b ++ ',' :: (b' ++ more)))

/-- A written form of the fields of an object, with the brace behind them. -/
inductive SpellsFields : Nat → List (Text × Json) → List Char → Prop
  | last {d : Nat} {name : Text} {v : Json} {cs b₁ b₂ b₃ : List Char} (h : Spells d v cs)
    (hb₁ : Blanks b₁) (hb₂ : Blanks b₂) (hb₃ : Blanks b₃) :
    SpellsFields d [(name.joined, v)]
      (quoted name ++ (b₁ ++ ':' :: (b₂ ++ (cs ++ (b₃ ++ ['\x7d'])))))
  | more {d : Nat} {name : Text} {v : Json} {fields : List (Text × Json)}
    {cs b₁ b₂ b₃ b₄ more : List Char} (h : Spells d v cs) (hb₁ : Blanks b₁) (hb₂ : Blanks b₂)
    (hb₃ : Blanks b₃) (hb₄ : Blanks b₄) (hmore : SpellsFields d fields more) :
    SpellsFields d ((name.joined, v) :: fields)
      (quoted name ++ (b₁ ++ ':' :: (b₂ ++ (cs ++ (b₃ ++ ',' :: (b₄ ++ more))))))

end

/-! ## Blanks -/

theorem blanks_nil : Blanks [] := fun _ h => nomatch h

theorem skipBlanks_append {b : List Char} (hb : Blanks b) (cs : List Char) :
    skipBlanks (b ++ cs) = skipBlanks cs :=
  List.dropWhile_append_of_pos hb

theorem skipBlanks_of_head {c : Char} (hc : isBlank c = false) (cs : List Char) :
    skipBlanks (c :: cs) = c :: cs :=
  List.dropWhile_cons_of_neg (by simp [hc])

theorem skipBlanks_append_cons {b : List Char} (hb : Blanks b) {c : Char} (hc : isBlank c = false)
    (cs : List Char) : skipBlanks (b ++ c :: cs) = c :: cs := by
  rw [skipBlanks_append hb, skipBlanks_of_head hc]

theorem endsNumber_nil : EndsNumber [] := fun _ h => nomatch h

theorem endsNumber_cons {c : Char} (hc : c.isDigit = false ∧ c ≠ '.' ∧ c ≠ 'e' ∧ c ≠ 'E')
    (rest : List Char) : EndsNumber (c :: rest) := by
  rintro d ⟨⟩
  exact hc

/-- Over blanks no number goes on. -/
theorem EndsNumber.behind_blanks {b rest : List Char} (hb : Blanks b) (h : EndsNumber rest) :
    EndsNumber (b ++ rest) := by
  cases b with
  | nil => exact h
  | cons c b =>
    have hblank := hb c (List.mem_cons_self ..)
    simp only [isBlank, Bool.or_eq_true, decide_eq_true_eq] at hblank
    rcases hblank with ((rfl | rfl) | rfl) | rfl <;> exact endsNumber_cons (by decide) _

/-! ## The first character -/

/-- The character with which a value starts: no blank, and nothing that could stand where a value
could but is none. -/
def StartsValue (c : Char) : Prop := isBlank c = false ∧ c ≠ ']' ∧ c ≠ '\uFEFF'

theorem integerChars_eq_cons (n : Int) :
    ∃ c cs, integerChars n = c :: cs ∧ (c = '-' ∨ c.isDigit = true) := by
  unfold integerChars
  split
  · exact ⟨_, _, rfl, .inl rfl⟩
  · cases h : Nat.toDigits 10 n.natAbs with
    | nil => exact absurd h Nat.toDigits_ne_nil
    | cons d ds => exact ⟨d, ds, rfl, .inr (isDigit_of_mem_toDigits (h ▸ List.mem_cons_self ..))⟩

theorem startsValue_of_isDigit {c : Char} (h : c.isDigit = true) : StartsValue c := by
  have hne : ∀ d : Char, d.isDigit = false → c ≠ d := by
    rintro d hd rfl
    rw [h] at hd
    cases hd
  refine ⟨?_, hne _ (by decide), hne _ (by decide)⟩
  simp only [isBlank, Bool.or_eq_false_iff, decide_eq_false_iff_not]
  exact ⟨⟨⟨hne _ (by decide), hne _ (by decide)⟩, hne _ (by decide)⟩, hne _ (by decide)⟩

theorem Spells.eq_cons {d : Nat} {v : Json} {cs : List Char} (h : Spells d v cs) :
    ∃ c rest, cs = c :: rest ∧ StartsValue c := by
  cases h with
  | null => exact ⟨'n', _, rfl, by decide, by decide, by decide⟩
  | bool b =>
    cases b with
    | false => exact ⟨'f', _, rfl, by decide, by decide, by decide⟩
    | true => exact ⟨'t', _, rfl, by decide, by decide, by decide⟩
  | @int _ n h =>
    obtain ⟨c, rest, hcs, rfl | hc⟩ := integerChars_eq_cons n
    · exact ⟨'-', rest, hcs, by decide, by decide, by decide⟩
    · exact ⟨c, rest, hcs, startsValue_of_isDigit hc⟩
  | text t => exact ⟨'"', _, rfl, by decide, by decide, by decide⟩
  | emptyList hb => exact ⟨'[', _, rfl, by decide, by decide, by decide⟩
  | list hb h => exact ⟨'[', _, rfl, by decide, by decide, by decide⟩
  | emptyObject hb => exact ⟨'\x7b', _, rfl, by decide, by decide, by decide⟩
  | object hb hnames h => exact ⟨'\x7b', _, rfl, by decide, by decide, by decide⟩

theorem Spells.skipBlanks {d : Nat} {v : Json} {cs : List Char} (h : Spells d v cs)
    (rest : List Char) : skipBlanks (cs ++ rest) = cs ++ rest := by
  obtain ⟨c, cs, rfl, hc⟩ := h.eq_cons
  exact skipBlanks_of_head hc.1 _

theorem SpellsItems.eq_cons {d : Nat} {items : List Json} {cs : List Char}
    (h : SpellsItems d items cs) : ∃ c rest, cs = c :: rest ∧ StartsValue c := by
  cases h with
  | last h hb | more h hb hb' hmore =>
    obtain ⟨c, cs, rfl, hc⟩ := h.eq_cons
    exact ⟨c, _, rfl, hc⟩

theorem SpellsItems.skipBlanks {d : Nat} {items : List Json} {cs : List Char}
    (h : SpellsItems d items cs) (rest : List Char) :
    skipBlanks (cs ++ rest) = cs ++ rest := by
  obtain ⟨c, cs, rfl, hc⟩ := h.eq_cons
  exact skipBlanks_of_head hc.1 _

theorem SpellsFields.eq_cons {d : Nat} {fields : List (Text × Json)} {cs : List Char}
    (h : SpellsFields d fields cs) : ∃ rest, cs = '"' :: rest := by
  cases h with
  | last h hb₁ hb₂ hb₃ => exact ⟨_, rfl⟩
  | more h hb₁ hb₂ hb₃ hb₄ hmore => exact ⟨_, rfl⟩

theorem SpellsFields.skipBlanks {d : Nat} {fields : List (Text × Json)} {cs : List Char}
    (h : SpellsFields d fields cs) (rest : List Char) :
    skipBlanks (cs ++ rest) = cs ++ rest := by
  obtain ⟨cs, rfl⟩ := h.eq_cons
  exact skipBlanks_of_head (by decide) _

/-! ## Reading -/

/-- A number is none of the words. -/
theorem word?_integerChars (n : Int) (rest : List Char) :
    word? (integerChars n ++ rest) = none := by
  have hne : ∀ {c d : Char}, c.isDigit = true → d.isDigit = false → (d == c) = false := by
    rintro c d hc hd
    refine beq_false_of_ne ?_
    rintro rfl
    rw [hc] at hd
    cases hd
  -- no word begins with a digit, and the one word with a sign goes on with a letter
  cases hdigits : Nat.toDigits 10 n.natAbs with
  | nil => exact absurd hdigits Nat.toDigits_ne_nil
  | cons d ds =>
    have hd : d.isDigit = true := isDigit_of_mem_toDigits (hdigits ▸ List.mem_cons_self ..)
    unfold integerChars
    rw [hdigits]
    split
    · simp [word?, words, List.isPrefixOf, hne hd (by decide : 'I'.isDigit = false)]
    · simp [word?, words, List.isPrefixOf, hne hd (by decide : 'n'.isDigit = false),
        hne hd (by decide : 't'.isDigit = false), hne hd (by decide : 'f'.isDigit = false),
        hne hd (by decide : 'N'.isDigit = false), hne hd (by decide : 'I'.isDigit = false),
        hne hd (by decide : '-'.isDigit = false)]

/-- The first character of a number is none that opens a text, a list or an object. -/
theorem readValue_int (d fuel : Nat) {n : Int} (h : Integer.isWritable n = true) {rest : List Char}
    (hrest : EndsNumber rest) :
    readValue d (fuel + 1) (integerChars n ++ rest) = .ok (.int n, rest) := by
  have hread := readNumber_integerChars h hrest
  have hword := word?_integerChars n rest
  obtain ⟨c, cs, hcs, hc⟩ := integerChars_eq_cons n
  rw [hcs, List.cons_append] at hread hword ⊢
  rw [readValue]
  · rw [hword]
    exact hread
  all_goals
    intro _ heq
    cases heq
    rcases hc with hc | hc <;> exact absurd hc (by decide)

theorem readValue_text (d fuel : Nat) (t : Text) (rest : List Char) :
    readValue d (fuel + 1) (quoted t ++ rest) = .ok (.text t.joined, rest) := by
  have h : quoted t ++ rest = '"' :: (escapePoints t.points ++ '"' :: rest) := by
    simp [quoted]
  rw [h, readValue, readText_quoted]

/-- Setting names one after the other that are all new puts them behind what is there. -/
theorem foldl_setField {fields : List (Text × Json)} :
    ∀ {acc : List (Text × Json)}, ((acc ++ fields).map Prod.fst).Nodup →
      fields.foldl (fun acc f => setField f.1 f.2 acc) acc = acc ++ fields := by
  have hnew : ∀ {name : Text} {v : Json} {acc : List (Text × Json)},
      name ∉ acc.map Prod.fst → setField name v acc = acc ++ [(name, v)] := by
    intro name v acc hname
    induction acc with
    | nil => rfl
    | cons f acc ih =>
      rw [List.map_cons, List.mem_cons, not_or] at hname
      simp [setField, Ne.symm hname.1, ih hname.2]
  induction fields with
  | nil => simp
  | cons f fields ih =>
    intro acc h
    -- names are all different, so no field written is replaced later
    have hf : f.1 ∉ acc.map Prod.fst := by
      rw [List.map_append, List.map_cons] at h
      exact fun hmem => (List.nodup_append.mp h).2.2 _ hmem _ (List.mem_cons_self ..) rfl
    rw [List.foldl_cons, hnew hf, ih (by simpa using h)]
    simp

theorem ofFields_of_nodup {fields : List (Text × Json)} (h : (fields.map Prod.fst).Nodup) :
    ofFields fields = .object fields := by
  rw [ofFields, foldl_setField (by simpa using h), List.nil_append]

/-! A written form is read with as much fuel as it has characters: each call of the reader goes on
behind a character that it has read, or hands a part to the next that is shorter by its closing
mark. -/

mutual

/-- Reading a written form, with anything behind it that does not go on with a number, gives the
value and leaves what is behind. -/
theorem readValue_of_spells {d : Nat} {v : Json} {cs : List Char} (h : Spells d v cs) {fuel : Nat}
    (hfuel : cs.length ≤ fuel) {rest : List Char} (hrest : EndsNumber rest) :
    readValue d fuel (cs ++ rest) = .ok (v, rest) := by
  -- the bound on the length pays for the call that reads the first character
  have hpos : 0 < cs.length := by
    obtain ⟨c, more, rfl, -⟩ := h.eq_cons
    exact Nat.zero_lt_succ _
  obtain ⟨fuel, rfl⟩ : ∃ k, fuel = k + 1 := ⟨fuel - 1, by omega⟩
  cases h with
  | null => rfl
  | bool b => cases b <;> rfl
  | int h => exact readValue_int d fuel h hrest
  | text t => exact readValue_text d fuel t rest
  | @emptyList d b hb =>
    rw [List.cons_append, readValue, if_neg (Nat.succ_ne_zero d), List.append_assoc,
      skipBlanks_append hb]
    rfl
  | @list d b cs items hb h =>
    have hitems : readItems d fuel (cs ++ rest) = .ok (items, rest) :=
      readItems_of_spells h (by simp at hfuel; omega) rest
    have hskip : skipBlanks (b ++ cs ++ rest) = cs ++ rest := by
      rw [List.append_assoc, skipBlanks_append hb, h.skipBlanks]
    obtain ⟨c, more, rfl, hc⟩ := h.eq_cons
    rw [List.cons_append] at hskip hitems
    rw [List.cons_append, readValue, if_neg (Nat.succ_ne_zero d), hskip]
    -- a value does not begin with the bracket that would end the list
    split
    · rename_i heq
      exact absurd (List.cons.inj heq).1 hc.2.1
    · rw [Nat.add_sub_cancel, hitems]
  | @emptyObject d b hb =>
    rw [List.cons_append, readValue, if_neg (Nat.succ_ne_zero d), List.append_assoc,
      skipBlanks_append hb]
    rfl
  | @object d b cs fields hb hnames h =>
    have hfields : readFields d fuel (cs ++ rest) = .ok (fields, rest) :=
      readFields_of_spells h (by simp at hfuel; omega) rest
    have hskip : skipBlanks (b ++ cs ++ rest) = cs ++ rest := by
      rw [List.append_assoc, skipBlanks_append hb, h.skipBlanks]
    obtain ⟨more, rfl⟩ := h.eq_cons
    rw [List.cons_append] at hskip hfields
    rw [List.cons_append, readValue, if_neg (Nat.succ_ne_zero d), hskip]
    split
    · rename_i heq
      exact absurd (List.cons.inj heq).1 (by decide)
    · rw [Nat.add_sub_cancel, hfields]
      exact congrArg (fun v => Except.ok (v, rest)) (ofFields_of_nodup hnames)

/-- Reading the written items of a list gives them. -/
theorem readItems_of_spells {d : Nat} {items : List Json} {cs : List Char}
    (h : SpellsItems d items cs) {fuel : Nat} (hfuel : cs.length ≤ fuel) (rest : List Char) :
    readItems d fuel (cs ++ rest) = .ok (items, rest) := by
  cases h with
  | @last d v cs b h hb =>
    obtain ⟨fuel, rfl⟩ : ∃ k, fuel = k + 1 := ⟨fuel - 1, by simp at hfuel; omega⟩
    have hv : readValue d fuel (cs ++ (b ++ ']' :: rest)) = .ok (v, b ++ ']' :: rest) :=
      readValue_of_spells h (by simp at hfuel; omega)
        -- a number would read on, so what follows it matters
        ((endsNumber_cons (by decide) rest).behind_blanks hb)
    have hskip := skipBlanks_append_cons (c := ']') hb (by decide) rest
    simp only [List.append_assoc, List.cons_append, List.nil_append]
    rw [readItems, hv]
    simp only [hskip]
  | @more d v items cs b b' more h hb hb' hmore =>
    obtain ⟨fuel, rfl⟩ : ∃ k, fuel = k + 1 := ⟨fuel - 1, by simp at hfuel; omega⟩
    have hv : readValue d fuel (cs ++ (b ++ ',' :: (b' ++ (more ++ rest))))
        = .ok (v, b ++ ',' :: (b' ++ (more ++ rest))) :=
      readValue_of_spells h (by simp at hfuel; omega)
        ((endsNumber_cons (by decide) _).behind_blanks hb)
    have hitems : readItems d fuel (more ++ rest) = .ok (items, rest) :=
      readItems_of_spells hmore (by simp at hfuel; omega) rest
    have hskip := skipBlanks_append_cons (c := ',') hb (by decide) (b' ++ (more ++ rest))
    simp only [List.append_assoc, List.cons_append]
    rw [readItems, hv]
    simp only [hskip, skipBlanks_append hb', hmore.skipBlanks, hitems]

/-- Reading the written fields of an object gives them. -/
theorem readFields_of_spells {d : Nat} {fields : List (Text × Json)} {cs : List Char}
    (h : SpellsFields d fields cs) {fuel : Nat} (hfuel : cs.length ≤ fuel) (rest : List Char) :
    readFields d fuel (cs ++ rest) = .ok (fields, rest) := by
  -- an opening quote is what a field is recognised by
  have hquoted : ∀ (name : Text) (more : List Char),
      quoted name ++ more = '"' :: (escapePoints name.points ++ '"' :: more) := by
    simp [quoted]
  cases h with
  | @last d name v cs b₁ b₂ b₃ h hb₁ hb₂ hb₃ =>
    obtain ⟨fuel, rfl⟩ : ∃ k, fuel = k + 1 := ⟨fuel - 1, by simp at hfuel; omega⟩
    have hv : readValue d fuel (cs ++ (b₃ ++ '\x7d' :: rest)) = .ok (v, b₃ ++ '\x7d' :: rest) :=
      readValue_of_spells h (by simp at hfuel; omega)
        ((endsNumber_cons (by decide) rest).behind_blanks hb₃)
    have hcolon := skipBlanks_append_cons (c := ':') hb₁ (by decide)
      (b₂ ++ (cs ++ (b₃ ++ '\x7d' :: rest)))
    have hend := skipBlanks_append_cons (c := '\x7d') hb₃ (by decide) rest
    simp only [List.append_assoc, List.cons_append, List.nil_append, hquoted]
    rw [readFields, readText_quoted]
    simp only [hcolon, skipBlanks_append hb₂, h.skipBlanks, hv, hend]
  | @more d name v fields cs b₁ b₂ b₃ b₄ more h hb₁ hb₂ hb₃ hb₄ hmore =>
    obtain ⟨fuel, rfl⟩ : ∃ k, fuel = k + 1 := ⟨fuel - 1, by simp at hfuel; omega⟩
    have hv : readValue d fuel (cs ++ (b₃ ++ ',' :: (b₄ ++ (more ++ rest))))
        = .ok (v, b₃ ++ ',' :: (b₄ ++ (more ++ rest))) :=
      readValue_of_spells h (by simp at hfuel; omega)
        ((endsNumber_cons (by decide) _).behind_blanks hb₃)
    have hfields : readFields d fuel (more ++ rest) = .ok (fields, rest) :=
      readFields_of_spells hmore (by simp at hfuel; omega) rest
    have hcolon := skipBlanks_append_cons (c := ':') hb₁ (by decide)
      (b₂ ++ (cs ++ (b₃ ++ ',' :: (b₄ ++ (more ++ rest)))))
    have hcomma := skipBlanks_append_cons (c := ',') hb₃ (by decide) (b₄ ++ (more ++ rest))
    simp only [List.append_assoc, List.cons_append, hquoted]
    rw [readFields, readText_quoted]
    simp only [hcolon, skipBlanks_append hb₂, h.skipBlanks, hv, hcomma, skipBlanks_append hb₄,
      hmore.skipBlanks, hfields]

end

/-! ## Whole texts -/

/-- A text that spells a value, with blanks around it, holds that value. -/
theorem ofText_of_spells {d : Nat} {v : Json} {cs before behind : List Char} (h : Spells d v cs)
    (hbefore : Blanks before) (hbehind : Blanks behind) {text : String}
    (htext : text.toList = before ++ (cs ++ behind)) : ofText d text = .ok v := by
  obtain ⟨c, more, hcs, hc⟩ := h.eq_cons
  -- neither a blank nor a value begins with the mark
  have hmark : (before ++ (cs ++ behind)).head? ≠ some '\uFEFF' := by
    cases before with
    | nil =>
      rw [hcs]
      exact fun heq => hc.2.2 (Option.some.inj heq)
    | cons b before =>
      rintro heq
      cases heq
      exact absurd (hbefore _ (List.mem_cons_self ..)) (by decide)
  have hnumber : EndsNumber behind := by
    simpa using endsNumber_nil.behind_blanks hbehind
  have hread : readWhole d (before ++ (cs ++ behind)) = .ok v := by
    have hv : readValue d (2 * (before ++ (cs ++ behind)).length + 2) (cs ++ behind)
        = .ok (v, behind) :=
      readValue_of_spells h (by simp; omega) hnumber
    have hend : skipBlanks behind = [] := by
      rw [← List.append_nil behind, skipBlanks_append hbehind]
      rfl
    rw [readWhole, if_neg hmark, skipBlanks_append hbefore, h.skipBlanks, hv]
    simp only [hend]
  rw [ofText, htext, hread]

end Rewind.Json
