import Rewind.Json.Reader
import Rewind.Json.Writer
import Rewind.Proofs.Utf8

/-!
# Texts between quotes

A written text is its code points, each as it is, by a letter behind a backslash, or by one or two
16-bit units.  The reader takes these apart one code point at a time (`readChars_pointForm`) and then
joins the halves that make pairs, so it reads back every text from between its quotes, with its own
pairs joined as well (`readText_quoted`).
-/

namespace Rewind

namespace Json

/-- A digit of a 16-bit unit. -/
theorem hexDigit?_digitChar {d : Nat} (h : d < 16) : hexDigit? (Nat.digitChar d) = some d := by
  have hall : ∀ d : Fin 16, hexDigit? (Nat.digitChar d) = some d.val := by decide
  exact hall ⟨d, h⟩

theorem hexUnit?_hexUnit {u : Nat} (h : u < 0x10000) :
    hexUnit? (Nat.digitChar (u / 4096 % 16)) (Nat.digitChar (u / 256 % 16))
      (Nat.digitChar (u / 16 % 16)) (Nat.digitChar (u % 16)) = some u := by
  simp only [hexUnit?, hexDigit?_digitChar (Nat.mod_lt _ (by decide : 0 < 16)), Option.pure_def,
    Option.bind_eq_bind, Option.bind_some, Option.some.injEq]
  omega

/-- The code point of a unit comes in front of what is read behind it. -/
theorem readChars_unitEscape (unread : Nat) {u : Nat} (h : u < 0x10000) (next : Char)
    (rest : List Char) :
    readChars unread (unitEscape u ++ next :: rest) =
      prepend (.ofNat u) (readChars unread (next :: rest)) := by
  show readChars unread ('\\' :: 'u' :: _ :: _ :: _ :: _ :: next :: rest) = _
  rw [readChars]
  simp only [hexUnit?_hexUnit h]
  rfl

/-! ## Units -/

end Json

namespace CodePoint

theorem ofNat_toNat (c : CodePoint) : ofNat c.toNat = c := by
  cases c with
  | char c =>
    have hvalid : c.toNat < 0xD800 ∨ 0xDFFF < c.toNat ∧ c.toNat < 0x110000 := c.valid
    have hchar : ¬ (0xD800 ≤ c.toNat ∧ c.toNat < 0xE000) := by omega
    rw [toNat, ofNat, dif_neg hchar, Char.ofNat_toNat]
  | half n =>
    have hn : 0xD800 ≤ 0xD800 + n.val ∧ 0xD800 + n.val < 0xE000 := by omega
    rw [toNat, ofNat, dif_pos hn]
    simp

/-- The code points of the 16-bit units of a code point: two halves for a character that has more
bits, and otherwise itself. -/
def units : CodePoint → List CodePoint
  | char c =>
    if c.toNat < 0x10000 then [char c]
    else [ofNat (0xD800 + (c.toNat - 0x10000) / 0x400), ofNat (0xDC00 + (c.toNat - 0x10000) % 0x400)]
  | half n => [half n]

theorem units_of_lt {c : CodePoint} (h : c.toNat < 0x10000) : c.units = [c] := by
  cases c with
  | char c => exact if_pos h
  | half n => rfl

/-- The halves of a character with more than 16 bits, of which it is made up again. -/
theorem units_pair {c : Char} (h : 0x10000 ≤ c.toNat) :
    ∃ m n : Fin 2048, units c = [half m, half n] ∧ m < 0x400 ∧ 0x400 ≤ n ∧ joinHalves m n = c := by
  have hlast := Char.toNat_lt c
  -- twenty bits are left, ten for each half
  have hfirst : 0xD800 ≤ 0xD800 + (c.toNat - 0x10000) / 0x400 ∧
      0xD800 + (c.toNat - 0x10000) / 0x400 < 0xE000 := by omega
  have hsecond : 0xD800 ≤ 0xDC00 + (c.toNat - 0x10000) % 0x400 ∧
      0xDC00 + (c.toNat - 0x10000) % 0x400 < 0xE000 := by omega
  refine ⟨⟨0xD800 + (c.toNat - 0x10000) / 0x400 - 0xD800, by omega⟩,
    ⟨0xDC00 + (c.toNat - 0x10000) % 0x400 - 0xD800, by omega⟩, ?_, ?_, ?_, ?_⟩
  · rw [units, if_neg (Nat.not_lt.mpr h), ofNat, ofNat, dif_pos hfirst, dif_pos hsecond]
  · show 0xD800 + (c.toNat - 0x10000) / 0x400 - 0xD800 < 0x400
    omega
  · show 0x400 ≤ 0xDC00 + (c.toNat - 0x10000) % 0x400 - 0xD800
    omega
  · have hsum : 0x10000 + (0xD800 + (c.toNat - 0x10000) / 0x400 - 0xD800) * 0x400 +
        (0xDC00 + (c.toNat - 0x10000) % 0x400 - 0xD800 - 0x400) = c.toNat := by
      omega
    rw [joinHalves, hsum, Char.ofNat_toNat]

end CodePoint

/-- A half stays where no second half follows it. -/
theorem joinPairs_half (m : Fin 2048) {rest : List CodePoint}
    (h : ∀ n tail, rest = .half n :: tail → ¬ 0x400 ≤ n) :
    joinPairs (.half m :: rest) = .half m :: joinPairs rest := by
  match rest with
  | [] => rfl
  | .char _ :: _ => rfl
  | .half n :: tail => rw [joinPairs, if_neg fun hpair => h n tail rfl hpair.2]

/-- The halves of characters are joined again, and others stay as they are. -/
theorem joinPairs_units (cs : List CodePoint) :
    joinPairs (cs.flatMap CodePoint.units) = joinPairs cs := by
  induction cs using joinPairs.induct with
  | case1 m n rest hpair ih =>
    show joinPairs (.half m :: .half n :: rest.flatMap CodePoint.units) = _
    rw [joinPairs, joinPairs, if_pos hpair, if_pos hpair, ih]
  | case2 m n rest hpair ih =>
    show joinPairs (.half m :: .half n :: rest.flatMap CodePoint.units) = _
    rw [joinPairs, joinPairs, if_neg hpair, if_neg hpair, ← ih]
    rfl
  | case3 c rest hne ih =>
    rw [List.flatMap_cons]
    cases c with
    | char c =>
      -- one unit stands for itself, two units are a pair that is joined again
      by_cases hc : c.toNat < 0x10000
      · show joinPairs ((if _ then _ else _) ++ _) = .char c :: joinPairs rest
        rw [if_pos hc, ← ih]
        rfl
      · obtain ⟨m, n, hunits, hm, hn, hjoin⟩ := CodePoint.units_pair (Nat.le_of_not_lt hc)
        rw [hunits]
        show joinPairs (.half m :: .half n :: rest.flatMap CodePoint.units)
          = .char c :: joinPairs rest
        rw [joinPairs, if_pos ⟨hm, hn⟩, hjoin, ih]
    | half m =>
      -- what follows is no half here, so it does not start with a second half in units either
      have hrest : ∀ n tail, rest.flatMap CodePoint.units = .half n :: tail → ¬ 0x400 ≤ n := by
        intro n tail h
        match rest with
        | [] => cases h
        | .half k :: rest => exact absurd rfl (hne m k rest rfl)
        | .char d :: rest =>
          rw [List.flatMap_cons] at h
          by_cases hd : d.toNat < 0x10000
          · rw [CodePoint.units, if_pos hd] at h
            cases h
          · obtain ⟨k, l, hunits, hk, -, -⟩ := CodePoint.units_pair (Nat.le_of_not_lt hd)
            rw [hunits] at h
            cases h
            omega
      show joinPairs (.half m :: rest.flatMap CodePoint.units) = _
      rw [joinPairs_half m hrest, ih]
      exact (joinPairs_half m fun n tail h => absurd h (hne m n tail rfl)).symm
  | case4 => rfl

/-- Characters are no halves of pairs. -/
theorem joinPairs_of_whole {cs : List CodePoint} (h : cs.all (·.char?.isSome) = true) :
    joinPairs cs = cs := by
  induction cs with
  | nil => rfl
  | cons c cs ih =>
    obtain ⟨hc, hcs⟩ : c.char?.isSome = true ∧ cs.all (·.char?.isSome) = true := by
      simpa using h
    cases c with
    | char c => rw [joinPairs.eq_2 _ _ (by simp), ih hcs]
    | half n => cases hc

theorem Text.joined_of_isWhole {t : Text} (h : t.isWhole = true) : t.joined = t :=
  congrArg Text.mk (joinPairs_of_whole h)

namespace Json

/-! ## Forms -/

/-- Puts code points in front of those that have been read. -/
theorem foldr_prepend (cs t : List CodePoint) (rest : List Char) :
    cs.foldr prepend (.ok (t, rest)) = .ok (cs ++ t, rest) := by
  induction cs with
  | nil => rfl
  | cons c cs ih =>
    rw [List.foldr_cons, ih]
    rfl

theorem toNat_lt_of_unescape? {e c : Char} (h : unescape? e = some c) : c.toNat < 0x10000 := by
  unfold unescape? at h
  split at h
  all_goals cases h
  all_goals decide

/-- A letter behind a backslash is read as the character that it stands for. -/
theorem readChars_letter (unread : Nat) {e c : Char} (hu : e ≠ 'u') (h : unescape? e = some c)
    (rest : List Char) :
    readChars unread ('\\' :: e :: rest) = prepend c (readChars unread rest) := by
  rw [readChars.eq_def]
  simp only [Char.reduceEq, if_false, if_true]
  rw [h]

/-- The forms of a code point between quotes. -/
inductive PointForm : CodePoint → List Char → Prop
  /-- A letter behind a backslash. -/
  | letter {c e : Char} (hu : e ≠ 'u') (h : unescape? e = some c) (hlow : ' ' ≤ e)
    (hhigh : e ≤ '~') :
    PointForm (.char c) ['\\', e]
  | self {c : Char} (hquote : c ≠ '"') (hslash : c ≠ '\\') (hlow : ' ' ≤ c) (hhigh : c ≤ '~') :
    PointForm (.char c) [c]
  | unit {c : CodePoint} (h : c.toNat < 0x10000) : PointForm c (unitEscape c.toNat)
  /-- The two halves of a pair. -/
  | pair {c : Char} (h : 0x10000 ≤ c.toNat) : PointForm (.char c)
    (unitEscape (0xD800 + (c.toNat - 0x10000) / 0x400) ++
      unitEscape (0xDC00 + (c.toNat - 0x10000) % 0x400))

theorem pointForm_escapeChar (c : Char) : PointForm (.char c) (escapeChar c) := by
  unfold escapeChar
  by_cases hquote : c = '"'
  · subst hquote
    exact .letter (by decide) rfl (by decide) (by decide)
  by_cases hslash : c = '\\'
  · subst hslash
    exact .letter (by decide) rfl (by decide) (by decide)
  rw [if_neg hquote, if_neg hslash]
  by_cases hprint : ' ' ≤ c ∧ c ≤ '~'
  · rw [if_pos hprint]
    exact .self hquote hslash hprint.1 hprint.2
  rw [if_neg hprint]
  -- the controls that have a letter, and then what is left
  iterate 5
    split
    · rename_i h
      subst h
      exact .letter (by decide) rfl (by decide) (by decide)
  dsimp only
  split
  · rename_i h
    exact .unit (c := .char c) h
  · rename_i h
    exact .pair (Nat.le_of_not_lt h)

theorem pointForm_escapePoint (c : CodePoint) : PointForm c (escapePoint c) := by
  cases c with
  | char c => exact pointForm_escapeChar c
  | half n =>
    refine .unit (c := .half n) ?_
    show 0xD800 + n.val < 0x10000
    omega

/-- **The reader takes a text apart** code point by code point. -/
theorem readChars_pointForm (unread : Nat) {c : CodePoint} {form : List Char}
    (h : PointForm c form) (next : Char) (rest : List Char) :
    readChars unread (form ++ next :: rest) =
      c.units.foldr prepend (readChars unread (next :: rest)) := by
  cases h with
  | @letter c e hu h =>
    rw [CodePoint.units_of_lt (c := .char c) (toNat_lt_of_unescape? h)]
    exact readChars_letter unread hu h _
  | self hquote hslash hlow hhigh =>
    -- a printable character has few bits
    rw [CodePoint.units_of_lt (Nat.lt_of_le_of_lt (Char.le_def.mp hhigh) (by decide)),
      List.singleton_append, readChars.eq_def]
    simp only [hquote, hslash, Char.not_lt.mpr hlow, if_false]
    rfl
  | unit h =>
    rw [readChars_unitEscape unread h, CodePoint.ofNat_toNat, CodePoint.units_of_lt h]
    rfl
  | @pair c h =>
    -- the second escape begins with a backslash, so it is read as any other code point is
    have hlast := Char.toNat_lt c
    obtain ⟨d, ds, hd⟩ : ∃ d ds,
        unitEscape (0xDC00 + (c.toNat - 0x10000) % 0x400) ++ next :: rest = d :: ds := ⟨_, _, rfl⟩
    rw [List.append_assoc, hd, readChars_unitEscape unread (by omega), ← hd,
      readChars_unitEscape unread (by omega), CodePoint.units, if_neg (Nat.not_lt.mpr h)]
    rfl

/-- Between quotes there is printable ASCII only. -/
theorem PointForm.printable {c : CodePoint} {d : Char} {form : List Char} (h : PointForm c form)
    (hd : d ∈ form) : ' ' ≤ d ∧ d ≤ '~' := by
  -- only sixteen digits can be written, so trying them all is enough
  have hdigit : ∀ u : Nat, ' ' ≤ Nat.digitChar (u % 16) ∧ Nat.digitChar (u % 16) ≤ '~' := by
    have hall : ∀ u : Fin 16, ' ' ≤ Nat.digitChar u.val ∧ Nat.digitChar u.val ≤ '~' := by decide
    exact fun u => hall ⟨u % 16, Nat.mod_lt u (by decide)⟩
  have hunit : ∀ u : Nat, d ∈ unitEscape u → ' ' ≤ d ∧ d ≤ '~' := by
    intro u hd
    simp only [unitEscape, hexUnit, List.mem_cons, List.not_mem_nil, or_false] at hd
    rcases hd with rfl | rfl | rfl | rfl | rfl | rfl
    · decide
    · decide
    all_goals exact hdigit _
  cases h with
  | letter hu h hlow hhigh =>
    simp only [List.mem_cons, List.not_mem_nil, or_false] at hd
    rcases hd with rfl | rfl
    · decide
    · exact ⟨hlow, hhigh⟩
  | self hquote hslash hlow hhigh =>
    rw [List.mem_singleton.mp hd]
    exact ⟨hlow, hhigh⟩
  | unit h => exact hunit _ hd
  | pair h => exact (List.mem_append.mp hd).elim (hunit _) (hunit _)

theorem readChars_escapePoints (unread : Nat) (cs : List CodePoint) (rest : List Char) :
    readChars unread (escapePoints cs ++ '"' :: rest) = .ok (cs.flatMap CodePoint.units, rest) := by
  induction cs with
  | nil =>
    rw [escapePoints, List.nil_append, readChars.eq_def]
    rfl
  | cons c cs ih =>
    obtain ⟨d, ds, hd⟩ : ∃ d ds, escapePoints cs ++ '"' :: rest = d :: ds := by
      cases escapePoints cs with
      | nil => exact ⟨_, _, rfl⟩
      | cons d ds => exact ⟨_, _, rfl⟩
    rw [escapePoints, List.append_assoc, hd,
      readChars_pointForm unread (pointForm_escapePoint c), ← hd, ih, foldr_prepend]
    rfl

theorem printable_of_mem_escapePoints {cs : List CodePoint} {d : Char} (h : d ∈ escapePoints cs) :
    ' ' ≤ d ∧ d ≤ '~' := by
  induction cs with
  | nil => cases h
  | cons c cs ih => exact (List.mem_append.mp h).elim (pointForm_escapePoint c).printable ih

/-- **Reading undoes writing** between quotes, but for halves that make a pair: those are read as
the character of the pair. -/
theorem readText_quoted (t : Text) (rest : List Char) :
    readText (escapePoints t.points ++ '"' :: rest) = .ok (t.joined, rest) := by
  unfold readText
  rw [readChars_escapePoints]
  dsimp only
  rw [joinPairs_units]
  rfl

end Json

end Rewind
