import Rewind.Text.Utf8

/-!
# Well-formed bytes

A character is one to four bytes, the bits of its code point split at every sixth (`Encodes`).
Decoding takes such bytes one character after another (`decodeUtf8?_append`) and nothing else
(`encode_of_decodeUtf8?`), so it undoes the encoding of text, and bytes that it does not take are
those of no text (`decodeUtf8?_eq_some_iff`, `decodeUtf8?_eq_none_iff`).
-/

namespace Rewind

/-- The bytes of a character: a leading byte, which tells how many there are, and the others with six
bits each. -/
inductive Encodes (c : Char) : List UInt8 → Prop
  | one {a : UInt8} (ha : a.toNat = c.toNat) (hc : c.toNat < 0x80) : Encodes c [a]
  | two {a b : UInt8} {x y : Nat} (ha : a.toNat = 0xC0 + x) (hb : b.toNat = 0x80 + y) (hy : y < 64)
    (hc : c.toNat = x * 64 + y) (hlow : 0x80 ≤ c.toNat) (hhigh : c.toNat < 0x800) :
    Encodes c [a, b]
  | three {a b d : UInt8} {x y z : Nat} (ha : a.toNat = 0xE0 + x) (hb : b.toNat = 0x80 + y)
    (hd : d.toNat = 0x80 + z) (hy : y < 64) (hz : z < 64) (hc : c.toNat = (x * 64 + y) * 64 + z)
    (hlow : 0x800 ≤ c.toNat) (hhigh : c.toNat < 0x10000) : Encodes c [a, b, d]
  | four {a b d e : UInt8} {x y z w : Nat} (ha : a.toNat = 0xF0 + x) (hb : b.toNat = 0x80 + y)
    (hd : d.toNat = 0x80 + z) (he : e.toNat = 0x80 + w) (hy : y < 64) (hz : z < 64) (hw : w < 64)
    (hc : c.toNat = ((x * 64 + y) * 64 + z) * 64 + w) (hlow : 0x10000 ≤ c.toNat) :
    Encodes c [a, b, d, e]

theorem Char.toNat_ofNat_of_isValidChar {n : Nat} (h : n.isValidChar) : (Char.ofNat n).toNat = n := by
  unfold Char.ofNat
  rw [dif_pos h]
  rfl

theorem Char.toNat_lt (c : Char) : c.toNat < 0x110000 := by
  have h : c.toNat.isValidChar := c.valid
  unfold Nat.isValidChar at h
  omega

theorem UInt8.eq_ofNat_of_toNat {b : UInt8} {n m : Nat} (h : b.toNat = n) (hm : m = n) :
    b = UInt8.ofNat m := by
  rw [hm, ← h, UInt8.ofNat_toNat]

theorem continuation?_eq_some_iff {b : UInt8} {y : Nat} :
    continuation? b = some y ↔ b.toNat = 0x80 + y ∧ y < 64 := by
  unfold continuation?
  split
  · rw [Option.some.injEq]
    omega
  · constructor
    · intro h
      cases h
    · omega

theorem charBetween?_eq_some_iff {low n : Nat} {c : Char} :
    charBetween? low n = some c ↔ low ≤ n ∧ c.toNat = n := by
  unfold charBetween?
  constructor
  · intro h
    split at h
    · rename_i hn
      cases h
      exact ⟨hn.1, Char.toNat_ofNat_of_isValidChar hn.2⟩
    · cases h
  · rintro ⟨hlow, rfl⟩
    rw [if_pos ⟨hlow, c.valid⟩, Char.ofNat_toNat]

namespace Encodes

variable {c : Char} {bytes rest : List UInt8}

theorem eq_encodeChar (h : Encodes c bytes) : bytes = String.utf8EncodeChar c := by
  have hv : c.val.toNat = c.toNat := rfl
  have hlast := Char.toNat_lt c
  -- one case for every length, each recomputed from the bits that its bytes carry
  cases h with
  | one ha hc =>
    simp only [String.utf8EncodeChar, hv]
    rw [if_pos (by omega), UInt8.eq_ofNat_of_toNat ha rfl]
  | two ha hb hy hc hlow hhigh =>
    simp only [String.utf8EncodeChar, hv]
    rw [if_neg (by omega), if_pos (by omega),
      UInt8.eq_ofNat_of_toNat ha (m := c.toNat / 64 % 32 + 192) (by omega),
      UInt8.eq_ofNat_of_toNat hb (m := c.toNat % 64 + 128) (by omega)]
  | three ha hb hd hy hz hc hlow hhigh =>
    simp only [String.utf8EncodeChar, hv]
    rw [if_neg (by omega), if_neg (by omega), if_pos (by omega),
      UInt8.eq_ofNat_of_toNat ha (m := c.toNat / 4096 % 16 + 224) (by omega),
      UInt8.eq_ofNat_of_toNat hb (m := c.toNat / 64 % 64 + 128) (by omega),
      UInt8.eq_ofNat_of_toNat hd (m := c.toNat % 64 + 128) (by omega)]
  | four ha hb hd he hy hz hw hc hlow =>
    simp only [String.utf8EncodeChar, hv]
    rw [if_neg (by omega), if_neg (by omega), if_neg (by omega),
      UInt8.eq_ofNat_of_toNat ha (m := c.toNat / 262144 % 8 + 240) (by omega),
      UInt8.eq_ofNat_of_toNat hb (m := c.toNat / 4096 % 64 + 128) (by omega),
      UInt8.eq_ofNat_of_toNat hd (m := c.toNat / 64 % 64 + 128) (by omega),
      UInt8.eq_ofNat_of_toNat he (m := c.toNat % 64 + 128) (by omega)]

theorem encodeChar (c : Char) : Encodes c (String.utf8EncodeChar c) := by
  have hv : c.val.toNat = c.toNat := rfl
  have hlast := Char.toNat_lt c
  have hbyte : ∀ {n m : Nat}, n < 256 → n = m → (UInt8.ofNat n).toNat = m := by
    intro n m hn hm
    rw [UInt8.toNat_ofNat', ← hm]
    exact Nat.mod_eq_of_lt hn
  simp only [String.utf8EncodeChar, hv]
  split
  · exact .one (hbyte (by omega) rfl) (by omega)
  split
  · exact .two (x := c.toNat / 64) (y := c.toNat % 64) (hbyte (by omega) (by omega))
      (hbyte (by omega) (by omega)) (by omega) (by omega) (by omega) (by omega)
  split
  · exact .three (x := c.toNat / 4096) (y := c.toNat / 64 % 64) (z := c.toNat % 64)
      (hbyte (by omega) (by omega)) (hbyte (by omega) (by omega)) (hbyte (by omega) (by omega))
      (by omega) (by omega) (by omega) (by omega) (by omega)
  · exact .four (x := c.toNat / 262144) (y := c.toNat / 4096 % 64) (z := c.toNat / 64 % 64)
      (w := c.toNat % 64) (hbyte (by omega) (by omega)) (hbyte (by omega) (by omega))
      (hbyte (by omega) (by omega)) (hbyte (by omega) (by omega)) (by omega) (by omega) (by omega)
      (by omega) (by omega)

end Encodes

/-! ## Decoding -/

/-- Decoding takes the bytes of one character at a time. -/
theorem decodeUtf8?_append {c : Char} {bytes : List UInt8} (h : Encodes c bytes)
    (rest : List UInt8) : decodeUtf8? (bytes ++ rest) = (decodeUtf8? rest).map (c :: ·) := by
  have hlast := Char.toNat_lt c
  cases h with
  | one ha hc =>
    rw [List.singleton_append, decodeUtf8?.eq_def]
    simp only [ha]
    rw [if_pos hc, Char.ofNat_toNat]
  | @two a b x y ha hb hy hc hlow hhigh =>
    have hx : 0xC0 + x - 0xC0 = x := Nat.add_sub_cancel_left ..
    show decodeUtf8? (a :: b :: rest) = _
    rw [decodeUtf8?]
    simp only [ha, continuation?_eq_some_iff.mpr ⟨hb, hy⟩, hx]
    rw [if_neg (by omega), if_neg (by omega), if_pos (by omega), ← hc, Char.ofNat_toNat]
  | @three a b d x y z ha hb hd hy hz hc hlow hhigh =>
    have hx : 0xE0 + x - 0xE0 = x := Nat.add_sub_cancel_left ..
    show decodeUtf8? (a :: b :: d :: rest) = _
    rw [decodeUtf8?]
    simp only [ha, continuation?_eq_some_iff.mpr ⟨hb, hy⟩, continuation?_eq_some_iff.mpr ⟨hd, hz⟩,
      hx, ← hc, charBetween?_eq_some_iff.mpr ⟨hlow, rfl⟩]
    rw [if_neg (by omega), if_neg (by omega), if_neg (by omega), if_pos (by omega)]
  | @four a b d e x y z w ha hb hd he hy hz hw hc hlow =>
    have hx : 0xF0 + x - 0xF0 = x := Nat.add_sub_cancel_left ..
    show decodeUtf8? (a :: b :: d :: e :: rest) = _
    rw [decodeUtf8?]
    simp only [ha, continuation?_eq_some_iff.mpr ⟨hb, hy⟩, continuation?_eq_some_iff.mpr ⟨hd, hz⟩,
      continuation?_eq_some_iff.mpr ⟨he, hw⟩, hx, ← hc, charBetween?_eq_some_iff.mpr ⟨hlow, rfl⟩]
    rw [if_neg (by omega), if_neg (by omega), if_neg (by omega), if_neg (by omega),
      if_pos (by omega)]

theorem decodeUtf8?_encode (cs : List Char) :
    decodeUtf8? (cs.flatMap String.utf8EncodeChar) = some cs := by
  induction cs with
  | nil => rfl
  | cons c cs ih => rw [List.flatMap_cons, decodeUtf8?_append (.encodeChar c), ih, Option.map_some]

/-- What is decoded has been encoded. -/
theorem encode_of_decodeUtf8? {bytes : List UInt8} {cs : List Char}
    (h : decodeUtf8? bytes = some cs) : bytes = cs.flatMap String.utf8EncodeChar := by
  -- a character is put back in front of what the rest encodes
  have hstep : ∀ {c : Char} {first rest : List UInt8} {cs : List Char}, Encodes c first →
      (∀ {cs}, decodeUtf8? rest = some cs → rest = cs.flatMap String.utf8EncodeChar) →
      (decodeUtf8? rest).map (c :: ·) = some cs →
      first ++ rest = cs.flatMap String.utf8EncodeChar := by
    intro c first rest cs hc ih h
    obtain ⟨cs', hrest, rfl⟩ := Option.map_eq_some_iff.mp h
    rw [List.flatMap_cons, ← ih hrest, hc.eq_encodeChar]
  fun_induction decodeUtf8? bytes generalizing cs
  case case1 =>
    cases h
    rfl
  case case2 a rest x hx ih =>
    have hc := Char.toNat_ofNat_of_isValidChar (n := x) (.inl (by omega))
    exact hstep (.one hc.symm (by omega)) ih h
  case case6 a x hx₁ hx₂ b rest y hb hx₃ ih =>
    obtain ⟨hb, hy⟩ := continuation?_eq_some_iff.mp hb
    have hc := Char.toNat_ofNat_of_isValidChar (n := (x - 0xC0) * 64 + y) (.inl (by omega))
    exact hstep (.two (x := x - 0xC0) (by omega) hb hy hc (by omega) (by omega)) ih h
  case case10 a x hx₁ hx₂ b y hb hx₃ d rest z hd hx₄ c hc ih =>
    obtain ⟨hb, hy⟩ := continuation?_eq_some_iff.mp hb
    obtain ⟨hd, hz⟩ := continuation?_eq_some_iff.mp hd
    obtain ⟨hlow, hc⟩ := charBetween?_eq_some_iff.mp hc
    exact hstep (.three (x := x - 0xE0) (by omega) hb hd hy hz hc (by omega) (by omega)) ih h
  case case14 a x hx₁ hx₂ b y hb hx₃ d z hd hx₄ e rest w he hx₅ c hc ih =>
    obtain ⟨hb, hy⟩ := continuation?_eq_some_iff.mp hb
    obtain ⟨hd, hz⟩ := continuation?_eq_some_iff.mp hd
    obtain ⟨he, hw⟩ := continuation?_eq_some_iff.mp he
    obtain ⟨hlow, hc⟩ := charBetween?_eq_some_iff.mp hc
    exact hstep (.four (x := x - 0xF0) (by omega) hb hd he hy hz hw hc (by omega)) ih h
  -- every other case of the decoder gives up
  all_goals cases h

/-- **Decoding undoes encoding**, and takes nothing else. -/
theorem decodeUtf8?_eq_some_iff {bytes : List UInt8} {cs : List Char} :
    decodeUtf8? bytes = some cs ↔ bytes = cs.flatMap String.utf8EncodeChar := by
  constructor
  · exact encode_of_decodeUtf8?
  · rintro rfl
    exact decodeUtf8?_encode cs

theorem decodeUtf8?_eq_none_iff {bytes : List UInt8} :
    decodeUtf8? bytes = none ↔ ∀ cs : List Char, bytes ≠ cs.flatMap String.utf8EncodeChar := by
  rw [Option.eq_none_iff_forall_ne_some]
  exact forall_congr' fun cs => not_congr decodeUtf8?_eq_some_iff

end Rewind
