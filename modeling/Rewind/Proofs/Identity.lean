import Rewind.Fingerprint
import Rewind.Proofs.Separation

/-!
# What a fingerprint identifies

A fingerprint is cut from the hash of a canonical text.  Cells have one if their addresses and values
can be written (`Cells.Writable`).  The cells can be read off that text again
(`Cells.eq_of_canonicalChars_eq`), so cells with one text are the same, whatever they were made from,
and different cells with one fingerprint have texts that collide (`Sha256.Collide`).
-/

namespace Rewind

/-! ## Bytes of a text -/

theorem toList_loop (bytes : ByteArray) (i : Nat) (acc : List UInt8) :
    ByteArray.toList.loop bytes i acc = acc.reverse ++ bytes.data.toList.drop i := by
  induction i, acc using ByteArray.toList.loop.induct bytes with
  | case1 i acc h ih =>
    have hi : i < bytes.data.toList.length := h
    have hget : bytes.get! i = bytes.data.toList[i] := by
      show bytes.data[i]! = _
      rw [getElem!_pos bytes.data i h, Array.getElem_toList]
    rw [ByteArray.toList.loop, if_pos h, ih, List.reverse_cons, List.append_assoc,
      List.singleton_append, List.drop_eq_getElem_cons hi, hget]
  | case2 i acc h =>
    have hi : bytes.data.toList.length ≤ i := Nat.not_lt.mp h
    rw [ByteArray.toList.loop, if_neg h, List.drop_eq_nil_of_le hi, List.append_nil]

/-- Texts with the same bytes are the same. -/
theorem eq_of_bytes_eq {s t : String} (h : s.toUTF8.toList = t.toUTF8.toList) : s = t := by
  rw [ByteArray.toList, ByteArray.toList, toList_loop, toList_loop] at h
  exact String.toByteArray_inj.mp (ByteArray.ext (Array.toList_inj.mp h))

/-- Two different texts whose hashes have the same digits in a fingerprint. -/
def Sha256.Collide (s t : String) : Prop :=
  s.toUTF8.toList ≠ t.toUTF8.toList ∧
    (hash s.toUTF8.toList).text.take 16 = (hash t.toUTF8.toList).text.take 16

theorem Sha256.collide_of_fingerprintOf {s t : String} (h : fingerprintOf s = fingerprintOf t)
    (hne : s ≠ t) : Collide s t :=
  ⟨fun hbytes => hne (eq_of_bytes_eq hbytes), String.ofList_injective h⟩

namespace Cells

/-! ## Reading cells off their text -/

/-- A cell as the pair of its address and its value. -/
def cellJson (e : Int × Int) : Json := .list [.int e.1, .int e.2]

/-- A cell is told apart from another one by its address and its value. -/
theorem separates_cell (e f : Int × Int) :
    Json.Separates (e = f) (cellJson e).canonicalChars (cellJson f).canonicalChars := by
  have hbegins : ∀ n : Int, Json.Begins (Json.int n).canonicalChars := Json.begins_integerChars
  have hpair : Json.Separates (List.Forall₂ (· = ·) [e.1, e.2] [f.1, f.2])
      (cellJson e).canonicalChars (cellJson f).canonicalChars :=
    Json.separates_list (fun n _ => hbegins n) (fun n _ => hbegins n)
      fun m _ n _ => Json.separates_integerChars m n
  refine hpair.imp fun hsame => ?_
  rw [List.forall₂_eq_eq_eq] at hsame
  simpa [Prod.ext_iff] using hsame

/-- Cells with the same canonical text are the same. -/
theorem eq_of_canonicalChars_eq {m n : Cells}
    (h : (toJson m).canonicalChars = (toJson n).canonicalChars) : m = n := by
  have hbegins : ∀ e, Json.Begins (cellJson e).canonicalChars := fun _ => Json.begins_list _
  have hseparates : Json.Separates (List.Forall₂ (· = ·) m.entries n.entries)
      (toJson m).canonicalChars (toJson n).canonicalChars :=
    Json.separates_list (fun e _ => hbegins e) (fun e _ => hbegins e)
      fun e _ f _ => separates_cell e f
  have hentries := hseparates.of_eq h
  rw [List.forall₂_eq_eq_eq] at hentries
  refine SortedMap.ext_get? fun a => ?_
  rw [SortedMap.get?, SortedMap.get?, hentries]

/-! ## Cells with a text -/

/-- No address and no value has more digits than are written. -/
def Writable (cells : Cells) : Prop :=
  ∀ a v, cells.get? a = some v → Integer.isWritable a = true ∧ Integer.isWritable v = true

theorem isWritable_toJson (cells : Cells) : (toJson cells).isWritable = true ↔ Writable cells := by
  have hcells : (toJson cells).isWritable = true ↔
      ∀ e ∈ cells.entries, Integer.isWritable e.1 = true ∧ Integer.isWritable e.2 = true := by
    simp [toJson, Json.isWritable, Json.itemsWritable_eq_all]
  rw [hcells]
  constructor
  · exact fun h a v hv => h (a, v) (SortedMap.mem_entries_iff.mpr hv)
  · exact fun h e he => h e.1 e.2 (SortedMap.mem_entries_iff.mp he)

/-- Cells that cannot be written have neither a text nor a fingerprint. -/
theorem refused_of_not_writable {cells : Cells} (h : ¬ Writable cells) :
    (toJson cells).canonical? = none ∧ fingerprint? cells = none := by
  have htext : (toJson cells).canonical? = none := if_neg (mt (isWritable_toJson cells).mp h)
  exact ⟨htext, by rw [fingerprint?, Json.fingerprint?, htext, Option.map_none]⟩

/-- Cells that can be written have a text, and the fingerprint of that text. -/
theorem text_of_writable {cells : Cells} (h : Writable cells) :
    ∃ s, (toJson cells).canonical? = some s ∧ s.toList = (toJson cells).canonicalChars ∧
      fingerprint? cells = some (fingerprintOf s) := by
  have htext : (toJson cells).canonical? = some (String.ofList (toJson cells).canonicalChars) :=
    if_pos ((isWritable_toJson cells).mpr h)
  exact ⟨_, htext, String.toList_ofList, by rw [fingerprint?, Json.fingerprint?, htext]; rfl⟩

/-- **A fingerprint identifies the cells**, given as lists of addresses and values of which the last
one for an address counts.  If all integers can be written there is a text to be hashed, and it is
the same exactly if the same addresses have the same values; so different cells have one fingerprint
only if their texts collide.  The same cells have the same text and fingerprint, or have none; they
have none if an integer cannot be written. -/
theorem fingerprint_identifies (es fs : List (Int × Int)) :
    let m : Cells := .ofList es
    let n : Cells := .ofList fs
    let same := ∀ a, es.reverse.lookup a = fs.reverse.lookup a
    (Writable m → Writable n →
      ∃ s t, (toJson m).canonical? = some s ∧ (toJson n).canonical? = some t ∧ (s = t ↔ same) ∧
        m.fingerprint? = some (fingerprintOf s) ∧ n.fingerprint? = some (fingerprintOf t) ∧
        (m.fingerprint? = n.fingerprint? → same ∨ Sha256.Collide s t)) ∧
      (same → (toJson m).canonical? = (toJson n).canonical? ∧ m.fingerprint? = n.fingerprint?) ∧
      (¬ Writable m → (toJson m).canonical? = none ∧ m.fingerprint? = none) := by
  intro m n same
  have hsame : same ↔ m = n := SortedMap.ofList_eq_iff.symm
  refine ⟨fun hm hn => ?_, fun h => ?_, refused_of_not_writable⟩
  · obtain ⟨s, htext, hs, hprint⟩ := text_of_writable hm
    obtain ⟨t, htext', ht, hprint'⟩ := text_of_writable hn
    have htexts : s = t ↔ same := by
      rw [hsame]
      constructor
      · intro h
        exact eq_of_canonicalChars_eq (by rw [← hs, ← ht, h])
      · intro h
        rw [h] at htext
        exact Option.some.inj (htext.symm.trans htext')
    refine ⟨s, t, htext, htext', htexts, hprint, hprint', fun h => ?_⟩
    rw [hprint, hprint', Option.some.injEq] at h
    -- one fingerprint for different texts is a collision, and one text is the same cells
    by_cases heq : s = t
    · exact .inl (htexts.mp heq)
    · exact .inr (Sha256.collide_of_fingerprintOf h heq)
  · rw [hsame.mp h]
    exact ⟨rfl, rfl⟩

/-- The same two cells, once with a value that is written over: one text, which is not the one of
other cells. -/
theorem fingerprint_identifies_written_over :
    let m : Cells := .ofList [(5, 2), (-1, 70), (5, 3)]
    let n : Cells := .ofList [(-1, 70), (5, 3)]
    let k : Cells := .ofList [(5, 2), (-1, 70)]
    (toJson m).canonical? = some "[[-1,70],[5,3]]" ∧ m.fingerprint? = n.fingerprint? ∧
      Writable m ∧ Writable k ∧ (toJson m).canonical? ≠ (toJson k).canonical? := by
  intro m n k
  have hm : Writable m := (isWritable_toJson m).mp (by decide +kernel)
  have hk : Writable k := (isWritable_toJson k).mp (by decide +kernel)
  have hsame : ∀ a, [((5 : Int), (2 : Int)), (-1, 70), (5, 3)].reverse.lookup a =
      [((-1 : Int), (70 : Int)), (5, 3)].reverse.lookup a := by
    intro a
    simp only [List.reverse_cons, List.reverse_nil, List.nil_append, List.cons_append,
      List.lookup_cons]
    split
    · rfl
    · split <;> rfl
  refine ⟨by decide +kernel, ((fingerprint_identifies _ _).2.1 hsame).2, hm, hk, fun h => ?_⟩
  obtain ⟨s, t, hs, ht, htexts, -⟩ := (fingerprint_identifies _ _).1 hm hk
  rw [hs, ht, Option.some.injEq] at h
  exact absurd (htexts.mp h 5) (by decide)

/-- Cells with a value of too many digits have no text to be hashed, and no fingerprint. -/
theorem fingerprint_oversized_value :
    let m : Cells := .ofList [(5, Integer.writtenBound)]
    (toJson m).canonical? = none ∧ m.fingerprint? = none := by
  intro m
  have hm : ¬ Writable m := fun h => by
    have hvalue := (h 5 Integer.writtenBound rfl).2
    exact absurd hvalue (by decide +kernel)
  exact refused_of_not_writable hm

end Cells

end Rewind
