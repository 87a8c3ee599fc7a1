import Mathlib.Tactic.Common
import Rewind.Json.Reader
import Rewind.Json.Writer
import Rewind.Text.Integer

/-!
# Written integers

The digits of an integer are read back as the integer where nothing follows that goes on with a
number (`readNumber_integerChars`).  No leading zero is written, so the reader takes all digits, and
they are no more than it reads if the integer is one that is written (`Integer.isWritable`).
-/

namespace Rewind

/-- The bound with the number of digits kept apart, so that nothing computes the power. -/
theorem Integer.writtenBound_eq {k : Nat} (h : Integer.maxDigits = k) :
    Integer.writtenBound = Nat.pow 10 k := by
  delta Integer.writtenBound
  rw [h]

theorem Integer.isWritable_iff {n : Int} {k : Nat} (h : Integer.maxDigits = k) :
    Integer.isWritable n = true ↔ (Nat.toDigits 10 n.natAbs).length ≤ k := by
  have hk : 0 < k := h ▸ by decide
  delta Integer.isWritable
  rw [Integer.writtenBound_eq h, decide_eq_true_eq]
  exact (Nat.length_toDigits_le_iff (by decide) hk).symm

/-- What is written has no more digits than are read. -/
theorem length_toDigits_of_isWritable {n : Int} (h : Integer.isWritable n = true) :
    (Nat.toDigits 10 n.natAbs).length ≤ Integer.maxDigits :=
  (Integer.isWritable_iff rfl).mp h

theorem Integer.forall_isWritable {ns : List Int}
    (h : ∀ n ∈ ns, (Nat.toDigits 10 n.natAbs).length ≤ Integer.maxDigits) :
    ∀ n ∈ ns, Integer.isWritable n = true :=
  fun n hn => (Integer.isWritable_iff rfl).mpr (h n hn)

theorem Integer.isWritable_of_natAbs_le {m n : Int} (hle : m.natAbs ≤ n.natAbs)
    (h : Integer.isWritable n = true) : Integer.isWritable m = true := by
  delta Integer.isWritable at h ⊢
  rw [decide_eq_true_eq] at h ⊢
  exact Nat.lt_of_le_of_lt hle h

theorem isDigit_of_mem_toDigits {n : Nat} {c : Char} (h : c ∈ Nat.toDigits 10 n) :
    c.isDigit = true :=
  Nat.isDigit_of_mem_toDigits (by decide) (by decide) h

/-- A positive number is written without a leading zero. -/
theorem head?_toDigits_ne_zero {n : Nat} (h : 0 < n) : (Nat.toDigits 10 n).head? ≠ some '0' := by
  induction n using Nat.strongRecOn with
  | ind n ih =>
    rw [Nat.toDigits_eq_if (by decide)]
    split
    · rename_i hlt
      have hdigits : ∀ d : Fin 10, 0 < d.val → [Nat.digitChar d.val].head? ≠ some '0' := by decide
      exact hdigits ⟨n, hlt⟩ h
    · rename_i hge
      have hhead := ih (n / 10) (by omega) (by omega)
      cases hdigits : Nat.toDigits 10 (n / 10) with
      | nil => exact absurd hdigits Nat.toDigits_ne_nil
      | cons d ds =>
        rw [hdigits] at hhead
        exact hhead

/-- Written digits start with a zero only if that is all. -/
theorem toDigits_eq_zero_cons {n : Nat} {rest : List Char} (h : Nat.toDigits 10 n = '0' :: rest) :
    rest = [] := by
  rcases Nat.eq_zero_or_pos n with rfl | hn
  · rw [Nat.toDigits_zero] at h
    exact (List.cons.inj h).2.symm
  · have hhead := head?_toDigits_ne_zero hn
    rw [h] at hhead
    exact absurd rfl hhead

namespace Json

/-- Nothing goes on with a number at the start of the text. -/
def EndsNumber (rest : List Char) : Prop :=
  ∀ c, rest.head? = some c → c.isDigit = false ∧ c ≠ '.' ∧ c ≠ 'e' ∧ c ≠ 'E'

theorem span_isDigit {ds rest : List Char} (hds : ∀ c ∈ ds, c.isDigit = true)
    (hrest : EndsNumber rest) :
    (ds ++ rest).takeWhile Char.isDigit = ds ∧ (ds ++ rest).dropWhile Char.isDigit = rest := by
  have hstop : rest.takeWhile Char.isDigit = [] ∧ rest.dropWhile Char.isDigit = rest := by
    cases rest with
    | nil => exact ⟨rfl, rfl⟩
    | cons c rest =>
      have hc := (hrest c rfl).1
      exact ⟨List.takeWhile_cons_of_neg (by simp [hc]), List.dropWhile_cons_of_neg (by simp [hc])⟩
  rw [List.takeWhile_append_of_pos hds, List.dropWhile_append_of_pos hds, hstop.1, hstop.2,
    List.append_nil]
  exact ⟨rfl, rfl⟩

theorem fractionPart_of_endsNumber {rest : List Char} (h : EndsNumber rest) :
    fractionPart rest = ([], rest) := by
  cases rest with
  | nil => rfl
  | cons c rest =>
    have hc := (h c rfl).2.1
    unfold fractionPart
    split
    · rename_i heq
      cases heq
      exact absurd rfl hc
    · rfl

theorem exponentPart_of_endsNumber {rest : List Char} (h : EndsNumber rest) :
    exponentPart rest = (none, rest) := by
  cases rest with
  | nil => rfl
  | cons c rest =>
    obtain ⟨-, -, he, hE⟩ := h c rfl
    unfold exponentPart
    simp only [he, hE, or_self, if_false]

theorem wholePart?_toDigits (n : Nat) {rest : List Char} (h : EndsNumber rest) :
    wholePart? (Nat.toDigits 10 n ++ rest) = some (Nat.toDigits 10 n, rest) := by
  obtain ⟨htake, hdrop⟩ := span_isDigit (fun _ => isDigit_of_mem_toDigits (n := n)) h
  unfold wholePart?
  split
  -- a numeral that begins with a zero is the zero
  · rename_i rest' heq
    cases hdigits : Nat.toDigits 10 n with
    | nil => exact absurd hdigits Nat.toDigits_ne_nil
    | cons d ds =>
      rw [hdigits] at heq
      obtain ⟨rfl, rfl⟩ := List.cons.inj heq
      rw [toDigits_eq_zero_cons hdigits]
      rfl
  · dsimp only
    rw [htake, hdrop, if_neg]
    rw [List.isEmpty_iff]
    exact Nat.toDigits_ne_nil

theorem numeral?_integerChars (n : Int) {rest : List Char} (h : EndsNumber rest) :
    numeral? (integerChars n ++ rest) =
      some (⟨decide (n < 0), Nat.toDigits 10 n.natAbs, [], none⟩, rest) := by
  unfold integerChars numeral?
  by_cases hn : n < 0
  · simp only [hn, if_true, decide_true, List.cons_append, List.head?_cons, List.tail_cons,
      wholePart?_toDigits _ h, Option.pure_def, Option.bind_eq_bind, Option.bind_some,
      fractionPart_of_endsNumber h, exponentPart_of_endsNumber h]
  -- a digit is no sign, so none is taken off
  · have hhead : ¬ (Nat.toDigits 10 n.natAbs ++ rest).head? = some '-' := by
      cases hdigits : Nat.toDigits 10 n.natAbs with
      | nil => exact absurd hdigits Nat.toDigits_ne_nil
      | cons d ds =>
        have hd : d ∈ Nat.toDigits 10 n.natAbs := hdigits ▸ List.mem_cons_self ..
        rintro hhead
        cases hhead
        exact absurd (isDigit_of_mem_toDigits hd) (by decide)
    simp only [hn, if_false, decide_false, hhead, wholePart?_toDigits _ h, Option.pure_def,
      Option.bind_eq_bind, Option.bind_some, fractionPart_of_endsNumber h,
      exponentPart_of_endsNumber h]

theorem signed_natAbs (n : Int) : (if n < 0 then -(n.natAbs : Int) else n.natAbs) = n := by
  split <;> omega

/-- **Reading undoes writing** of integers that are written. -/
theorem readNumber_integerChars {n : Int} (hn : Integer.isWritable n = true) {rest : List Char}
    (h : EndsNumber rest) : readNumber (integerChars n ++ rest) = .ok (.int n, rest) := by
  have hlength : ¬ (Nat.toDigits 10 n.natAbs).length > integerDigits :=
    Nat.not_lt.mpr (length_toDigits_of_isWritable hn)
  have hvalue : Numeral.value ⟨decide (n < 0), Nat.toDigits 10 n.natAbs, [], none⟩ =
      .ok (.int n) := by
    unfold Numeral.value decimal
    simp only [List.isEmpty_nil, Option.isNone_none, Bool.and_self, if_true, hlength, if_false,
      Nat.ofDigitChars_ten_toDigits, decide_eq_true_eq, signed_natAbs]
  unfold readNumber
  rw [numeral?_integerChars n h]
  dsimp only
  rw [hvalue]

end Json

end Rewind
