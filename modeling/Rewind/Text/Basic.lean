/-!
# Texts

A text is a row of code points.  Most code points are characters; the others are the halves of which
two, a first and a second one, stand for a character beyond 16 bits.  No file in UTF-8 holds a half,
but an escape may name one, and a half without its partner then stays in the text.

A text without halves is whole, and the same as a string (`Text.string?`).  Texts are ordered by
their code points.
-/

namespace Rewind

/-! ## Code points -/

/-- A code point: a character, or a half of a pair. -/
inductive CodePoint where
  | char (c : Char)
  /-- The half with the given number among all of them; the first halves are those below 1024. -/
  | half (n : Fin 2048)
  deriving DecidableEq, Repr

namespace CodePoint

instance : Inhabited CodePoint := ⟨char 'A'⟩

instance : Coe Char CodePoint := ⟨char⟩

/-- The number of a code point. -/
def toNat : CodePoint → Nat
  | char c => c.toNat
  | half n => 0xD800 + n

/-- The code point with a number. -/
def ofNat (n : Nat) : CodePoint :=
  if h : 0xD800 ≤ n ∧ n < 0xE000 then half ⟨n - 0xD800, by omega⟩ else char (Char.ofNat n)

/-- The character that a code point is. -/
def char? : CodePoint → Option Char
  | char c => some c
  | half _ => none

/-- Whether a code point is a character of a class. -/
def isIn (p : Char → Bool) : CodePoint → Bool
  | char c => p c
  | half _ => false

theorem toNat_injective {c d : CodePoint} (h : c.toNat = d.toNat) : c = d := by
  have hchar (c : Char) (n : Fin 2048) : c.toNat ≠ 0xD800 + n := by
    have hvalid : c.toNat < 0xD800 ∨ 0xDFFF < c.toNat ∧ c.toNat < 0x110000 := c.valid
    omega
  cases c with
  | char c =>
    cases d with
    | char d => exact congrArg char (Char.toNat_inj.mp h)
    | half n => exact absurd h (hchar c n)
  | half n =>
    cases d with
    | char d => exact absurd h.symm (hchar d n)
    | half m => exact congrArg half (Fin.ext (Nat.add_left_cancel h))

instance : Ord CodePoint := ⟨compareOn toNat⟩

instance : Std.TransOrd CodePoint := inferInstanceAs (Std.TransCmp (compareOn toNat))

instance : Std.LawfulEqOrd CodePoint where
  eq_of_compare {c d} (h : compare c.toNat d.toNat = .eq) :=
    toNat_injective (Std.LawfulEqCmp.eq_of_compare h)

end CodePoint

/-- The code points of a string. -/
def pointsOf (s : String) : List CodePoint := s.toList.map .char

/-- The character that two halves stand for. -/
def joinHalves (first second : Fin 2048) : Char :=
  Char.ofNat (0x10000 + first * 0x400 + (second - 0x400))

/-- The code points with one character in the place of a first half and a second half behind it. -/
def joinPairs : List CodePoint → List CodePoint
  | .half m :: .half n :: rest =>
    if m < 0x400 ∧ 0x400 ≤ n then .char (joinHalves m n) :: joinPairs rest
    else .half m :: joinPairs (.half n :: rest)
  | c :: rest => c :: joinPairs rest
  | [] => []

/-! ## Texts -/

/-- A row of code points. -/
structure Text where
  points : List CodePoint
  deriving DecidableEq, Repr, Inhabited

namespace Text

/-- A string as a text. -/
def ofString (s : String) : Text := ⟨pointsOf s⟩

instance : Coe String Text := ⟨ofString⟩

instance : Append Text := ⟨fun s t => ⟨s.points ++ t.points⟩⟩

/-- Whether there are no code points. -/
def isEmpty (t : Text) : Bool := t.points.isEmpty

/-- The string that a text is, unless there is a half in it. -/
def string? (t : Text) : Option String := (t.points.mapM CodePoint.char?).map String.ofList

/-- Whether there is no half in a text. -/
def isWhole (t : Text) : Bool := t.points.all (·.char?.isSome)

/-- The text with one character in the place of two halves that make a pair. -/
def joined (t : Text) : Text := ⟨joinPairs t.points⟩

/-- The string with three replacement characters for every half. -/
def lossy (t : Text) : String :=
  String.ofList (t.points.flatMap fun c => (c.char?.map ([·])).getD (.replicate 3 '\uFFFD'))

theorem mapM_char?_pointsOf (cs : List Char) :
    (cs.map CodePoint.char).mapM CodePoint.char? = some cs := by
  induction cs with
  | nil => rfl
  | cons c cs ih =>
    rw [List.map_cons, List.mapM_cons, ih]
    rfl

@[simp] theorem string?_ofString (s : String) : (ofString s).string? = some s := by
  rw [string?, ofString, pointsOf, mapM_char?_pointsOf, Option.map_some, String.ofList_toList]

@[simp] theorem isWhole_ofString (s : String) : (ofString s).isWhole = true := by
  simp [isWhole, ofString, pointsOf, CodePoint.char?]

@[simp] theorem ofString_inj {s t : String} : ofString s = ofString t ↔ s = t := by
  refine ⟨fun h => ?_, congrArg ofString⟩
  have hstring := congrArg string? h
  rwa [string?_ofString, string?_ofString, Option.some.injEq] at hstring

instance : Ord Text := ⟨compareOn points⟩

instance : Std.TransOrd Text := inferInstanceAs (Std.TransCmp (compareOn points))

instance : Std.LawfulEqOrd Text where
  eq_of_compare {s t} (h : compare s.points t.points = .eq) := by
    cases s
    exact congrArg mk (Std.LawfulEqCmp.eq_of_compare h)

instance : LE Text := leOfOrd

instance (s t : Text) : Decidable (s ≤ t) := inferInstanceAs (Decidable ((compare s t).isLE = true))

instance : Std.IsLinearOrder Text := .of_ord

theorem le_of_compare_eq_lt {s t : Text} (h : compare s t = .lt) : s ≤ t := by
  show (compare s t).isLE = true
  rw [h]
  rfl

end Text

end Rewind
