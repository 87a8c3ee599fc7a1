/-!
# Binary floating point

`Binary64` is the set of 64-bit binary floating point numbers, each finite one kept as a sign and
`mantissa * 2 ^ exponent` with an odd mantissa (or zero), so equal numbers are equal values.
Reading a decimal (`ofDecimal`), sums and products all go through one correctly rounding step,
`round`, that works on exact fractions.  `text` writes the fewest digits that read back as the same
number.
-/

namespace Rewind

/-- A 64-bit binary floating point number. -/
inductive Binary64 where
  | nan
  | infinite (negative : Bool)
  /-- The number `mantissa * 2 ^ exponent`, negated if `negative`. -/
  | finite (negative : Bool) (mantissa : Nat) (exponent : Int)
  deriving DecidableEq, Repr, Inhabited

namespace Binary64

/-- The number zero with a sign. -/
def zero (negative : Bool) : Binary64 := .finite negative 0 0

/-! ## Rounding -/

/-- Moves factors of two from the mantissa to the exponent. -/
def oddPart : Nat → Nat → Int → Nat × Int
  | 0, m, e => (m, e)
  | fuel + 1, m, e => if m % 2 = 0 then oddPart fuel (m / 2) (e + 1) else (m, e)

/-- The number `m * 2 ^ e`, which must have at most 53 significant bits, or infinity from `2 ^ 1024`
on. -/
def ofBits (negative : Bool) (m : Nat) (e : Int) : Binary64 :=
  if m = 0 then zero negative
  else if (Nat.log2 m : Int) + e ≥ 1024 then .infinite negative
  else
    let (m, e) := oddPart (Nat.log2 m) m e
    .finite negative m e

/-- The quotient rounded to the nearest integer, a half to the even neighbour. -/
def roundDiv (num den : Nat) : Nat :=
  let q := num / den
  let r := num % den
  if 2 * r < den then q
  else if 2 * r > den then q + 1
  else if q % 2 = 0 then q else q + 1

/-- `num / den / 2 ^ e` as a fraction. -/
def scaled (num den : Nat) (e : Int) : Nat × Nat :=
  if e ≥ 0 then (num, den * Nat.pow 2 e.toNat) else (num * Nat.pow 2 (-e).toNat, den)

/-- The number nearest to `num / den`; a tie goes to the even mantissa. -/
def round (negative : Bool) (num den : Nat) : Binary64 :=
  if num = 0 then zero negative
  else
    let guess : Int := (Nat.log2 num : Int) - Nat.log2 den - 52
    let (n, d) := scaled num den guess
    let e := if n / d < Nat.pow 2 52 then guess - 1 else guess
    let e := max e (-1074)
    let (n, d) := scaled num den e
    ofBits negative (roundDiv n d) e

/-- The number nearest to an integer. -/
def ofInt (n : Int) : Binary64 := round (n < 0) n.natAbs 1

/-- The number nearest to `mantissa * 10 ^ exponent`. -/
def ofDecimal (negative : Bool) (mantissa : Nat) (exponent : Int) : Binary64 :=
  if mantissa = 0 then zero negative
  else
    let digits : Int := (Nat.toDigits 10 mantissa).length
    if digits + exponent > 400 then .infinite negative
    else if digits + exponent < -400 then zero negative
    else if exponent ≥ 0 then round negative (mantissa * Nat.pow 10 exponent.toNat) 1
    else round negative mantissa (Nat.pow 10 (-exponent).toNat)

/-! ## Arithmetic -/

/-- The number with its sign flipped. -/
def neg : Binary64 → Binary64
  | nan => nan
  | infinite s => infinite !s
  | finite s m e => finite (!s) m e

/-- The number `m * 2 ^ e` for an integer `m`, rounded. -/
def ofScaledInt (m : Int) (e : Int) : Binary64 :=
  if e ≥ 0 then round (m < 0) (m.natAbs * Nat.pow 2 e.toNat) 1
  else round (m < 0) m.natAbs (Nat.pow 2 (-e).toNat)

/-- The exact integer `± m * 2 ^ (e - low)`. -/
def alignedTo (low : Int) (s : Bool) (m : Nat) (e : Int) : Int :=
  let n : Int := m * Nat.pow 2 (e - low).toNat
  if s then -n else n

/-- The rounded sum. -/
def add : Binary64 → Binary64 → Binary64
  | nan, _ | _, nan => nan
  | infinite s, infinite t => if s = t then infinite s else nan
  | infinite s, finite .. | finite .., infinite s => infinite s
  | finite s m e, finite t n f =>
    if m = 0 ∧ n = 0 then zero (s && t)
    else
      let low := min e f
      ofScaledInt (alignedTo low s m e + alignedTo low t n f) low

/-- The rounded product. -/
def mul : Binary64 → Binary64 → Binary64
  | nan, _ | _, nan => nan
  | infinite s, infinite t => infinite (s != t)
  | infinite s, finite t n _ | finite t n _, infinite s => if n = 0 then nan else infinite (s != t)
  | finite s m e, finite t n f =>
    if m = 0 ∨ n = 0 then zero (s != t)
    else
      let p := ofScaledInt (m * n : Nat) (e + f)
      if s != t then p.neg else p

instance : Add Binary64 := ⟨add⟩
instance : Mul Binary64 := ⟨mul⟩
instance : Neg Binary64 := ⟨neg⟩

/-! ## Integers among the numbers -/

/-- Whether the number is neither infinite nor undefined. -/
def isFinite : Binary64 → Bool
  | finite .. => true
  | _ => false

/-- The integer that the number is, if it is one. -/
def toInt? : Binary64 → Option Int
  | finite s m e =>
    if m = 0 then some 0
    else if e ≥ 0 then
      let n : Int := m * Nat.pow 2 e.toNat
      some (if s then -n else n)
    else none
  | _ => none

/-! ## Shortest text -/

/-- The two multiples of `10 ^ p` around `m * 2 ^ e`, the nearer first (a tie takes the even one
first). -/
def neighbours (m : Nat) (e p : Int) : Nat × Nat :=
  let (num, den) := if e ≥ 0 then (m * Nat.pow 2 e.toNat, 1) else (m, Nat.pow 2 (-e).toNat)
  let (num, den) := if p ≥ 0 then (num, den * Nat.pow 10 p.toNat) else (num * Nat.pow 10 (-p).toNat, den)
  let low := num / den
  let near := roundDiv num den
  if near = low then (low, low + 1) else (low + 1, low)

/-- The decimal point position of `m * 2 ^ e`: the `k` with `10 ^ (k - 1) ≤ m * 2 ^ e < 10 ^ k`. -/
def magnitude (m : Nat) (e : Int) : Int :=
  if e ≥ 0 then (Nat.toDigits 10 (m * Nat.pow 2 e.toNat)).length
  else
    let whole := m / Nat.pow 2 (-e).toNat
    if whole ≠ 0 then (Nat.toDigits 10 whole).length
    else
      -- below one: scale by a power of ten that surely makes it large and count again
      let lift : Nat := (-e).toNat
      ((Nat.toDigits 10 (m * Nat.pow 10 lift / Nat.pow 2 (-e).toNat)).length : Int) - lift

/-- The shortest digits that read back as the number, with the power of ten of the last one: `count`
of them, or up to `fuel` more. -/
def shortestFrom (m : Nat) (e : Int) (point : Int) : Nat → Nat → Nat × Int
  | 0, count => ((neighbours m e (point - count)).1, point - count)
  | fuel + 1, count =>
    let p := point - count
    let (near, far) := neighbours m e p
    if ofDecimal false near p = .finite false m e then (near, p)
    else if ofDecimal false far p = .finite false m e then (far, p)
    else shortestFrom m e point fuel (count + 1)

/-- The shortest decimal `digits * 10 ^ power` that reads back as `m * 2 ^ e`. -/
def shortest (m : Nat) (e : Int) : Nat × Int := shortestFrom m e (magnitude m e) 17 1

/-- Removes trailing zeros of a decimal. -/
def trimZeros : Nat → Nat → Int → Nat × Int
  | 0, n, p => (n, p)
  | fuel + 1, n, p => if n ≠ 0 ∧ n % 10 = 0 then trimZeros fuel (n / 10) (p + 1) else (n, p)

/-- The written exponent: a sign and at least two digits. -/
def exponentText (x : Int) : String :=
  let digits := toString x.natAbs
  let digits := if digits.length < 2 then "0" ++ digits else digits
  (if x < 0 then "e-" else "e+") ++ digits

/-- The layout of the decimal `n * 10 ^ p`: positional for a leading digit between `10 ^ -4` and
`10 ^ 15`, always with a digit after the point; otherwise with an exponent. -/
def layout (n : Nat) (p : Int) : String :=
  let digits := toString n
  let lead : Int := digits.length - 1 + p
  if -4 ≤ lead ∧ lead < 16 then
    if p ≥ 0 then digits ++ String.ofList (List.replicate p.toNat '0') ++ ".0"
    else if lead ≥ 0 then
      let whole := lead.toNat + 1
      String.ofList (digits.toList.take whole) ++ "." ++ String.ofList (digits.toList.drop whole)
    else "0." ++ String.ofList (List.replicate (-lead - 1).toNat '0') ++ digits
  else
    let rest := String.ofList (digits.toList.drop 1)
    String.ofList (digits.toList.take 1) ++ (if rest = "" then "" else "." ++ rest) ++ exponentText lead

/-- The written form: the shortest digits that read back. -/
def text : Binary64 → String
  | nan => "nan"
  | infinite s => if s then "-inf" else "inf"
  | finite s m e =>
    let body :=
      if m = 0 then "0.0"
      else
        let (n, p) := shortest m e
        let (n, p) := trimZeros 20 n p
        layout n p
    if s then "-" ++ body else body

end Binary64

end Rewind
