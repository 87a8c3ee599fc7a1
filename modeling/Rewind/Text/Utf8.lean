/-!
# UTF-8

Text from bytes.  `decodeUtf8?` takes well-formed UTF-8 only: shortest forms, no surrogates, nothing
above U+10FFFF.
-/

namespace Rewind

/-- The last six bits of a continuation byte. -/
def continuation? (b : UInt8) : Option Nat :=
  if 0x80 ≤ b.toNat ∧ b.toNat < 0xC0 then some (b.toNat - 0x80) else none

/-- A character with a code point in the given range. -/
def charBetween? (low : Nat) (n : Nat) : Option Char :=
  if low ≤ n ∧ n.isValidChar then some (Char.ofNat n) else none

/-- The text that bytes encode, if they are well-formed. -/
def decodeUtf8? : List UInt8 → Option (List Char)
  | [] => some []
  | a :: rest =>
    let x := a.toNat
    if x < 0x80 then (decodeUtf8? rest).map (Char.ofNat x :: ·)
    else if x < 0xC2 then none
    else
      match rest with
      | [] => none
      | b :: rest =>
        match continuation? b with
        | none => none
        | some y =>
          if x < 0xE0 then (decodeUtf8? rest).map (Char.ofNat ((x - 0xC0) * 64 + y) :: ·)
          else
            match rest with
            | [] => none
            | c :: rest =>
              match continuation? c with
              | none => none
              | some z =>
                if x < 0xF0 then
                  match charBetween? 0x800 (((x - 0xE0) * 64 + y) * 64 + z) with
                  | none => none
                  | some ch => (decodeUtf8? rest).map (ch :: ·)
                else
                  match rest with
                  | [] => none
                  | d :: rest =>
                    match continuation? d with
                    | none => none
                    | some w =>
                      if x < 0xF5 then
                        match charBetween? 0x10000 ((((x - 0xF0) * 64 + y) * 64 + z) * 64 + w) with
                        | none => none
                        | some ch => (decodeUtf8? rest).map (ch :: ·)
                      else none

end Rewind
