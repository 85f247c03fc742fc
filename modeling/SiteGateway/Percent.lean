import SiteGateway.Text.Basic

/-!
# Percent-encoding

A byte is written as `%` and two hexadecimal digits. `Percent.decode` undoes every well-formed
escape and leaves the rest alone; `Percent.encode` escapes the bytes that a set asks for, and
decoding gives the bytes back when the set holds `%`.
-/

namespace SiteGateway

namespace Percent

/-- The value of a byte that is a hexadecimal digit. -/
def hexValue? (b : UInt8) : Option UInt8 :=
  if 0x30 ≤ b ∧ b ≤ 0x39 then some (b - 0x30)
  else if 0x41 ≤ b ∧ b ≤ 0x46 then some (b - 0x41 + 10)
  else if 0x61 ≤ b ∧ b ≤ 0x66 then some (b - 0x61 + 10)
  else none

/-- The byte that two hexadecimal digits write. -/
def escape? (hi lo : UInt8) : Option UInt8 := do
  return 16 * (← hexValue? hi) + (← hexValue? lo)

/-- Replaces every `%` that two hexadecimal digits follow by the byte they write. -/
def decode : Bytes → Bytes
  | 0x25 :: hi :: lo :: rest =>
    match escape? hi lo with
    | some b => b :: decode rest
    | none => 0x25 :: decode (hi :: lo :: rest)
  | b :: rest => b :: decode rest
  | [] => []

def hexDigit (n : Nat) : Char := Char.ofNat (if n < 10 then 0x30 + n else 0x37 + n)

def escape (b : UInt8) : Text := ['%', hexDigit (b.toNat / 16), hexDigit (b.toNat % 16)]

/-- Writes the bytes, escaping those in the set and those that are not ASCII. -/
def encode (set : UInt8 → Bool) (bs : Bytes) : Text :=
  bs.flatMap fun b => if b < 0x80 && !set b then [Char.ofNat b.toNat] else escape b

def control (b : UInt8) : Bool := b < 0x20 || b == 0x7F

def controlAnd (chars : String) (b : UInt8) : Bool :=
  control b || chars.toList.any fun c => c.toNat == b.toNat

end Percent

end SiteGateway
