import SiteGateway.Text.Basic

/-!
# Tagged values

Certificates and keys are trees of tagged values, each written as a tag, a length, and so many
bytes. Only as much is read here as tells a certificate and a key from other bytes.
-/

namespace SiteGateway

/-- A value with its tag. -/
structure DerValue where
  tag : UInt8
  content : Bytes
deriving DecidableEq, Repr

namespace Der

def integer : UInt8 := 0x02
def bitString : UInt8 := 0x03
def octetString : UInt8 := 0x04
def sequence : UInt8 := 0x30

def number (bs : Bytes) : Nat := bs.foldl (fun n b => 256 * n + b.toNat) 0

/-- A length: one byte below 128, or the count of bytes that hold it, without leading zeros. -/
def length? : Bytes → Option (Nat × Bytes)
  | [] => none
  | b :: bs =>
    if b < 0x80 then some (b.toNat, bs)
    else
      let count := b.toNat - 0x80
      let n := number (bs.take count)
      if 1 ≤ count ∧ count ≤ 4 ∧ count ≤ bs.length ∧ 0x80 ≤ n ∧ 1 <<< (8 * (count - 1)) ≤ n then
        some (n, bs.drop count)
      else none

/-- The value at the front and what follows it. -/
def value? : Bytes → Option (DerValue × Bytes)
  | [] => none
  | tag :: bs => do
    let (n, rest) ← length? bs
    if n ≤ rest.length then some (⟨tag, rest.take n⟩, rest.drop n) else none

/-- The values that bytes are made of; the count bounds them. -/
def valuesUpTo : Nat → Bytes → Option (List DerValue)
  | _, [] => some []
  | 0, _ => none
  | n + 1, bs => do
    let (v, rest) ← value? bs
    return v :: (← valuesUpTo n rest)

def values? (bs : Bytes) : Option (List DerValue) := valuesUpTo bs.length bs

/-- The members of the one sequence that the bytes are. -/
def sequence? (bs : Bytes) : Option (List DerValue) :=
  match value? bs with
  | some (⟨tag, content⟩, []) => if tag = sequence then values? content else none
  | _ => none

/-- Whether members begin with values of some tags. -/
def beginsWith (tags : List UInt8) (members : List DerValue) : Bool :=
  tags.isPrefixOf (members.map (·.tag))

end Der

end SiteGateway
