import SiteGateway.Text.Basic

/-!
# UTF-8

Bytes are cut into units: a character, or a maximal prefix of one that cannot be completed.
`decode?` accepts only characters; `decodeLossy` puts U+FFFD in place of every refused unit.
-/

namespace SiteGateway

namespace Utf8

def encode (t : Text) : Bytes := t.flatMap String.utf8EncodeChar

/-- The six value bits of a continuation byte. -/
def tailBits (b : UInt8) : Nat := b.toNat % 64

/-- The range that the second byte must lie in after the first byte `b`, and how many continuation
bytes belong to the character in all; `none` for a byte that starts no longer character. -/
def lead? (b : UInt8) : Option (Nat × UInt8 × UInt8) :=
  if 0xC2 ≤ b ∧ b ≤ 0xDF then some (1, 0x80, 0xBF)
  else if b = 0xE0 then some (2, 0xA0, 0xBF)
  else if b = 0xED then some (2, 0x80, 0x9F)
  else if 0xE1 ≤ b ∧ b ≤ 0xEF then some (2, 0x80, 0xBF)
  else if b = 0xF0 then some (3, 0x90, 0xBF)
  else if b = 0xF4 then some (3, 0x80, 0x8F)
  else if 0xF1 ≤ b ∧ b ≤ 0xF3 then some (3, 0x80, 0xBF)
  else none

/-- Reads `n` continuation bytes, the first between `lo` and `hi`, onto the value `v`; returns the
value if all are there, and the number of bytes taken. -/
def tails : Nat → UInt8 → UInt8 → Nat → Bytes → Option Nat × Nat
  | 0, _, _, v, _ => (some v, 0)
  | _ + 1, _, _, _, [] => (none, 0)
  | n + 1, lo, hi, v, b :: bs =>
    if lo ≤ b ∧ b ≤ hi then
      let (r, taken) := tails n 0x80 0xBF (64 * v + tailBits b) bs
      (r, taken + 1)
    else (none, 0)

/-- The unit that starts with byte `b`: its character, or nothing if it is refused, and how many of
the bytes that follow belong to it. -/
def unit (b : UInt8) (rest : Bytes) : Option Char × Nat :=
  if b < 0x80 then (some (Char.ofNat b.toNat), 0)
  else
    match lead? b with
    | none => (none, 0)
    -- The first byte keeps `6 - n` bits for the value.
    | some (n, lo, hi) =>
      let (v, taken) := tails n lo hi (b.toNat % (1 <<< (6 - n))) rest
      (v.map Char.ofNat, taken)

/-- The units of a byte string without its first `taken` bytes, in order. -/
def unitsAfter : Nat → Bytes → List (Option Char)
  | _, [] => []
  | taken + 1, _ :: rest => unitsAfter taken rest
  | 0, b :: rest =>
    let u := unit b rest
    u.1 :: unitsAfter u.2 rest

/-- The units of a byte string, in order. -/
def units (bs : Bytes) : List (Option Char) := unitsAfter 0 bs

theorem unitsAfter_eq (n : Nat) (bs : Bytes) : unitsAfter n bs = units (bs.drop n) := by
  induction bs generalizing n with
  | nil => simp [unitsAfter, units]
  | cons b bs ih =>
    cases n with
    | zero => rfl
    | succ n => simp [unitsAfter, ih]

@[simp] theorem units_nil : units [] = [] := rfl

theorem units_cons (b : UInt8) (rest : Bytes) :
    units (b :: rest) = (unit b rest).1 :: units (rest.drop (unit b rest).2) := by
  rw [← unitsAfter_eq]; rfl

/-- The text that the bytes encode, if they are well formed. -/
def decode? (bs : Bytes) : Option Text := (units bs).mapM id

/-- The text of the bytes, each refused unit replaced by U+FFFD. -/
def decodeLossy (bs : Bytes) : Text := (units bs).map (·.getD '\uFFFD')

theorem decode?_eq_some_iff_units {bs : Bytes} {t : Text} :
    decode? bs = some t ↔ units bs = t.map some := by
  unfold decode?
  generalize units bs = us
  induction us generalizing t with
  | nil => cases t <;> simp
  | cons u us ih =>
    cases u with
    | none => cases t <;> simp
    | some c =>
      cases t with
      | nil => simp [Option.bind_eq_some_iff]
      | cons a t => simpa [Option.bind_eq_some_iff, ih] using and_comm

theorem map_getD_some (t : Text) : (t.map some).map (·.getD '\uFFFD') = t := by
  rw [List.map_map]
  exact List.map_id t

theorem decodeLossy_of_decode? {bs : Bytes} {t : Text} (h : decode? bs = some t) :
    decodeLossy bs = t := by
  rw [decodeLossy, decode?_eq_some_iff_units.mp h, map_getD_some]

end Utf8

end SiteGateway
