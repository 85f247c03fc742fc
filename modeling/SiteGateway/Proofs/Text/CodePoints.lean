import Mathlib.Data.Nat.Bitwise
import SiteGateway.Text.Ranges

/-!
# Code points as bits

A set of code points as a number with a bit for each, so that a whole table is checked against
another one by a few operations on numbers.
-/

namespace SiteGateway

/-- The code points of a list as the bits of a number. -/
def bitsOf (ns : List Nat) : Nat := ns.foldr (fun n bits => 1 <<< n ||| bits) 0

theorem testBit_bitsOf (ns : List Nat) (n : Nat) : (bitsOf ns).testBit n = decide (n ∈ ns) := by
  induction ns with
  | nil => simp [bitsOf]
  | cons m ns ih =>
    have hcons : bitsOf (m :: ns) = 1 <<< m ||| bitsOf ns := rfl
    rw [hcons, Nat.testBit_or, ih, Nat.one_shiftLeft, Nat.testBit_two_pow]
    simp [eq_comm]

/-- Whether the bit is set. What this leaves is no longer than the bit is high, while a shift would
leave all that is above it. -/
def hasBit (bits n : Nat) : Bool := bits &&& 1 <<< n != 0

theorem hasBit_eq_testBit (bits n : Nat) : hasBit bits n = bits.testBit n := by
  rw [hasBit, Nat.one_shiftLeft, Nat.and_two_pow]
  cases bits.testBit n <;> simp

theorem testBit_of_and_eq_zero {bits bits' n : Nat} (h : bits &&& bits' = 0)
    (hn : bits.testBit n = true) : bits'.testBit n = false := by
  have := congrArg (·.testBit n) h
  simpa [Nat.testBit_and, hn] using this

namespace CodePoints

/-- The ranges as the bits of a number. -/
def bits (s : CodePoints) : Nat :=
  s.foldr (fun (lo, hi) bits => ((1 <<< (hi + 1 - lo)) - 1) <<< lo ||| bits) 0

theorem testBit_bits (s : CodePoints) (n : Nat) :
    (bits s).testBit n = s.any fun (lo, hi) => lo ≤ n && n ≤ hi := by
  induction s with
  | nil => simp [bits]
  | cons r s ih =>
    obtain ⟨lo, hi⟩ := r
    have hcons : bits ((lo, hi) :: s) = ((1 <<< (hi + 1 - lo)) - 1) <<< lo ||| bits s := rfl
    rw [hcons, Nat.testBit_or, ih, Nat.testBit_shiftLeft, Nat.one_shiftLeft,
      Nat.testBit_two_pow_sub_one, List.any_cons]
    grind

theorem mem_eq_testBit (s : CodePoints) (c : Char) : mem s c = (bits s).testBit c.toNat :=
  (testBit_bits s c.toNat).symm

theorem parse_ofList (t : Text) : parse (String.ofList t) = (Text.words t).filterMap range? := by
  rw [parse, String.toList_ofList]

end CodePoints

end SiteGateway
