import SiteGateway.Text.Basic

/-!
# Sets of code points

A property of characters is written as its ranges in hexadecimal, `lo-hi` or a single code point,
separated by blanks. `CodePoints.parse` reads that form and `CodePoints.mem` asks for membership.
-/

namespace SiteGateway

/-- Closed ranges of code points. -/
abbrev CodePoints := List (Nat × Nat)

namespace CodePoints

def range? (t : Text) : Option (Nat × Nat) :=
  match Text.cut? '-' t with
  | some (lo, hi) => do return (← Text.ofDigits? 16 lo, ← Text.ofDigits? 16 hi)
  | none => (Text.ofDigits? 16 t).map fun n => (n, n)

def parse (table : String) : CodePoints :=
  (Text.words table.toList).filterMap range?

/-- Whether the character lies in one of the ranges. -/
def mem (s : CodePoints) (c : Char) : Bool :=
  s.any fun (lo, hi) => lo ≤ c.toNat && c.toNat ≤ hi

end CodePoints

end SiteGateway
