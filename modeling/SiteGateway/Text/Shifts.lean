import SiteGateway.Text.Basic

/-!
# Code point shifts

A table that sends single characters to single characters is written as runs `lo-hi/step+delta`:
every `step`-th code point from `lo` to `hi` goes `delta` places up, or down after a minus sign.
Numbers are hexadecimal and runs are separated by blanks. A table that sends single characters to
several is written `from=to,to`.
-/

namespace SiteGateway

/-- One run of a table of single characters. -/
structure Shift where
  first : Nat
  last : Nat
  step : Nat
  delta : Int
deriving Repr, DecidableEq

namespace Shift

def covers (s : Shift) (n : Nat) : Bool :=
  s.first ≤ n && n ≤ s.last && (n - s.first) % s.step == 0

/-- The amount with its sign, and the text in front of it. -/
def amount? (t : Text) : Option (Text × Int) :=
  match Text.cut? '+' t with
  | some (front, d) => (Text.ofDigits? 16 d).map fun n => (front, Int.ofNat n)
  | none =>
    match Text.cut? '~' t with
    | some (front, d) => (Text.ofDigits? 16 d).map fun n => (front, -Int.ofNat n)
    | none => none

/-- One written run; a tilde stands for minus, because a hyphen joins the ends of the range. -/
def parse? (t : Text) : Option Shift := do
  let (range, move) ← Text.cut? '/' t
  let (lo, hi) ← Text.cut? '-' range
  let (step, delta) ← amount? move
  return ⟨← Text.ofDigits? 16 lo, ← Text.ofDigits? 16 hi, ← Text.ofDigits? 16 step, delta⟩

def table (s : String) : List Shift := (Text.words s.toList).filterMap parse?

/-- Where a table sends the character; characters outside every run stay. -/
def apply (runs : List Shift) (c : Char) : Char :=
  match runs.find? (·.covers c.toNat) with
  | some s => Char.ofNat (Int.ofNat c.toNat + s.delta).toNat
  | none => c

end Shift

/-- Characters and the several characters they become. -/
abbrev Expansions := List (Nat × Text)

namespace Expansions

/-- One written entry. -/
def entry? (t : Text) : Option (Nat × Text) := do
  let (code, whole) ← Text.cut? '=' t
  return (← Text.ofDigits? 16 code,
    (← (Text.split ',' whole).mapM (Text.ofDigits? 16)).map Char.ofNat)

def table (s : String) : Expansions := (Text.words s.toList).filterMap entry?

/-- What the character becomes, if it is in the table. -/
def find? (es : Expansions) (c : Char) : Option Text :=
  (List.find? (·.1 == c.toNat) es).map (·.2)

end Expansions

end SiteGateway
