import SiteGateway.Text.Blank

/-!
# Byte ranges

The `range` field asks for parts of a file: `bytes=` and pieces `a-b`, `a-` or `-n` between commas.
Numbers have no sign and no leading zeros. A piece that reaches past the end is cut to the last
byte; one that starts there, runs backwards or overlaps another cannot be satisfied.
-/

namespace SiteGateway

/-- One piece as it is written. -/
inductive RangeSpec
  | between (first last : Nat)
  | starting (first : Nat)
  | suffix (length : Nat)
deriving DecidableEq, Repr

namespace ByteRange

/-- A position: digits without leading zeros, below 2⁶⁴. -/
def position? (t : Text) : Option Nat :=
  match t with
  | '0' :: _ :: _ => none
  | _ => if t.all Char.isDigit then (Text.nat? t).filter (· < UInt64.size) else none

def spec? (t : Text) : Option RangeSpec :=
  match Text.cut? '-' t with
  | none => none
  | some ([], n) => (position? n).map .suffix
  | some (first, []) => (position? first).map .starting
  | some (first, last) => do return .between (← position? first) (← position? last)

/-- A piece with at most one blank, which stands in front. -/
def trimmed? (t : Text) : Option Text :=
  if (t.filter isBlank).length ≤ 1 ∧ !t.getLast?.any isBlank then some (Text.trim t) else none

def specs? (field : Text) : Option (List RangeSpec) := do
  let body ← Text.after? "bytes=".toList field
  match Text.split ',' body with
  | [t] => return [← spec? t]
  | ts => ts.mapM fun t => (trimmed? t).bind spec?

/-- The first and the last byte of a piece of a file of `size` bytes. -/
def bounds? (size : Nat) : RangeSpec → Option (Nat × Nat)
  | .between first last => some (first, min last (size - 1))
  | .starting first => some (first, size - 1)
  | .suffix n => if n ≤ size then some (size - n, size - 1) else none

def meet (a b : Nat × Nat) : Bool := a.1 ≤ b.2 && b.1 ≤ a.2

def disjoint : List (Nat × Nat) → Bool
  | [] => true
  | r :: rs => !rs.any (meet r) && disjoint rs

/-- The pieces of a file of `size` bytes that the field asks for, if they can be satisfied. -/
def parse? (size : Nat) (field : Text) : Option (List (Nat × Nat)) := do
  let ranges ← (← specs? field).mapM (bounds? size)
  if ranges.all (fun r => r.1 ≤ r.2) && disjoint ranges then some ranges else none

end ByteRange

end SiteGateway
