import SiteGateway.Text.Basic

/-!
# Punycode

A label of characters outside ASCII written in letters, digits and hyphens: first the ASCII
characters as they are, then the others as gaps between (character, position) pairs in increasing
order, each gap a number of mixed radix whose digits are `a` to `z` and `0` to `9`.
-/

namespace SiteGateway

namespace Punycode

/-- Halves the gap (or cuts the first one hard) and finds the bias of the next. -/
def adapt (delta points : Nat) (first : Bool) : Nat :=
  let delta := if first then delta / 700 else delta / 2
  go (delta + delta / points) 0
where
  go (delta k : Nat) : Nat :=
    if delta > 455 then go (delta / 35) (k + 36) else k + 36 * delta / (delta + 38)
  termination_by delta
  decreasing_by omega

/-- The threshold of the digit at weight position `k`. -/
def threshold (k bias : Nat) : Nat := min 26 (max 1 (k - bias))

def digit (n : Nat) : Char := Char.ofNat (if n < 26 then 0x61 + n else 0x30 + (n - 26))

def digitValue? (c : Char) : Option Nat :=
  if 'a' ≤ c ∧ c ≤ 'z' then some (c.toNat - 'a'.toNat)
  else if 'A' ≤ c ∧ c ≤ 'Z' then some (c.toNat - 'A'.toNat)
  else if '0' ≤ c ∧ c ≤ '9' then some (c.toNat - '0'.toNat + 26)
  else none

/-- The digits of a gap from weight position `k` on. -/
def number (q k bias : Nat) : Text :=
  let t := threshold k bias
  if h : q < t then [digit q]
  else digit (t + (q - t) % (36 - t)) :: number ((q - t) / (36 - t)) (k + 36) bias
termination_by q
decreasing_by
  have h1 : 1 ≤ t := by simp only [t, threshold]; omega
  have h2 : t ≤ 26 := by simp only [t, threshold]; omega
  exact Nat.lt_of_le_of_lt (Nat.div_le_self _ _) (by omega)

/-- What writing a label keeps between gaps. -/
structure Writer where
  delta : Nat
  bias : Nat
  done : Nat
  first : Bool
  out : Text

/-- Writes the gaps of all occurrences of the code point `m` in the label. -/
def Writer.point (label : Text) (w : Writer) (m : Nat) : Writer :=
  label.foldl (fun w c =>
    if c.toNat < m then { w with delta := w.delta + 1 }
    else if c.toNat = m then
      { delta := 0, bias := adapt w.delta (w.done + 1) w.first, done := w.done + 1, first := false,
        out := w.out ++ number w.delta 36 w.bias }
    else w) w

/-- The code points above ASCII in increasing order, each once. -/
def points (label : Text) : List Nat :=
  ((label.filter (0x80 ≤ ·.toNat)).map Char.toNat).mergeSort.eraseReps

def encode (label : Text) : Text :=
  let basic := label.filter (·.toNat < 0x80)
  let start : Writer :=
    { delta := 0, bias := 72, done := basic.length, first := true,
      out := if basic.isEmpty then [] else basic ++ ['-'] }
  let step := fun (w, n) m =>
    -- No code point from `n` up to `m` occurs, so each of them passes all places.
    let w := Writer.point label { w with delta := w.delta + (m - n) * (w.done + 1) } m
    ({ w with delta := w.delta + 1 }, m + 1)
  ((points label).foldl step (start, 0x80)).1.out

/-- What reading a label keeps between digits: the gap read so far in `gap`, with the weight and
the weight position of its next digit. -/
structure Reader where
  text : Text
  origin : Nat
  gap : Nat
  weight : Nat
  k : Nat
  point : Nat
  bias : Nat

/-- One more digit; the last digit of a gap inserts a character. -/
def Reader.push? (r : Reader) (c : Char) : Option Reader := do
  let d ← digitValue? c
  let gap := r.gap + d * r.weight
  let t := threshold r.k r.bias
  if d < t then
    -- A gap counts the places in the text to come, once for every code point from the last one on.
    let size := r.text.length + 1
    let point := r.point + gap / size
    let at' := gap % size
    if point < 0xD800 ∨ (0xE000 ≤ point ∧ point ≤ 0x10FFFF) then
      return { text := r.text.take at' ++ Char.ofNat point :: r.text.drop at',
               origin := at' + 1, gap := at' + 1, weight := 1, k := 36, point,
               bias := adapt (gap - r.origin) size (r.origin == 0) }
    else none
  else return { r with gap, weight := r.weight * (36 - t), k := r.k + 36 }

/-- The label that the ASCII text writes; `none` if a digit is no digit, a gap is cut short, or a
code point is no character. -/
def decode? (t : Text) : Option Text := do
  let back := t.reverse
  let (basic, digits) := match Text.cut? '-' back with
    | some (digits, basic) => (basic.reverse, digits.reverse)
    | none => ([], t)
  let r ← digits.foldlM Reader.push?
    { text := basic, origin := 0, gap := 0, weight := 1, k := 36, point := 0x80, bias := 72 }
  if r.k = 36 then some r.text else none

end Punycode

end SiteGateway
