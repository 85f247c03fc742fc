/-!
# Text and bytes

Text is a list of characters and a message body is a list of bytes, so that every reader and
writer of the gateway is a recursion on lists. This module holds the operations they share:
letter case of ASCII letters, cutting at a separator, and numbers as digits.
-/

namespace SiteGateway

/-- Text as the list of its characters. -/
abbrev Text := List Char

/-- Raw bytes: file contents, message bodies, header values. -/
abbrev Bytes := List UInt8

namespace Text

/-- Lowers the ASCII letters and keeps every other character. -/
def lower (t : Text) : Text := t.map Char.toLower

/-- Raises the ASCII letters and keeps every other character. -/
def upper (t : Text) : Text := t.map Char.toUpper

/-- Equality up to the case of ASCII letters. -/
def sameLetters (a b : Text) : Bool := lower a == lower b

/-- The pieces of a text between the characters satisfying `p`; there is always at least one. -/
def splitBy (p : Char → Bool) : Text → List Text
  | [] => [[]]
  | c :: t =>
    if p c then [] :: splitBy p t
    else
      match splitBy p t with
      | [] => [[c]]
      | piece :: rest => (c :: piece) :: rest

/-- The pieces between the occurrences of `sep`. -/
def split (sep : Char) (t : Text) : List Text := splitBy (· == sep) t

theorem splitBy_ne_nil (p : Char → Bool) (t : Text) : splitBy p t ≠ [] := by
  cases t with
  | nil => simp [splitBy]
  | cons c t =>
    simp only [splitBy]
    split
    · simp
    · split <;> simp

def words (t : Text) : List Text := (splitBy (fun c => c == ' ' || c == '\n') t).filter (!·.isEmpty)

/-- The text before and after the first `sep`, if there is one. -/
def cut? (sep : Char) : Text → Option (Text × Text)
  | [] => none
  | c :: t =>
    if c = sep then some ([], t)
    else (cut? sep t).map fun (before, after) => (c :: before, after)

/-- The text before and after the first occurrence of the word `w`. -/
def cutAt? (w : Text) : Text → Option (Text × Text)
  | [] => if w.isEmpty then some ([], []) else none
  | c :: t =>
    if w.isPrefixOf (c :: t) then some ([], (c :: t).drop w.length)
    else (cutAt? w t).map fun (before, after) => (c :: before, after)

/-- Whether the word `w` occurs somewhere in the text. -/
def hasInfix (w t : Text) : Bool := (cutAt? w t).isSome

/-- What follows the word `w` when the text starts with it. -/
def after? (w t : Text) : Option Text :=
  if w.isPrefixOf t then some (t.drop w.length) else none

theorem after?_eq_some_iff {w t r : Text} : after? w t = some r ↔ t = w ++ r := by
  unfold after?
  split
  · rename_i h
    obtain ⟨s, rfl⟩ := List.isPrefixOf_iff_prefix.1 h
    simp [eq_comm]
  · rename_i h
    simp only [reduceCtorEq, false_iff]
    rintro rfl
    exact h (List.isPrefixOf_iff_prefix.2 (List.prefix_append ..))

/-- The texts with `sep` written between neighbours. -/
def join (sep : Text) : List Text → Text
  | [] => []
  | [t] => t
  | t :: ts => t ++ sep ++ join sep ts

def trimBy (p : Char → Bool) (t : Text) : Text :=
  ((t.dropWhile p).reverse.dropWhile p).reverse

/-- Decimal digits without leading zeros. -/
def ofNat (n : Nat) : Text := Nat.toDigits 10 n

/-- At least `width` decimal digits, zeros in front. -/
def padded (width n : Nat) : Text :=
  let ds := ofNat n
  List.replicate (width - ds.length) '0' ++ ds

def hex (n : Nat) : Text := Nat.toDigits 16 n

/-- The value of a digit in a base up to sixteen. -/
def digit? (base : Nat) (c : Char) : Option Nat :=
  let v :=
    if '0' ≤ c ∧ c ≤ '9' then c.toNat - '0'.toNat
    else if 'a' ≤ c ∧ c ≤ 'f' then c.toNat - 'a'.toNat + 10
    else if 'A' ≤ c ∧ c ≤ 'F' then c.toNat - 'A'.toNat + 10
    else 16
  if v < base then some v else none

/-- The number that the digits `t` write in `base`; no digits write zero. -/
def ofDigits? (base : Nat) (t : Text) : Option Nat :=
  t.foldlM (fun n c => (digit? base c).map (base * n + ·)) 0

/-- A non-empty run of decimal digits read as a number. -/
def nat? (t : Text) : Option Nat := if t.isEmpty then none else ofDigits? 10 t

/-- A decimal number below `bound`: digits after an optional plus sign. -/
def boundedNat? (bound : Nat) (t : Text) : Option Nat :=
  let digits := match t with
    | '+' :: ds => ds
    | ds => ds
  (nat? digits).bind fun n => if n < bound then some n else none

/-- Words of text in dictionary order of their characters. -/
def le : Text → Text → Bool
  | [], _ => true
  | _ :: _, [] => false
  | a :: s, b :: t => a < b || (a == b && le s t)

end Text

end SiteGateway
