import SiteGateway.Text.Basic

/-!
# Base64

Four characters stand for three bytes. Padding at the end may be left out, blanks count for nothing,
and bits that are left over are dropped. Padding is looked at eight characters at a time: none may
stand in a full group, nor in the first half of the last one.
-/

namespace SiteGateway

/-- What is wrong with an encoding. -/
inductive Base64Error
  | invalidCharacter (byte : UInt8)
  | prematurePadding
  | invalidTrailingPadding
deriving DecidableEq, Repr

def Base64Error.text : Base64Error → Text
  | invalidCharacter byte => "InvalidCharacter(".toList ++ Text.ofNat byte.toNat ++ [')']
  | prematurePadding => "PrematurePadding".toList
  | invalidTrailingPadding => "InvalidTrailingPadding".toList

namespace Base64

/-- A character that counts. -/
inductive Symbol
  | value (n : Nat)
  | padding
deriving DecidableEq, Repr

def Symbol.bits : Symbol → Nat
  | value n => n
  | padding => 0

def symbol? (b : UInt8) : Option Symbol :=
  let n := b.toNat
  if 65 ≤ n ∧ n ≤ 90 then some (.value (n - 65))
  else if 97 ≤ n ∧ n ≤ 122 then some (.value (n - 71))
  else if 48 ≤ n ∧ n ≤ 57 then some (.value (n + 4))
  else if n = 43 then some (.value 62)
  else if n = 47 then some (.value 63)
  else if n = 61 then some .padding
  else none

def isBlank (b : UInt8) : Bool := b == 9 || b == 10 || b == 13 || b == 32

/-- The bytes of some symbols, as many as their bits fill. -/
def bytesOf (symbols : List Symbol) : Bytes :=
  let value := symbols.foldl (fun v s => 64 * v + s.bits) 0
  let bits := 6 * symbols.length
  (List.range (bits / 8)).map fun i => UInt8.ofNat (value >>> (bits - 8 * (i + 1)))

/-- The bytes of at most four symbols at the end, where padding may stand. -/
def lastBytes (symbols : List Symbol) : Except Base64Error Bytes :=
  match symbols with
  | [] => .ok []
  | [.value _, .value _] | [.value _, .value _, .value _]
  | [.value _, .value _, .value _, .value _] => .ok (bytesOf symbols)
  | [.value a, .value b, .padding, .padding] => .ok (bytesOf [.value a, .value b])
  | [.value a, .value b, .value c, .padding] => .ok (bytesOf [.value a, .value b, .value c])
  | _ => .error .invalidTrailingPadding

def groups (symbols : List Symbol) : Except Base64Error Bytes :=
  if symbols.length < 8 then
    if symbols.length ≤ 4 then lastBytes symbols
    else if (symbols.take 4).contains .padding then .error .prematurePadding
    else (lastBytes (symbols.drop 4)).map (bytesOf (symbols.take 4) ++ ·)
  else if (symbols.take 8).contains .padding then .error .prematurePadding
  else (groups (symbols.drop 8)).map (bytesOf (symbols.take 8) ++ ·)
termination_by symbols.length
decreasing_by simp only [List.length_drop]; omega

/-- The symbols before the first byte that is none, and that byte. -/
def symbols : Bytes → List Symbol × Option UInt8
  | [] => ([], none)
  | b :: bs =>
    if isBlank b then symbols bs
    else
      match symbol? b with
      | none => ([], some b)
      | some s => ((symbols bs).map (s :: ·) id)

/-- Full groups at the front of some symbols. -/
def fullGroups (symbols : List Symbol) : List Symbol := symbols.take (symbols.length / 8 * 8)

/-- Decodes bytes; of two faults the one that comes first is reported. -/
def decode (bs : Bytes) : Except Base64Error Bytes :=
  match symbols bs with
  | (read, none) => groups read
  | (read, some b) => (groups (fullGroups read)).bind fun _ => .error (.invalidCharacter b)

end Base64

end SiteGateway
