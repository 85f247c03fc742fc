import SiteGateway.Percent
import SiteGateway.Text.Utf8
import SiteGateway.Url.Label

/-!
# Hosts

A host is a domain name in ASCII, an IPv4 address or an IPv6 address. The readers are forgiving the
way browsers are: an IPv4 address may have fewer than four numbers, in octal or hexadecimal, and a
domain may be percent-encoded and international.
-/

namespace SiteGateway

inductive Host
  | domain (name : Text)
  | ipv4 (a b c d : UInt8)
  | ipv6 (pieces : List UInt16)
deriving DecidableEq, Repr

namespace Host

/-! ## Writing -/

def dotted (a b c d : UInt8) : Text :=
  Text.join ['.'] ([a, b, c, d].map fun n => Text.ofNat n.toNat)

def zeros : List UInt16 → Nat
  | 0 :: ps => zeros ps + 1
  | _ => 0

/-- The position and length of the first longest run of zeros. -/
def longestZeros : List UInt16 → Nat × Nat
  | [] => (0, 0)
  | p :: ps =>
    let here := zeros (p :: ps)
    let (at', best) := longestZeros ps
    if best ≤ here then (0, here) else (at' + 1, best)

/-- Hexadecimal numbers between colons. -/
def colons (ps : List UInt16) : Text := Text.join [':'] (ps.map fun p => Text.hex p.toNat)

/-- Eight hexadecimal numbers between colons, the first longest run of at least two zeros left
out. -/
def compressed (ps : List UInt16) : Text :=
  let (at', n) := longestZeros ps
  if n < 2 then colons ps
  else colons (ps.take at') ++ [':', ':'] ++ colons (ps.drop (at' + n))

/-- The host as a URL shows it. -/
def text : Host → Text
  | domain name => name
  | ipv4 a b c d => dotted a b c d
  | ipv6 ps => '[' :: (compressed ps ++ [']'])

/-- An IPv6 address as the network shows it: one that stands for an IPv4 address ends in its dotted
form. -/
def shown : List UInt16 → Text
  | [0, 0, 0, 0, 0, 0xFFFF, high, low] =>
    "::ffff:".toList ++
      dotted (high >>> 8).toUInt8 high.toUInt8 (low >>> 8).toUInt8 low.toUInt8
  | ps => compressed ps

/-- The host as a network address, without brackets. -/
def address : Host → Text
  | ipv6 ps => shown ps
  | h => h.text

/-! ## IPv4 -/

/-- What a piece of a dotted address is: no number at all, or a number, absent if it is too large
for any address. -/
def number? (t : Text) : Option (Option Nat) :=
  let read (base : Nat) (digits : Text) : Option (Option Nat) :=
    (Text.ofDigits? base digits).map fun n => if n < UInt32.size then some n else none
  match t with
  | [] => none
  | '0' :: 'x' :: ds => read 16 ds
  | '0' :: 'X' :: ds => read 16 ds
  | '0' :: d :: ds => read 8 (d :: ds)
  | ds => read 10 ds

/-- The pieces of a name between dots, an empty last one dropped. -/
def dotPieces (t : Text) : List Text :=
  let ps := Text.split '.' t
  if ps.length > 1 && ps.getLast? == some [] then ps.dropLast else ps

/-- Whether the name must be read as an IPv4 address. -/
def endsInNumber (t : Text) : Bool :=
  match (dotPieces t).getLast? with
  | none => false
  | some last => (!last.isEmpty && last.all Char.isDigit) || (number? last).isSome

def ofNat4 (n : Nat) : Host :=
  ipv4 (UInt8.ofNat (n >>> 24)) (UInt8.ofNat (n >>> 16)) (UInt8.ofNat (n >>> 8)) (UInt8.ofNat n)

/-- The last number fills all the bytes that the numbers before it leave. -/
def parseIpv4? (t : Text) : Option Host := do
  let numbers ← (dotPieces t).mapM fun p => (number? p).join
  let last ← numbers.getLast?
  let front := numbers.dropLast
  let span := 1 <<< (8 * (4 - front.length))
  if front.length > 3 ∨ last ≥ span ∨ front.any (· > 255) then none
  else
    let high := front.foldl (fun n d => 256 * n + d) 0
    return ofNat4 (high * span + last)

/-! ## IPv6 -/

def piece? (t : Text) : Option UInt16 :=
  if t.isEmpty || t.length > 4 then none else (Text.ofDigits? 16 t).map UInt16.ofNat

/-- A decimal number up to 255 without leading zeros. -/
def octet? (t : Text) : Option Nat :=
  if t.length > 1 && t.head? == some '0' then none
  else (Text.nat? t).bind fun n => if n < 256 then some n else none

/-- The numbers of one side of an address; the last may be a dotted IPv4 address, two pieces. -/
def side? (dotsAllowed : Bool) (t : Text) : Option (List UInt16) :=
  if t.isEmpty then some []
  else
    let pieces := Text.split ':' t
    match pieces.getLast? with
    | some last =>
      if dotsAllowed && last.contains '.' then do
        let front ← pieces.dropLast.mapM piece?
        match ← (Text.split '.' last).mapM octet? with
        | [a, b, c, d] => return front ++ [UInt16.ofNat (256 * a + b), UInt16.ofNat (256 * c + d)]
        | _ => none
      else pieces.mapM piece?
    | none => none

/-- Eight pieces, or fewer with `::` in place of the zeros. -/
def parseIpv6? (t : Text) : Option Host :=
  match Text.cutAt? [':', ':'] t with
  | none => do
    let ps ← side? true t
    if ps.length = 8 then some (ipv6 ps) else none
  | some (left, right) => do
    let l ← side? false left
    let r ← side? true right
    if l.length + r.length ≤ 7 then
      some (ipv6 (l ++ List.replicate (8 - l.length - r.length) 0 ++ r))
    else none

/-! ## Names -/

/-- ASCII characters that no domain name holds. -/
def forbidden (c : Char) : Bool :=
  c.toNat ≤ 0x20 || c.toNat == 0x7F || "#%/:<>?@[\\]^|".toList.contains c

/-- A domain name in ASCII, letters lowered and international labels encoded. -/
def domainToAscii? (bytes : Bytes) : Option Text := do
  let name ← Utf8.decode? bytes
  let folded ← name.mapM DomainTable.fold?
  let plain := Composition.normal folded.flatten
  if plain.any forbidden then none
  else
    let labels ← (Text.split '.' plain).mapM DomainLabel.read?
    if labels.any DomainLabel.hasRightward && !labels.all DomainLabel.oneDirection then none
    else return Text.join ['.'] (labels.map DomainLabel.toAscii)

/-- What stands between a pair of square brackets, if the text starts with one. -/
def bracketed? (t : Text) : Option (Option Text) :=
  match t with
  | '[' :: inner =>
    some (if inner.getLast? = some ']' then some inner.dropLast else none)
  | _ => none

/-- The host of a URL whose scheme names a well-known protocol. -/
def parse? (t : Text) : Option Host :=
  match bracketed? t with
  | some inner => inner.bind parseIpv6?
  | none => do
    let name ← domainToAscii? (Percent.decode (Utf8.encode t))
    if name.isEmpty then none
    else if endsInNumber name then parseIpv4? name
    else return domain name

/-- The host of any other URL: its characters stay, percent-encoded where needed. -/
def parseForeign? (t : Text) : Option Host :=
  match bracketed? t with
  | some inner => inner.bind parseIpv6?
  | none =>
    if t.any fun c => "\x00\t\n\r #/:<>?@[\\]^|".toList.contains c then none
    else some (domain (Percent.encode Percent.control (Utf8.encode t)))

end Host

end SiteGateway
