import SiteGateway.Url.Host

/-!
# Addresses of clients

The address and port of the other end of a connection.
-/

namespace SiteGateway

inductive IpAddress
  | v4 (a b c d : UInt8)
  | v6 (pieces : List UInt16)
deriving DecidableEq, Repr

structure Peer where
  ip : IpAddress
  port : Nat
deriving DecidableEq, Repr

namespace IpAddress

/-- The address as text; an IPv4 address inside IPv6 keeps its dots. -/
def text : IpAddress → Text
  | v4 a b c d => Host.dotted a b c d
  | v6 [0, 0, 0, 0, 0, 0xFFFF, hi, lo] =>
    "::ffff:".toList ++ Host.dotted (UInt8.ofNat (hi.toNat / 256)) (UInt8.ofNat hi.toNat)
      (UInt8.ofNat (lo.toNat / 256)) (UInt8.ofNat lo.toNat)
  | v6 ps => Host.compressed ps

/-- Four decimal numbers between dots. -/
def parseV4? (t : Text) : Option IpAddress := do
  match ← (Text.split '.' t).mapM Host.octet? with
  | [a, b, c, d] => return v4 (UInt8.ofNat a) (UInt8.ofNat b) (UInt8.ofNat c) (UInt8.ofNat d)
  | _ => none

/-- Eight hexadecimal numbers, zeros left out. -/
def parseV6? (t : Text) : Option IpAddress :=
  match Host.parseIpv6? t with
  | some (.ipv6 ps) => some (v6 ps)
  | _ => none

end IpAddress

/-- An address and a port; an IPv6 address stands in brackets. -/
def Peer.parse? (t : Text) : Option Peer := do
  let (portBack, hostBack) ← Text.cut? ':' t.reverse
  let port ← Text.nat? portBack.reverse
  let host := hostBack.reverse
  let ip ← match host with
    | '[' :: inner => if inner.getLast? = some ']' then IpAddress.parseV6? inner.dropLast else none
    | _ => IpAddress.parseV4? host
  if port < 65536 then some ⟨ip, port⟩ else none

end SiteGateway
