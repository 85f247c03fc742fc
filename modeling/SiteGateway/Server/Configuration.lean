import SiteGateway.Access.Record
import SiteGateway.Settings.Protocol
import SiteGateway.Site.Pipeline

/-!
# What a server runs with

The listener's settings and everything that decides about requests. A server's address is shown to
people as a URL, in which an address that means every interface reads `localhost`.
-/

namespace SiteGateway

/-- Paths of a certificate chain and of its key. -/
structure TlsPaths where
  cert : Text
  key : Text
deriving DecidableEq, Repr

structure ServerConfiguration where
  bindAddress : Text
  port : Nat
  maxConnections : Nat
  logFormat : LogFormat
  protocol : Protocol
  tls : Option TlsPaths
  dispatch : Dispatch
deriving DecidableEq, Repr

namespace ServerConfiguration

/-- The host to bind; an empty one stands for every interface. -/
def listenHost (c : ServerConfiguration) : Text :=
  if c.bindAddress.isEmpty then "0.0.0.0".toList else c.bindAddress

def displayHost (c : ServerConfiguration) : Text :=
  if c.bindAddress = [] ∨ c.bindAddress = "0.0.0.0".toList ∨ c.bindAddress = "127.0.0.1".toList then
    "localhost".toList
  else c.bindAddress

def scheme (c : ServerConfiguration) : Text :=
  if c.tls.isSome then "https".toList else "http".toList

/-- The URL shown to people for a bound port; a host with a colon stands in brackets. -/
def displayUrl (c : ServerConfiguration) (port : Nat) : Text :=
  let host := c.displayHost
  let shown := if host.contains ':' then '[' :: (host ++ [']']) else host
  c.scheme ++ "://".toList ++ shown ++ ':' :: Text.ofNat port ++ ['/']

end ServerConfiguration

end SiteGateway
