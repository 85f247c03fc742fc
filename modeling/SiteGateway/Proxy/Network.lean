import SiteGateway.Http.Message
import SiteGateway.Route.Basic

/-!
# The network outside

What the gateway cannot decide itself: whether a backend can be reached, what it answers, and
whether an upgraded connection comes about. Everything else is a function of these answers.
-/

namespace SiteGateway

/-- A request as a backend receives it. -/
structure Outgoing where
  method : Text
  url : Url
  headers : Headers
  body : Option Bytes
deriving DecidableEq, Repr

/-- What a backend answers. -/
structure Incoming where
  status : Nat
  headers : Headers
  chunks : List Bytes
  broken : Bool
deriving DecidableEq, Repr

/-- The request that asks a backend for an upgrade. -/
structure UpgradeRequest where
  method : Text
  target : Text
  version : Version
  headers : Headers
deriving DecidableEq, Repr

/-- Why a tunnel does not come about. -/
inductive TunnelError
  | dial (authority cause : Text)
  | timeout (authority : Text)
  | serverName (name : Text)
  | takeoverUnsupported
  | handshake (cause : Text)
  | request (cause : Text)
deriving DecidableEq, Repr

def TunnelError.message : TunnelError → Text
  | dial authority cause =>
    "failed to connect to backend ".toList ++ authority ++ ": ".toList ++ cause
  | timeout authority => "timed out connecting to backend ".toList ++ authority
  | serverName name => "invalid TLS server name ".toList ++ name.quoted
  | takeoverUnsupported => "WebSocket hijacking not supported".toList
  | handshake cause => "backend handshake failed: ".toList ++ cause
  | request cause => "invalid upgrade request: ".toList ++ cause

structure Network where
  /-- Sends one request and waits for the head of the answer. -/
  exchange : Outgoing → Except Text Incoming
  /-- Opens a connection to a host and a port. -/
  connect : Route → Text → Nat → Except TunnelError Unit
  /-- Speaks TLS on the connection with a server of that name. -/
  secure : Route → Text → Except TunnelError Unit := fun _ _ => .ok ()
  /-- Asks the connected backend for an upgrade. -/
  handshake : Route → UpgradeRequest → Except TunnelError Incoming
  /-- Whether the client's side of an upgraded connection is handed over. -/
  clientUpgraded : Route → Bool
  /-- Whether the backend's side of an upgraded connection is handed over. -/
  backendUpgraded : Route → Bool

end SiteGateway
