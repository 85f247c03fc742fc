import SiteGateway.Proxy.Network

/-!
# Tunnels

A request for a WebSocket is rebuilt for the backend, the backend is dialled, the client's
connection is taken over, and the backend's answer decides whether bytes are relayed. `Tunnel.run`
gives the answer and everything that is done on the way, in order; the states the tunnel goes
through are part of that.
-/

namespace SiteGateway

inductive TunnelState
  | dialing
  | handshaking
  | relaying
  | closed
deriving DecidableEq, Repr

def TunnelState.name : TunnelState → String
  | dialing => "Dialing"
  | handshaking => "Handshaking"
  | relaying => "Relaying"
  | closed => "Closed"

/-- Something that a tunnel does. -/
inductive TunnelAct
  | entered (state : TunnelState)
  /-- The backend is connected. -/
  | connected
  /-- The client's connection is claimed. -/
  | tookOver
  /-- The backend is asked for the upgrade. -/
  | asked (request : UpgradeRequest)
  /-- The head of the backend's answer came in. -/
  | heard (answer : Incoming)
  /-- The client is answered. -/
  | answered (response : Response)
  /-- The client's side is handed over, which can only be after the answer. -/
  | clientUpgraded
  /-- The backend's side is handed over. -/
  | backendUpgraded
deriving DecidableEq, Repr

def TunnelAct.state? : TunnelAct → Option TunnelState
  | entered state => some state
  | _ => none

/-- Everything a tunnel does, in order, and its answer. -/
structure TunnelRun where
  acts : List TunnelAct
  response : Response
deriving DecidableEq, Repr

namespace TunnelRun

def states (run : TunnelRun) : List TunnelState := run.acts.filterMap TunnelAct.state?

/-- A tunnel that is closed before it answers. -/
def closing (acts : List TunnelAct) (response : Response) : TunnelRun :=
  ⟨acts ++ [.entered .closed, .answered response], response⟩

end TunnelRun

namespace Tunnel

/-- What is wrong with a target that starts with a question mark. -/
def queryFault (shown : Text) : Text :=
  if shown = ['?'] then "invalid uri character".toList else "invalid format".toList

/-- The target of the rebuilt request: path and query, a bare slash for an authority. A target that
has a query and no path cannot be written this way. -/
def target (r : Request) : Except TunnelError Text :=
  match r.target.scheme, r.target.authority with
  | none, some _ => .ok ['/']
  | _, _ =>
    let shown := r.target.rawPath ++ r.target.queryText
    if shown.isEmpty then .ok ['/']
    else if shown.head? = some '?' then .error (.request (queryFault shown))
    else .ok shown

/-- The request rebuilt for the backend of a route. Only the target can be at fault: the authority
of a backend that was accepted can always be sent as a value. -/
def rebuild (route : Route) (r : Request) : Except TunnelError UpgradeRequest := do
  let target ← target r
  let hs := r.headers.insert "host".toList (Utf8.encode route.authority)
  let hs := hs.insert "connection".toList (Utf8.encode "Upgrade".toList)
  let hs := hs.insert "upgrade".toList (Utf8.encode "websocket".toList)
  return ⟨r.method, target, r.version, hs⟩

def endpoint (route : Route) : Text × Nat :=
  ((route.backend.host.map Host.address).getD [], route.backend.portOrDefault?.getD 80)

/-- The name that a backend has to prove over TLS: the host without the port. -/
def serverName? (route : Route) : Option Text :=
  if route.usesTls then some (endpoint route).1 else none

def dial (network : Network) (route : Route) : Except TunnelError Unit :=
  (network.connect route (endpoint route).1 (endpoint route).2).bind fun _ =>
    match serverName? route with
    | some name => network.secure route name
    | none => .ok ()

/-- Everything up to the backend's answer, once the backend is connected and the client's connection
can be claimed. -/
def claimed (request : UpgradeRequest) : List TunnelAct :=
  [.entered .dialing, .connected, .tookOver, .entered .handshaking, .asked request]

/-- The backend's answer to a request for an upgrade, passed on as it is. -/
def declined (i : Incoming) : Response := ⟨i.status, i.headers, .stream i.chunks i.broken, false⟩

/-- What is done once the client is told that the protocols are switched. -/
def afterSwitch (network : Network) (route : Route) : List TunnelAct :=
  (if network.clientUpgraded route then [.clientUpgraded] else []) ++
    (if network.backendUpgraded route then [.backendUpgraded] else []) ++
    (if network.clientUpgraded route && network.backendUpgraded route then [.entered .relaying]
      else []) ++
    [.entered .closed]

/-- Answers a request for a WebSocket; `takeover` says whether the client's connection can be taken
over. -/
def run (network : Network) (route : Route) (takeover : Bool) (r : Request) : TunnelRun :=
  match rebuild route r with
  | .error e =>
    let response := .badGateway ("Bad Gateway: ".toList ++ e.message)
    ⟨[.answered response], response⟩
  | .ok request =>
    match dial network route with
    | .error _ =>
      .closing [.entered .dialing]
        (.badGateway "Bad Gateway: failed to connect to backend".toList)
    | .ok () =>
      if !takeover then
        .closing [.entered .dialing, .connected]
          (.plain 500 TunnelError.takeoverUnsupported.message)
      else
        match network.handshake route request with
        | .error _ => .closing (claimed request) .abort
        | .ok i =>
          if i.status ≠ 101 then .closing (claimed request ++ [.heard i]) (declined i)
          else
            let response := .bare 101 i.headers
            ⟨claimed request ++ .heard i :: .answered response :: afterSwitch network route,
              response⟩

end Tunnel

end SiteGateway
