import SiteGateway.Proxy.HopByHop
import SiteGateway.Proxy.Network
import SiteGateway.Proxy.TargetUrl

/-!
# Forwarding

An ordinary request is sent on to the backend without the fields of its own hop, and the backend's
answer comes back the same way, a redirect too. A backend that cannot be asked makes a 502 of this
request alone.
-/

namespace SiteGateway

/-- What the client library does beyond sending a request. -/
structure ClientOptions where
  /-- How many redirects it follows. -/
  redirects : Nat
deriving DecidableEq, Repr

namespace Forward

/-- The client library of all routes returns redirects as they are. -/
def options : ClientOptions := ⟨0⟩

def forwardedForName : HeaderName := "x-forwarded-for".toList

/-- The fields with the client's address appended to the addresses it was forwarded for. -/
def addClient (hs : Headers) (client : Text) : Headers :=
  let value := match hs.text? forwardedForName with
    | some prior => if prior.isEmpty then client else prior ++ ", ".toList ++ client
    | none => client
  hs.insert forwardedForName (Utf8.encode value)

def headers (r : Request) : Headers :=
  let own := (r.headers.endToEnd.remove "upgrade".toList).remove "host".toList
  match r.client with
  | some client => addClient own client.text
  | none => own

/-- Whether the end of the body shows before it is read: there is none, and no coding leaves open
how much comes. -/
def bodyEnded (r : Request) : Bool :=
  r.body.isEmpty && !r.headers.contains "transfer-encoding".toList

def outgoing (route : Route) (r : Request) : Outgoing where
  method := r.method
  url := route.backend.forRequest r.target
  headers := headers r
  body := if bodyEnded r then none else some r.body

/-- The backend's answer as the client receives it. -/
def relay (i : Incoming) : Response :=
  ⟨i.status, Headers.endToEnd i.headers, .stream i.chunks i.broken, false⟩

/-- The answer to a request, given what came of sending it on. -/
def answer : Except Text Incoming → Response
  | .ok i => relay i
  | .error cause => .badGateway ("Bad Gateway: ".toList ++ cause)

/-- Sends a request on, with one exchange and no second try, and answers it. -/
def forward {m : Type → Type} [Monad m]
    (exchange : ClientOptions → Outgoing → m (Except Text Incoming)) (route : Route)
    (r : Request) : m Response := do
  let outcome ← exchange options (outgoing route r)
  return answer outcome

def respond (network : Network) (route : Route) (r : Request) : Response :=
  Id.run (forward (fun _ o => pure (network.exchange o)) route r)

end Forward

end SiteGateway
