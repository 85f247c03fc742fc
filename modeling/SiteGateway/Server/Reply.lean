import SiteGateway.Server.Configuration

/-!
# The finished answer

What every answer goes through on its way out: the gateway's name unless the answer has one, the end
of the connection for old clients, the length of a body that is known, and no body where none may
be sent.
-/

namespace SiteGateway

namespace Response

/-- Whether the answer turns a connection over to the client that asked for one. -/
def opensConnection (method : Text) (r : Response) : Bool :=
  method == "CONNECT".toList && 200 ≤ r.status && r.status < 300

/-- A successful answer to `CONNECT` has no content. -/
def withoutConnectBody (method : Text) (r : Response) : Response :=
  if r.opensConnection method &&
      (r.headers.contains "content-length".toList ||
        r.headers.contains "transfer-encoding".toList ||
        (r.body.sized && !r.body.bytes.isEmpty)) then
    { r with body := .empty }
  else r

/-- Names the gateway unless the answer names another server. -/
def withServer (r : Response) : Response :=
  if r.headers.contains "server".toList then r
  else { r with headers := r.headers ++ [Headers.field "server" "staticgate"] }

/-- Old clients are told that the connection ends. -/
def withProtocol (p : Protocol) (r : Response) : Response :=
  if p = .http10 ∧ r.status ≠ 101 then
    { r with headers := r.headers.insert "connection".toList (Utf8.encode "close".toList) }
  else r

/-- Says how long the body is, if that is known, and drops it for `HEAD`. -/
def withLength (method : Text) (r : Response) : Response :=
  if r.opensConnection method then r
  else
    let r :=
      if r.body.sized && !r.headers.contains "content-length".toList then
        { r with headers := r.headers ++
            [("content-length".toList, Utf8.encode (Text.ofNat r.body.bytes.length))] }
      else r
    if method = "HEAD".toList then { r with body := { r.body with chunks := [], broken := false } }
    else r

/-- The layers around the stages, from the inside out. Those that only watch answers go by are left
out. -/
def layers (method : Text) (p : Protocol) : List (Response → Response) :=
  [withoutConnectBody method, withServer, withProtocol p, withLength method]

def finish (method : Text) (p : Protocol) (r : Response) : Response :=
  (layers method p).foldl (fun r layer => layer r) r

end Response

/-- The finished answer of a server to a request. -/
def ServerConfiguration.answer (c : ServerConfiguration) (w : World) (r : Request) : Answer :=
  let a := c.dispatch.answer w r
  { a with response := a.response.finish r.method c.protocol }

/-- The answer that is written to the client; none if its connection is dropped instead. -/
def ServerConfiguration.written? (c : ServerConfiguration) (w : World) (r : Request) :
    Option Response :=
  let response := (c.answer w r).response
  if response.aborted then none else some response

end SiteGateway
