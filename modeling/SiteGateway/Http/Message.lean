import SiteGateway.Http.Headers
import SiteGateway.Http.Peer
import SiteGateway.Http.Target

/-!
# Messages

Requests as the gateway receives them and responses as it sends them. A response body is a list of
chunks; `sized` says whether its length is known before it is sent, `broken` whether it ends in an
error. An aborted response is never written: its connection is dropped.
-/

namespace SiteGateway

/-- Protocol version of a request. -/
inductive Version
  | http09
  | http10
  | http11
  | http2
  | http3
deriving DecidableEq, Repr

def Version.text : Version → String
  | http09 => "HTTP/0.9"
  | http10 => "HTTP/1.0"
  | http11 => "HTTP/1.1"
  | http2 => "HTTP/2.0"
  | http3 => "HTTP/3.0"

structure Request where
  method : Text
  target : Target
  version : Version
  headers : Headers
  body : Bytes
  /-- The client's address, if the connection is known. -/
  client : Option IpAddress
deriving DecidableEq, Repr

namespace Request

def path (r : Request) : Text := r.target.path

def isMethod (r : Request) (m : String) : Bool := r.method == m.toList

end Request

structure Body where
  chunks : List Bytes
  sized : Bool
  broken : Bool
deriving DecidableEq, Repr

namespace Body

def empty : Body := ⟨[], true, false⟩

/-- A body that is there at once. -/
def full (bytes : Bytes) : Body := ⟨if bytes.isEmpty then [] else [bytes], true, false⟩

def stream (chunks : List Bytes) (broken : Bool) : Body := ⟨chunks, false, broken⟩

def bytes (b : Body) : Bytes := b.chunks.flatten

@[simp] theorem bytes_full (bs : Bytes) : (full bs).bytes = bs := by
  cases bs <;> simp [full, bytes]

end Body

structure Response where
  status : Nat
  headers : Headers
  body : Body
  aborted : Bool
deriving DecidableEq, Repr

namespace Response

/-- A response with a body that is there at once. -/
def make (status : Nat) (headers : Headers) (body : Bytes) : Response :=
  ⟨status, headers, .full body, false⟩

def bare (status : Nat) (headers : Headers) : Response := ⟨status, headers, .empty, false⟩

/-- A message in plain text, ended by a line end. -/
def plain (status : Nat) (message : Text) : Response :=
  make status
    [Headers.field "content-type" "text/plain; charset=utf-8",
      Headers.field "x-content-type-options" "nosniff"]
    (Utf8.encode (message ++ ['\n']))

def badGateway (message : Text) : Response := plain 502 message

def notFound : Response := plain 404 "404 page not found".toList

/-- A response that is never written; its status is never seen. -/
def abort : Response := ⟨502, [], .empty, true⟩

end Response

end SiteGateway
