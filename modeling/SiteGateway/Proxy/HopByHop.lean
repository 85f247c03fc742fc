import SiteGateway.Http.Headers
import SiteGateway.Text.Blank

/-!
# Fields of a single hop

Fields that describe one connection and are not handed on: eight fixed names and every name that the
message's own `connection` field lists. `Headers.asksForWebSocket` reads the same fields to see
whether the client wants the connection for a WebSocket.
-/

namespace SiteGateway

namespace Headers

def hopByHopNames : List HeaderName :=
  ["connection", "keep-alive", "proxy-connection", "proxy-authenticate", "proxy-authorization",
    "te", "trailer", "transfer-encoding"].map String.toList

def listedNames (hs : Headers) : List HeaderName :=
  ((hs.values "connection".toList).filterMap HeaderValue.readable?).flatMap fun value =>
    (Text.split ',' value).filterMap fun token => HeaderName.parse? (Text.trim token)

def endToEnd (hs : Headers) : Headers :=
  hs.filter fun (n, _) => !(hs.listedNames.contains n || hopByHopNames.contains n)

/-- Whether the first `connection` value mentions an upgrade and the first `upgrade` value is
`websocket`, letter case aside. -/
def asksForWebSocket (hs : Headers) : Bool :=
  (hs.text? "connection".toList).any (fun v => Text.hasInfix "upgrade".toList (Text.lower v)) &&
    (hs.text? "upgrade".toList).any (fun v => Text.sameLetters (Text.trim v) "websocket".toList)

end Headers

end SiteGateway
