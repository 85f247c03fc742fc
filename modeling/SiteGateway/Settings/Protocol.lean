import SiteGateway.Text.Blank

/-!
# The protocol spoken to clients
-/

namespace SiteGateway

/-- With `http10` every connection closes after one answer. -/
inductive Protocol
  | http10
  | http11
deriving DecidableEq, Repr

namespace Protocol

def text : Protocol → String
  | http10 => "HTTP/1.0"
  | http11 => "HTTP/1.1"

/-- Reads a protocol, letter case and blanks around it aside. The error is the text in upper
case. -/
def parse (t : Text) : Except Text Protocol :=
  let up := Text.upper (Text.trim t)
  if up = "HTTP/1.0".toList then .ok http10
  else if up = "HTTP/1.1".toList then .ok http11
  else .error up

def unknownMessage (up : Text) : Text := "unsupported protocol ".toList ++ up

end Protocol

end SiteGateway
