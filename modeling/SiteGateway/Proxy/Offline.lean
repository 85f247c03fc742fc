import SiteGateway.Proxy.Network

/-!
# A host without a network

The network of a host that has no route to any other: every connection fails at once.
-/

namespace SiteGateway

namespace Network

def unreachableMessage : Text := "Network is unreachable (os error 101)".toList

/-- The URL that a failed request is reported by: credentials are left out when they spell text,
since then they were sent as a field of their own. -/
def reportedUrl (u : Url) : Url :=
  let spelled (t : Text) : Option Text := Utf8.decode? (Percent.decode (Utf8.encode t))
  match spelled u.username with
  | none => u
  | some user =>
    if !user.isEmpty || (!u.password.isEmpty && (spelled u.password).isSome) then
      u.withoutCredentials
    else u

/-- Why a request could not be sent. A URL that is no request target is not even tried. -/
def sendingFailed (o : Outgoing) : Text :=
  let shown := (reportedUrl o.url).text
  (if (Target.parse? shown).isSome then "error sending request for url (".toList
    else "builder error for url (".toList) ++ shown ++ [')']

def offline : Network where
  exchange o := .error (sendingFailed o)
  connect route _ _ := .error (.dial route.authority unreachableMessage)
  handshake _ _ := .error (.handshake unreachableMessage)
  clientUpgraded _ := false
  backendUpgraded _ := false

end Network

end SiteGateway
