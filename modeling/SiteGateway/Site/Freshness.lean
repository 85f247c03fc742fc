import SiteGateway.Http.Message
import SiteGateway.Time.MailDate

/-!
# Generated pages and their age

A generated page carries the time its source was last changed, in whole seconds. A client that names
that time or a later one in `if-modified-since` gets 304 and no content. A page that was changed in
a year that the calendar does not reach is not answered at all.
-/

namespace SiteGateway

namespace Page

def contentType : HeaderName × HeaderValue :=
  Headers.field "content-type" "text/html; charset=utf-8"

/-- A page of unknown age. -/
def ok (html : Text) : Response := .make 200 [contentType] (Utf8.encode html)

def lastModified (modified : Instant) : HeaderName × HeaderValue :=
  ("last-modified".toList, Utf8.encode (HttpDate.write modified.seconds))

/-- Whether the client's copy is as new as the source. -/
def isCurrent (headers : Headers) (modified : Instant) : Bool :=
  ((headers.text? "if-modified-since".toList).bind MailDate.parse?).any (modified.seconds ≤ ·)

/-- Whether the calendar of pages reaches the second: it lies in a year from -262143 to 262142. -/
def reaches (seconds : Int) : Bool := -8334601228800 ≤ seconds && seconds < 8210266876800

/-- A page whose source was last changed at `modified`. -/
def respond (headers : Headers) (html : Text) (modified : Instant) : Response :=
  if !reaches modified.seconds then .abort
  else if isCurrent headers modified then .bare 304 [lastModified modified]
  else .make 200 [contentType, lastModified modified] (Utf8.encode html)

end Page

end SiteGateway
