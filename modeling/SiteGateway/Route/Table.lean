import SiteGateway.Route.Basic
import SiteGateway.Text.Utf8

/-!
# Route tables

The routes of a gateway, the longest prefix first, so that the first route that covers a path is the
most specific one. Prefixes of equal length keep their order; no prefix occurs twice.
-/

namespace SiteGateway

structure RouteTable where
  routes : List Route
deriving DecidableEq, Repr

namespace RouteTable

def empty : RouteTable := ⟨[]⟩

def isEmpty (t : RouteTable) : Bool := t.routes.isEmpty

/-- The length of a prefix in bytes, by which routes are ordered. -/
def weight (r : Route) : Nat := (Utf8.encode r.pathPrefix).length

/-- The prefix of the first route whose prefix occurred before, `seen` being those in front. -/
def firstRepeated? (seen : List Text) : List Route → Option Text
  | [] => none
  | r :: rs =>
    if seen.contains r.pathPrefix then some r.pathPrefix
    else firstRepeated? (r.pathPrefix :: seen) rs

/-- The table of some routes, unless two share a prefix. -/
def ofRoutes (routes : List Route) : Except RouteError RouteTable :=
  match firstRepeated? [] routes with
  | some p => .error (.duplicatePrefix p)
  | none => .ok ⟨routes.mergeSort fun a b => weight b ≤ weight a⟩

/-- The table of written mappings; the first unreadable mapping is the error. -/
def build (mappings : List Text) : Except RouteError RouteTable :=
  (mappings.mapM Route.parse).bind ofRoutes

/-- The table of one prefix and one backend given apart; both blank is the empty table. -/
def ofPair (pathPrefix backend : Text) : Except RouteError RouteTable :=
  let pathPrefix := Text.trim pathPrefix
  let backend := Text.trim backend
  if pathPrefix.isEmpty && backend.isEmpty then .ok empty
  else (Route.ofParts pathPrefix backend).map fun r => ⟨[r]⟩

def find? (t : RouteTable) (path : Text) : Option Route := t.routes.find? (·.covers path)

/-- The mappings in values that may each hold several between commas; blank ones are dropped. -/
def mappings (values : List Text) : List Text :=
  ((values.flatMap (Text.split ',')).map Text.trim).filter (!·.isEmpty)

end RouteTable

end SiteGateway
