import SiteGateway.Http.Target
import SiteGateway.Url.Parser

/-!
# Where a request is sent

The URL of a forwarded request: the backend's path and the request's path with one slash between
them, and both queries joined by `&`.
-/

namespace SiteGateway

namespace TargetUrl

/-- Two paths with exactly one slash where they meet. -/
def joinPaths (base path : Text) : Text :=
  match base.getLast? == some '/', path with
  | true, '/' :: rest => base ++ rest
  | false, '/' :: _ => base ++ path
  | true, _ => base ++ path
  | false, _ => base ++ '/' :: path

def nonEmpty (query : Option Text) : Option Text := query.filter (!·.isEmpty)

/-- Both queries, or the one that says something. -/
def joinQueries (base query : Option Text) : Option Text :=
  match nonEmpty base, nonEmpty query with
  | some b, some r => some (b ++ '&' :: r)
  | some b, none => some b
  | none, r => r

end TargetUrl

/-- The URL that a request for `target` is sent to. -/
def Url.forRequest (backend : Url) (target : Target) : Url :=
  (backend.withPath (TargetUrl.joinPaths backend.path.text target.path)).withQuery
    (TargetUrl.joinQueries backend.query target.query)

end SiteGateway
