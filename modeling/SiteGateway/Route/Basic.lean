import SiteGateway.Text.Blank
import SiteGateway.Text.Quoted
import SiteGateway.Url.Parser

/-!
# Routes

A route sends the requests whose path starts with a prefix to a backend. `Route.parse?` reads the
written form `prefix=url`; `RouteFault` lists what can be wrong with it.
-/

namespace SiteGateway

structure Route where
  pathPrefix : Text
  backend : Url
deriving DecidableEq, Repr

/-- What is wrong with one mapping. -/
inductive RouteFault
  | emptyMapping
  | noSeparator
  | emptyPrefix
  | relativePrefix
  | emptyBackend
  | noHost
  | badHost
  | unreadableBackend
  | foreignScheme
deriving DecidableEq, Repr

def RouteFault.message : RouteFault → String
  | emptyMapping => "empty mapping"
  | noSeparator => "mapping must be in /from=http://backend form"
  | emptyPrefix => "empty path prefix"
  | relativePrefix => "path prefix must start with /"
  | emptyBackend => "empty backend url"
  | noHost => "backend url must include host"
  | badHost => "backend url must include valid host"
  | unreadableBackend => "backend url does not parse"
  | foreignScheme => "backend url must use http or https"

inductive RouteError
  | invalid (mapping : Text) (fault : RouteFault)
  | duplicatePrefix (pathPrefix : Text)
deriving DecidableEq, Repr

def RouteError.message : RouteError → Text
  | invalid mapping fault =>
    "proxy.route.invalid: ".toList ++ fault.message.toList ++ " (mapping ".toList ++
      mapping.quoted ++ [')']
  | duplicatePrefix p => "proxy.routes.invalid: duplicate path prefix ".toList ++ p

namespace Route

/-- The text between `://` and the next slash, question mark or number sign. -/
def writtenAuthority? (backend : Text) : Option Text :=
  (Text.cutAt? "://".toList backend).map fun (_, rest) =>
    rest.takeWhile fun c => !(c == '/' || c == '?' || c == '#')

/-- The backend URL of a mapping. The written authority is checked before the URL is read, because
reading forgives an authority that is missing or ends in a colon. -/
def readBackend (backend : Text) : Except RouteFault Url :=
  if (Text.trim backend).isEmpty then .error .emptyBackend
  else
    match writtenAuthority? backend with
    | none => .error .noHost
    | some authority =>
      if authority.isEmpty then .error .noHost
      else if authority.getLast? = some ':' then .error .badHost
      else
        match Url.parse? backend with
        | none => .error .unreadableBackend
        | some url =>
          if url.scheme ≠ "http".toList ∧ url.scheme ≠ "https".toList then .error .foreignScheme
          else if url.hostText.isEmpty || Text.hasInfix "//".toList url.hostText then
            .error .badHost
          else .ok url

def check (pathPrefix backend : Text) : Except RouteFault Route :=
  match pathPrefix with
  | [] => .error .emptyPrefix
  | '/' :: _ => (readBackend backend).map fun url => ⟨pathPrefix, url⟩
  | _ => .error .relativePrefix

def ofParts (pathPrefix backend : Text) : Except RouteError Route :=
  (check pathPrefix backend).mapError (.invalid (pathPrefix ++ '=' :: backend))

/-- Reads `prefix=url`; blanks around the whole and around both sides are dropped. -/
def parse (written : Text) : Except RouteError Route :=
  let mapping := Text.trim written
  if mapping.isEmpty then .error (.invalid written .emptyMapping)
  else
    match Text.cut? '=' mapping with
    | none => .error (.invalid mapping .noSeparator)
    | some (pathPrefix, backend) => ofParts (Text.trim pathPrefix) (Text.trim backend)

def authority (r : Route) : Text := r.backend.authority

def usesTls (r : Route) : Bool := r.backend.scheme == "https".toList

def covers (r : Route) (path : Text) : Bool := r.pathPrefix.isPrefixOf path

end Route

end SiteGateway
