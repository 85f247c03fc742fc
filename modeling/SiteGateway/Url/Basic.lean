import SiteGateway.Url.Host

/-!
# URLs

A URL in its normal form: credentials, path, query and fragment are already percent-encoded, a port
that is the scheme's own is left out. `Url.text` writes it.
-/

namespace SiteGateway

namespace Url

/-- A path is a list of segments, each written after a slash, or for schemes without a hierarchy
(`mailto:`) one text. -/
inductive Path
  | whole (text : Text)
  | segments (list : List Text)
deriving DecidableEq, Repr

def Path.text : Path → Text
  | whole t => t
  | segments ss => ss.flatMap ('/' :: ·)

end Url

structure Url where
  scheme : Text
  username : Text
  password : Text
  host : Option Host
  port : Option Nat
  path : Url.Path
  query : Option Text
  fragment : Option Text
deriving DecidableEq, Repr

namespace Url

/-- How a URL with a scheme is read: `file`, one of the well-known network schemes, or any other. -/
inductive SchemeKind
  | file
  | network
  | foreign
deriving DecidableEq, Repr

def defaultPort? (scheme : Text) : Option Nat :=
  if scheme = "http".toList ∨ scheme = "ws".toList then some 80
  else if scheme = "https".toList ∨ scheme = "wss".toList then some 443
  else if scheme = "ftp".toList then some 21
  else none

def schemeKind (scheme : Text) : SchemeKind :=
  if scheme = "file".toList then .file
  else if (defaultPort? scheme).isSome then .network
  else .foreign

/-- Whether backslashes count as slashes and queries escape apostrophes. -/
def SchemeKind.special : SchemeKind → Bool
  | .foreign => false
  | _ => true

/-- `user:password@`, or nothing if both are empty. -/
def credentials (u : Url) : Text :=
  if u.username.isEmpty && u.password.isEmpty then []
  else u.username ++ (if u.password.isEmpty then [] else ':' :: u.password) ++ ['@']

/-- The host as text, empty if there is none. -/
def hostText (u : Url) : Text := (u.host.map Host.text).getD []

/-- Host and explicit port. -/
def authority (u : Url) : Text :=
  u.hostText ++ (match u.port with
    | some p => ':' :: Text.ofNat p
    | none => [])

/-- The port to connect to: the explicit one, else the scheme's own. -/
def portOrDefault? (u : Url) : Option Nat := u.port.or (defaultPort? u.scheme)

/-- A component after its mark, if it is there. -/
def marked (mark : Char) : Option Text → Text
  | none => []
  | some t => mark :: t

/-- The URL as text. A path that starts with an empty segment is kept apart from an authority by
`/.` when there is none. -/
def text (u : Url) : Text :=
  u.scheme ++ ':' ::
    ((match u.host with
      | some _ => ['/', '/'] ++ u.credentials ++ u.authority
      | none => if ['/', '/'].isPrefixOf u.path.text then ['/', '.'] else []) ++
    u.path.text ++ marked '?' u.query ++ marked '#' u.fragment)

def withoutCredentials (u : Url) : Url := { u with username := [], password := [] }

end Url

end SiteGateway
