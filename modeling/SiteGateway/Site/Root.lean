import SiteGateway.Percent
import SiteGateway.Text.Utf8

/-!
# The served directory

`SiteRoot.resolve?` maps a request path to a path below the served directory: the path is
percent-decoded, empty and `.` components are skipped, and a path that holds `..`, a backslash or a
NUL byte, or that is not UTF-8, leads nowhere.
-/

namespace SiteGateway

namespace SiteRoot

def join (path name : Bytes) : Bytes :=
  if path.isEmpty || path.getLast? == some 0x2F then path ++ name else path ++ 0x2F :: name

def joinAll (path : Bytes) (names : List Bytes) : Bytes := names.foldl join path

/-- The text that a request path spells once its escapes are undone. -/
def decode? (path : Text) : Option Text := Utf8.decode? (Percent.decode (Utf8.encode path))

/-- The components of a decoded path that are names. -/
def names (decoded : Text) : List Text :=
  (Text.split '/' decoded).filter fun c => c ≠ [] ∧ c ≠ ['.']

/-- Whether a decoded path stays below the root. -/
def stays (decoded : Text) : Bool :=
  !decoded.contains '\\' && !decoded.contains '\x00' &&
    !(Text.split '/' decoded).contains ['.', '.']

/-- The path below `root` that a request path names. -/
def resolve? (root : Bytes) (path : Text) : Option Bytes := do
  let decoded ← decode? path
  if stays decoded then some (joinAll root ((names decoded).map Utf8.encode)) else none

def display (path : Text) : Text := Utf8.decodeLossy (Percent.decode (Utf8.encode path))

end SiteRoot

end SiteGateway
