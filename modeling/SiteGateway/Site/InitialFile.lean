import SiteGateway.Http.Message

/-!
# The initial file

A file that is served for `/`: the request's path is replaced by the path of the file before any
other rule looks at it.
-/

namespace SiteGateway

namespace InitialFile

/-- Characters escaped inside a segment. -/
def segmentSet : UInt8 → Bool := Percent.controlAnd " \"#%<>?\x60\x7b\x7d"

/-- Resolves `.` and `..` without looking at any file; `..` never leaves the root. -/
def cleanSegments (segments : List Text) : List Text :=
  segments.foldl (fun kept s =>
    if s = [] ∨ s = ['.'] then kept
    else if s = ['.', '.'] then kept.dropLast
    else kept ++ [s]) []

/-- The segments of a file's path; a backslash separates like a slash. -/
def segments (file : Text) : List Text :=
  cleanSegments (Text.splitBy (fun c => c == '/' || c == '\\') file)

def target (file : Text) : Text :=
  '/' :: Text.join ['/'] ((segments file).map fun s => Percent.encode segmentSet (Utf8.encode s))

/-- The target of a request with `/` replaced by the initial file; the query stays. -/
def retarget (path : Text) (t : Target) : Target := if t.path = ['/'] then t.withPath path else t

end InitialFile

end SiteGateway
