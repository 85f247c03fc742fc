import SiteGateway.Files.Name
import SiteGateway.Http.ByteRange
import SiteGateway.Http.MediaType
import SiteGateway.Site.Freshness
import SiteGateway.Site.Listing
import SiteGateway.Site.Root

/-!
# Static files

A file is answered as it is: whole, in part when a range is asked for, or not at all when the
client's copy is good enough; a file that was changed before 1970 or after 9999 is not answered at
all, as no header date names its age. `Site.serveStatic` is the last stage of the gateway and takes
every request: directories get their `index.html`, a listing, or a redirect to their path with a
slash.
-/

namespace SiteGateway

/-- A served directory: the files, where relative paths start, and the path of the directory. -/
structure Site where
  tree : FileTree
  base : Place
  root : Bytes
deriving Repr

namespace StaticFile

/-- The largest piece of a file that is sent at once. -/
def chunkSize : Nat := 65536

/-- The pieces of a file as they are sent. -/
def chunks (bytes : Bytes) : List Bytes :=
  if bytes.isEmpty then [] else bytes.take chunkSize :: chunks (bytes.drop chunkSize)
termination_by bytes.length
decreasing_by
  have : 0 < bytes.length := by
    cases bytes with
    | nil => simp_all
    | cons => simp
  simp only [List.length_drop, chunkSize]
  omega

def body (bytes : Bytes) : Body := .stream (chunks bytes) false

def textField (name : String) (value : Text) : HeaderName × HeaderValue :=
  (name.toList, Utf8.encode value)

/-- The answer to a method that files do not know. -/
def methodNotAllowed : Response := .bare 405 [Headers.field "allow" "GET,HEAD"]

def allows (r : Request) : Bool := r.isMethod "GET" || r.isMethod "HEAD"

/-- The date of a condition. -/
def date? (r : Request) (name : String) : Option Int :=
  (r.headers.text? name.toList).bind HttpDate.parse?

/-- The answer to the conditions of a request, if they settle it. -/
def precondition? (r : Request) (modified : Instant) : Option Response :=
  if (date? r "if-unmodified-since").any (· < modified.seconds) then some (.bare 412 [])
  else if (date? r "if-modified-since").any (modified.seconds ≤ ·) then some (.bare 304 [])
  else none

/-- The content of a file, or the part of it that is asked for. -/
def content (r : Request) (mediaType : String) (bytes : Bytes) (modified : Instant) : Response :=
  let size := bytes.length
  let fields := [Headers.field "content-type" mediaType, Headers.field "accept-ranges" "bytes",
    Page.lastModified modified]
  let unsatisfied := textField "content-range" ("bytes */".toList ++ Text.ofNat size)
  match r.headers.text? "range".toList with
  | none =>
    ⟨200, fields ++ [textField "content-length" (Text.ofNat size)], body bytes, false⟩
  | some range =>
    match ByteRange.parse? size range with
    | none => .bare 416 (fields ++ [unsatisfied])
    | some [(first, last)] =>
      let length := if size = 0 then 0 else last - first + 1
      let place := "bytes ".toList ++ Text.ofNat first ++ '-' :: Text.ofNat last ++
        '/' :: Text.ofNat size
      ⟨206, fields ++ [textField "content-range" place,
        textField "content-length" (Text.ofNat length)], body ((bytes.drop first).take length),
        false⟩
    | some _ =>
      .make 416 (fields ++ [unsatisfied])
        (Utf8.encode "Cannot serve multipart range requests".toList)

/-- The answer when a file cannot be opened: missing, or there but not to be read. -/
def unreadable : FileFault → Response
  | .notFound | .notDirectory => .bare 404 []
  | _ => .bare 500 []

/-- Answers with the file that a path leads to. -/
def serve (site : Site) (path : Bytes) (r : Request) : Response :=
  if !allows r then methodNotAllowed
  else
    match site.tree.read site.base path with
    | .error e => unreadable e
    | .ok (bytes, modified) =>
      if !HttpDate.reaches modified.seconds then .abort
      else
        let mediaType := MediaType.ofExtension ((FileName.ofPath? path).bind FileName.extension?)
        (precondition? r modified).getD (content r mediaType bytes modified)

/-- A redirect to the same target with a slash after its path; a target that is a bare authority has
no such path. -/
def redirectToSlash (r : Request) : Response :=
  if r.target.path.isEmpty then .bare 500 []
  else
    let target := r.target.withPath (r.target.path ++ ['/'])
    .bare 307 [textField "location" target.text]

end StaticFile

namespace Site

/-- The path of a file below the root for a request path. -/
def resolve? (s : Site) (path : Text) : Option Bytes := SiteRoot.resolve? s.root path

def isDirectory (s : Site) (path : Bytes) : Bool := s.tree.isDirectory s.base path

def isFile (s : Site) (path : Bytes) : Bool := s.tree.isFile s.base path

/-- A path with one more name. -/
def child (path : Bytes) (name : FileName) : Bytes := SiteRoot.join path name

def indexName : FileName := Utf8.encode "index.html".toList

def asksDirectory (path : Text) : Bool := path.getLast? == some '/'

def list (s : Site) (path : Bytes) (requestPath : Text) : Except FileFault Response :=
  (Listing.entries s.tree s.base path).map fun es =>
    Page.ok (Listing.page (SiteRoot.display requestPath) es)

/-- Serves a path below the root. A path whose decoded form starts with a slash of its own names no
file. -/
def serveBelow (s : Site) (r : Request) : Response :=
  if !StaticFile.allows r then StaticFile.methodNotAllowed
  else
    match SiteRoot.decode? (r.path.dropWhile (· == '/')) with
    | none => .bare 404 []
    | some decoded =>
      if decoded.head? = some '/' then .bare 404 []
      else
        let path := SiteRoot.joinAll s.root ((SiteRoot.names decoded).map Utf8.encode)
        if s.isDirectory path then
          if asksDirectory r.path then StaticFile.serve s (child path indexName) r
          else StaticFile.redirectToSlash r
        else StaticFile.serve s path r

def serveStatic (s : Site) (r : Request) : Response :=
  match s.resolve? r.path with
  | none => .notFound
  | some path =>
    if "/index.html".toList.isSuffixOf r.path then .bare 301 [Headers.field "location" "./"]
    else if asksDirectory r.path && s.isDirectory path && !s.isFile (child path indexName) then
      match s.list path r.path with
      | .ok response => response
      | .error _ => .notFound
    else s.serveBelow r

end Site

end SiteGateway
