import SiteGateway.Url.Basic

/-!
# Reading URLs

`Url.parse?` reads an absolute URL the way browsers do: blanks around it are dropped, tabs and line
ends inside it are ignored, a backslash is a slash after a well-known scheme, dot segments are
resolved. `Url.withPath` and `Url.withQuery` replace one component under the same rules.
-/

namespace SiteGateway

namespace Url

/-! ## Sets of escaped characters -/

def fragmentSet : UInt8 → Bool := Percent.controlAnd " \"<>\x60"
def pathSet : UInt8 → Bool := Percent.controlAnd " \"#<>?\x60\x7b\x7d"
def credentialsSet : UInt8 → Bool := Percent.controlAnd " \"#<>?\x60\x7b\x7d/:;=@[\\]^|"
def querySet : UInt8 → Bool := Percent.controlAnd " \"#<>"
def specialQuerySet : UInt8 → Bool := Percent.controlAnd " \"#<>\x27"

/-- A text with the bytes of the set escaped. -/
def escaped (set : UInt8 → Bool) (t : Text) : Text := Percent.encode set (Utf8.encode t)

/-- The query after a mark, escaped for its scheme. -/
def escapedQuery (kind : SchemeKind) (t : Text) : Text :=
  escaped (if kind.special then specialQuerySet else querySet) t

/-! ## Paths -/

/-- Tabs and line ends are ignored wherever they stand. -/
def withoutLineBreaks (t : Text) : Text := t.filter fun c => !(c == '\t' || c == '\n' || c == '\r')

def isSlash (kind : SchemeKind) (c : Char) : Bool := c == '/' || (kind.special && c == '\\')

/-- A segment naming the current directory. -/
def isDot (s : Text) : Bool :=
  let s := Text.lower s
  s == ".".toList || s == "%2e".toList

/-- A segment naming the directory above. -/
def isDotDot (s : Text) : Bool :=
  let s := Text.lower s
  s == "..".toList || s == "%2e%2e".toList || s == "%2e.".toList || s == ".%2e".toList

/-- A drive such as `C:` or `C|`. -/
def isDrive (s : Text) : Bool :=
  match s with
  | [c, d] => c.isAlpha && (d == ':' || d == '|')
  | _ => false

/-- Goes one directory up; the drive of a file path stays. -/
def shorten (kind : SchemeKind) (segments : List Text) : List Text :=
  match kind, segments with
  | .file, [s] => if isDrive s then [s] else []
  | _, ss => ss.dropLast

/-- A segment as it is kept: escaped, the drive of a file path with a colon. -/
def keptSegment (kind : SchemeKind) (before : List Text) (s : Text) : Text :=
  if kind = .file ∧ before.isEmpty ∧ isDrive s then s.take 1 ++ [':'] else escaped pathSet s

/-- Resolves dot segments in the raw pieces after the segments `before`; a path that ends in a dot
segment ends in a slash. -/
def resolveSegments (kind : SchemeKind) (before : List Text) : List Text → List Text
  | [] => before
  | s :: rest =>
    let closed (ss : List Text) := if rest.isEmpty then ss ++ [[]] else ss
    let now :=
      if isDotDot s then closed (shorten kind before)
      else if isDot s then closed before
      else before ++ [keptSegment kind before s]
    resolveSegments kind now rest

/-- Drops the empty segments in front, but not the last. -/
def withoutEmptyFront : List Text → List Text
  | [] :: s :: rest => withoutEmptyFront (s :: rest)
  | ss => ss

/-- The segments of a path text, whose first slash may be missing. -/
def readSegments (kind : SchemeKind) (t : Text) : List Text :=
  let inner := match t with
    | c :: r => if isSlash kind c then r else t
    | [] => []
  let ss := resolveSegments kind [] (Text.splitBy (isSlash kind) inner)
  if kind = .file then withoutEmptyFront ss else ss

/-- The path after an authority; only a foreign URL may have none. -/
def readPath (kind : SchemeKind) (t : Text) : Path :=
  .segments (if t.isEmpty && !kind.special then [] else readSegments kind t)

/-! ## Authorities -/

/-- The text before the last `@` and the text after it. -/
def cutCredentials (t : Text) : Option Text × Text :=
  match Text.cut? '@' t.reverse with
  | some (after, before) => (some before.reverse, after.reverse)
  | none => (none, t)

/-- The host, up to the first colon outside square brackets, and what follows it. -/
def cutHost (inside : Bool) : Text → Text × Text
  | [] => ([], [])
  | c :: t =>
    if c == ':' && !inside then ([], c :: t)
    else
      let inside := if c == '[' then true else if c == ']' then false else inside
      let (host, rest) := cutHost inside t
      (c :: host, rest)

/-- A port below 65536; none written and the scheme's own are both `none`. -/
def port? (scheme t : Text) : Option (Option Nat) := do
  if t.isEmpty then return none
  let n ← Text.nat? t
  if n < 65536 then return (if defaultPort? scheme = some n then none else some n) else none

def readCredentials (t : Text) : Text × Text :=
  match Text.cut? ':' t with
  | some (user, password) => (escaped credentialsSet user, escaped credentialsSet password)
  | none => (escaped credentialsSet t, [])

/-- Reads authority and path of a URL that has an authority; `more` says whether a query or a
fragment follows. -/
def readAuthority? (scheme : Text) (more : Bool) (t : Text) : Option Url := do
  let kind := schemeKind scheme
  let ahead := t.takeWhile (!isSlash kind ·)
  let path := t.dropWhile (!isSlash kind ·)
  let (info, place) := cutCredentials ahead
  let (username, password) := readCredentials (info.getD [])
  let (hostText, rest) := cutHost false place
  -- Nothing on either side of an at sign is no authority, unless the URL ends there.
  if info == some [] && hostText.isEmpty && rest.isEmpty && (more || !path.isEmpty) then none
  let host ← if kind.special then Host.parse? hostText else Host.parseForeign? hostText
  if hostText.isEmpty && !(rest.isEmpty && username.isEmpty && password.isEmpty) then none
  -- Only in a foreign URL can a backslash be here; the port ends there, and the path begins.
  let portText := (rest.drop 1).takeWhile (· != '\\')
  let port ← port? scheme portText
  return { scheme, username, password, host := some host, port,
           path := readPath kind ((rest.drop 1).dropWhile (· != '\\') ++ path),
           query := none, fragment := none }

/-- Reads what follows `file:`. -/
def readFile? (t : Text) : Option Url := do
  let at' (host : Host) (path : Text) : Url :=
    { scheme := "file".toList, username := [], password := [], host := some host, port := none,
      path := readPath .file path, query := none, fragment := none }
  match t with
  | c :: d :: rest =>
    if isSlash .file c && isSlash .file d then
      let hostText := rest.takeWhile (!isSlash .file ·)
      let path := rest.dropWhile (!isSlash .file ·)
      if isDrive hostText then return at' (.domain []) rest
      else if hostText.isEmpty then return at' (.domain []) path
      else
        let host ← Host.parse? hostText
        return at' (if host = .domain "localhost".toList then .domain [] else host) path
    else return at' (.domain []) t
  | _ => return at' (.domain []) t

/-! ## The whole URL -/

/-- A text up to a mark, and what follows the mark if it is there. -/
def cutMark (mark : Char) (t : Text) : Text × Option Text :=
  match Text.cut? mark t with
  | some (before, after) => (before, some after)
  | none => (t, none)

/-- The scheme in lower case and what follows its colon. -/
def scheme? (t : Text) : Option (Text × Text) := do
  let (scheme, rest) ← Text.cut? ':' t
  let ok := scheme.head?.any Char.isAlpha &&
    scheme.all fun c => c.isAlphanum || c == '+' || c == '-' || c == '.'
  if ok then return (Text.lower scheme, rest) else none

def parse? (input : Text) : Option Url := do
  let t := withoutLineBreaks (Text.trimBy (·.toNat ≤ 0x20) input)
  let (scheme, rest) ← scheme? t
  let (rest, fragment) := cutMark '#' rest
  let (body, query) := cutMark '?' rest
  let kind := schemeKind scheme
  let more := fragment.isSome || query.isSome
  let hierarchical (path : Path) : Url :=
    { scheme, username := [], password := [], host := none, port := none, path,
      query := none, fragment := none }
  let u ← match kind with
    | .file => readFile? body
    | .network => readAuthority? scheme more (body.dropWhile (isSlash kind))
    | .foreign =>
      match body with
      | '/' :: '/' :: t => readAuthority? scheme more t
      | '/' :: t => some (hierarchical (.segments (readSegments kind ('/' :: t))))
      | t => some (hierarchical (.whole (escaped Percent.control t)))
  return { u with query := query.map (escapedQuery kind),
                  fragment := fragment.map (escaped fragmentSet) }

/-- The URL with another path, read from text; question and number signs are part of it. -/
def withPath (u : Url) (t : Text) : Url :=
  let t := withoutLineBreaks t
  match u.path with
  | .whole _ =>
    let shown := match t with
      | '/' :: r => "%2F".toList ++ escaped Percent.control r
      | r => escaped Percent.control r
    { u with path := .whole shown }
  | .segments _ => { u with path := readPath (schemeKind u.scheme) t }

def withQuery (u : Url) (t : Option Text) : Url :=
  { u with query := t.map fun q => escapedQuery (schemeKind u.scheme) (withoutLineBreaks q) }

end Url

end SiteGateway
