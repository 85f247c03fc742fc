import SiteGateway.Percent
import SiteGateway.Text.Utf8

/-!
# Request targets

What stands between method and version in a request line: a path with an optional query, a whole
URL, a bare authority, or `*`. A fragment is cut off. The grammar is more liberal than the standard
in paths, where quotes, braces and characters outside ASCII may stand unescaped.
-/

namespace SiteGateway

/-- A request target. The path may be empty after an authority. -/
structure Target where
  scheme : Option Text
  authority : Option Text
  rawPath : Text
  query : Option Text
deriving DecidableEq, Repr

namespace Target

def pathChar (c : Char) : Bool :=
  let n := c.toNat
  n == 0x21 || n == 0x22 || (0x24 ≤ n && n ≤ 0x3B) || n == 0x3D || (0x40 ≤ n && n ≤ 0x5F) ||
    0x61 ≤ n

def queryChar (c : Char) : Bool :=
  let n := c.toNat
  n == 0x21 || (0x24 ≤ n && n ≤ 0x3B) || n == 0x3D || 0x3F ≤ n

/-- Characters allowed in an authority, apart from percent signs in user information. -/
def authorityChar (c : Char) : Bool :=
  c.isAlphanum || "!$&\x27()*+,;=:@[]-._~".toList.contains c

/-- What checking an authority keeps: the colons since the last bracket or `@`, whether a bracket
was opened and closed, whether a percent sign waits to be excused, and whether the last character
was an `@`. -/
structure AuthorityCheck where
  colons : Nat
  opened : Bool
  closed : Bool
  percent : Bool
  afterAt : Bool

def AuthorityCheck.push? (s : AuthorityCheck) (c : Char) : Option AuthorityCheck :=
  if c == ':' then
    if s.colons < 8 then some { s with colons := s.colons + 1, afterAt := false } else none
  else if c == '[' then
    if s.percent || s.opened then none else some { s with opened := true, afterAt := false }
  else if c == ']' then
    -- Colons and percent signs inside the brackets belong to the address; they do not count.
    if !s.opened || s.closed then none
    else some { s with closed := true, colons := 0, percent := false, afterAt := false }
  else if c == '@' then some { s with colons := 0, percent := false, afterAt := true }
  else if c == '%' then some { s with percent := true, afterAt := false }
  else if authorityChar c then some { s with afterAt := false }
  else none

/-- A host with optional user information and port: brackets in pairs, at most one colon outside
them after the user information, and percent signs only in the user information or in brackets. -/
def validAuthority (t : Text) : Bool :=
  match t.foldlM AuthorityCheck.push? ⟨0, false, false, false, false⟩ with
  | none => false
  | some s => s.opened == s.closed && s.colons ≤ 1 && !s.percent && !s.afterAt

/-- A scheme before `://` and what follows; the two schemes of the web lose their case. -/
def scheme? (t : Text) : Option (Text × Text) := do
  let (scheme, rest) ← Text.cutAt? "://".toList t
  let ok := scheme.length ≤ 64 &&
    scheme.all fun c => c.isAlphanum || c == '+' || c == '-' || c == '.'
  if !ok then none
  let low := Text.lower scheme
  return (if low = "http".toList ∨ low = "https".toList then low else scheme, rest)

/-- The path and the query in front of any fragment. -/
def pathAndQuery? (t : Text) : Option (Text × Option Text) :=
  let t := t.takeWhile (· != '#')
  match Text.cut? '?' t with
  | none => if t.all pathChar then some (t, none) else none
  | some (path, query) =>
    if path.all pathChar && query.all queryChar then some (path, some query) else none

/-- The longest target that is read, in bytes. -/
def maxLength : Nat := 65534

def parse? (t : Text) : Option Target :=
  if maxLength < (Utf8.encode t).length then none else
  match t with
  | [] => none
  | ['*'] => some ⟨none, none, ['*'], none⟩
  | '/' :: _ => (pathAndQuery? t).map fun (path, query) => ⟨none, none, path, query⟩
  | _ =>
    match scheme? t with
    | none => if validAuthority t then some ⟨none, some t, [], none⟩ else none
    | some (scheme, rest) =>
      let inside (c : Char) := !(c == '/' || c == '?' || c == '#')
      let authority := rest.takeWhile inside
      if authority.isEmpty || !validAuthority authority then none
      else (pathAndQuery? (rest.dropWhile inside)).map fun (path, query) =>
        ⟨some scheme, some authority, path, query⟩

/-- The path; a whole URL without one has `/`, a bare authority has none. -/
def path (t : Target) : Text :=
  if t.rawPath.isEmpty && t.scheme.isSome then ['/'] else t.rawPath

def queryText (t : Target) : Text :=
  match t.query with
  | none => []
  | some q => '?' :: q

/-- Path and query as one text; `/` when there is nothing to show. -/
def pathAndQuery (t : Target) : Text :=
  let shown := t.rawPath ++ t.queryText
  if shown.isEmpty then ['/'] else shown

def text (t : Target) : Text :=
  (match t.scheme with
    | some s => s ++ "://".toList
    | none => []) ++ t.authority.getD [] ++ t.path ++ t.queryText

def withPath (t : Target) (path : Text) : Target := { t with rawPath := path }

/-- The bytes that the path spells once its escapes are undone. -/
def decodedPath (t : Target) : Bytes := Percent.decode (Utf8.encode t.path)

end Target

end SiteGateway
