import SiteGateway.Toml.Scalar

/-!
# TOML documents

`Toml.parse?` reads a whole document: lines of keys and values, headers of tables and of arrays of
tables, comments.
-/

namespace SiteGateway

namespace Toml

/-- A comment, if one starts here, without the end of its line. -/
def skipComment? (t : Text) : Option Text :=
  match t with
  | '#' :: r =>
    let rest := r.dropWhile isPlain
    match rest with
    | [] => some []
    | '\n' :: _ => some rest
    | '\r' :: '\n' :: _ => some rest
    | _ => none
  | _ => some t

/-- What follows the end of a line, in front of which blanks and a comment may stand. -/
def restOfLine? (t : Text) : Option Text := do
  let t ← skipComment? (skipGaps t)
  if t.isEmpty then some [] else lineEnd? t

def skipSpace? : Nat → Text → Option Text
  | 0, t => some t
  | fuel + 1, t => do
    let t ← skipComment? (skipGaps t)
    match lineEnd? t with
    | some r => skipSpace? fuel r
    | none => return t

def isBare (c : Char) : Bool := c.isAlphanum || c == '_' || c == '-'

def simpleKey? (t : Text) : Option (Text × Text) :=
  match t with
  | '"' :: r => basic? (r.length + 1) [] r
  | '\'' :: r => literal? r
  | _ =>
    let k := t.takeWhile isBare
    if k.isEmpty then none else some (k, t.drop k.length)

def key? : Nat → Text → Option (List Text × Text)
  | 0, _ => none
  | fuel + 1, t => do
    let (k, t) ← simpleKey? (skipGaps t)
    match skipGaps t with
    | '.' :: r => do
      let (ks, t) ← key? fuel r
      return (k :: ks, t)
    | r => return ([k], r)

/-- Characters of numbers, truth values, dates and times. -/
def isWordChar (c : Char) : Bool := c.isAlphanum || "_-+.:".toList.contains c

/-- The longest word here; a blank inside belongs to it when it stands between a date and a time. -/
def wordAt (t : Text) : Text × Text :=
  let w := t.takeWhile isWordChar
  let rest := t.drop w.length
  match rest with
  | ' ' :: d :: r =>
    if isDay w && d.isDigit then
      let time := (d :: r).takeWhile isWordChar
      (w ++ ' ' :: time, (d :: r).drop time.length)
    else (w, rest)
  | _ => (w, rest)

mutual

def value? : Nat → Text → Option (Value × Text)
  | 0, _ => none
  | fuel + 1, t =>
    match t with
    | '[' :: r => do
      let (items, r) ← items? fuel r
      return (.array items, r)
    | '{' :: r => do
      let r := skipGaps r
      match r with
      | '}' :: r => return (.table .inside [], r)
      | _ => do
        let (es, r) ← pairs? fuel [] r
        return (.table .inside es, r)
    | '"' :: _ => (string? t).map fun (s, r) => (.string s, r)
    | '\'' :: _ => (string? t).map fun (s, r) => (.string s, r)
    | _ => do
      let (w, r) := wordAt t
      return (← word? w, r)

/-- The items of an array up to its bracket. -/
def items? : Nat → Text → Option (List Value × Text)
  | 0, _ => none
  | fuel + 1, t => do
    let t ← skipSpace? t.length t
    match t with
    | ']' :: r => return ([], r)
    | _ => do
      let (v, t) ← value? fuel t
      let t ← skipSpace? t.length t
      match t with
      | ',' :: r => do
        let (vs, r) ← items? fuel r
        return (v :: vs, r)
      | ']' :: r => return ([v], r)
      | _ => none

/-- The pairs of a table in braces up to its brace. -/
def pairs? : Nat → Entries → Text → Option (Entries × Text)
  | 0, _, _ => none
  | fuel + 1, es, t => do
    let (key, t) ← key? (t.length + 1) t
    match t with
    | '=' :: r => do
      let (v, r) ← value? fuel (skipGaps r)
      let es ← insertDotted es key v
      match skipGaps r with
      | ',' :: r => pairs? fuel es (skipGaps r)
      | '}' :: r => return (es, r)
      | _ => none
    | _ => none

end

/-- How deep arrays and tables may stand in one another, and how many parts a key may have. -/
def maxDepth : Nat := 79

/-- A key, its value and the end of the line. -/
def pair? (t : Text) : Option (List Text × Value × Text) := do
  let (key, t) ← key? (t.length + 1) t
  match t with
  | '=' :: r => do
    let r := skipGaps r
    let (v, r) ← value? (r.length + 1) r
    if maxDepth < key.length ∨ maxDepth < v.depth then none
    return (key, v, ← restOfLine? r)
  | _ => none

/-- One line that says something. -/
inductive Line
  | pair (key : List Text) (value : Value)
  | header (many : Bool) (key : List Text)

/-- The next line that says something, if there is one. -/
def line? (t : Text) : Option (Line × Text) :=
  match t with
  | '[' :: '[' :: r => do
    let (key, r) ← key? (r.length + 1) r
    if maxDepth < key.length then none
    match r with
    | ']' :: ']' :: r => return (.header true key, ← restOfLine? r)
    | _ => none
  | '[' :: r => do
    let (key, r) ← key? (r.length + 1) r
    if maxDepth < key.length then none
    match r with
    | ']' :: r => return (.header false key, ← restOfLine? r)
    | _ => none
  | _ => do
    let (key, v, r) ← pair? t
    return (.pair key v, r)

def lines? : Nat → Text → Option (List Line)
  | 0, _ => none
  | fuel + 1, t => do
    let t ← skipSpace? t.length t
    if t.isEmpty then return []
    let (l, t) ← line? t
    return l :: (← lines? fuel t)

/-- Pairs in front of the first header, and the headers with the pairs that follow them. -/
def sections :
    List Line → List (List Text × Value) × List (Bool × List Text × List (List Text × Value))
  | [] => ([], [])
  | .pair k v :: ls =>
    let (front, rest) := sections ls
    ((k, v) :: front, rest)
  | .header many key :: ls =>
    let (front, rest) := sections ls
    ([], (many, key, front) :: rest)

def addPairs (pairs : List (List Text × Value)) (es : Entries) : Option Entries :=
  pairs.foldlM (fun es (k, v) => insertDotted es k v) es

/-- Reads a document; a byte order mark may stand in front. -/
def parse? (t : Text) : Option Entries := do
  let t := match t with
    | '\uFEFF' :: r => r
    | r => r
  let (front, rest) := sections (← lines? (t.length + 1) t)
  rest.foldlM (fun es (many, key, pairs) => openTable many (addPairs pairs) es key)
    (← addPairs front [])

end Toml

end SiteGateway
