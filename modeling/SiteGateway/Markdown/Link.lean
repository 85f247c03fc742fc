import SiteGateway.Markdown.Escape
import SiteGateway.Text.Casefold

/-!
# Links

The parts of a link: a label in brackets, a destination, a title. A link gives its target in
parentheses after its text, or names a definition by a label. Readers give the rest of the text
along with what they read.
-/

namespace SiteGateway

namespace Markdown

/-- Where a link leads. -/
structure LinkTarget where
  destination : Text
  title : Text
deriving DecidableEq, Repr

/-- What stands in brackets. -/
inductive Label
  | link (text : Text)
  | footnote (text : Text)
deriving DecidableEq, Repr

namespace Label

def limit : Nat := 1000

/-- Reads a label up to its closing bracket. A run of blanks counts as one space and holds at most
one line end; `goesOn` decides whether the label may go on in the line that follows. The arguments
hold what is read, last first, whether a blank has to be written, whether it held a line end, and
how much may still come. -/
def readRest (goesOn : Text → Bool) (read : Text) (blank ended : Bool) :
    Nat → Text → Option (Text × Text)
  | 0, _ => none
  | _, [] => none
  | n + 1, c :: r =>
    let written := if blank then ' ' :: read else read
    if isLineEnd c then
      if c = '\r' ∧ r.head? = some '\n' then readRest goesOn read true ended n r
      else if ended || !goesOn r then none
      else readRest goesOn read true true n r
    else if isSpacing c then readRest goesOn read true ended n r
    else if c = '[' then none
    else if c = ']' then
      if read.isEmpty then none else some (written.reverse, r)
    else if c = '\\' then
      match r with
      | [] => none
      | c' :: r' => readRest goesOn (c' :: '\\' :: written) false false n r'
    else readRest goesOn (c :: written) false false n r

/-- The label whose opening bracket was just read. -/
def read? (goesOn : Text → Bool) (t : Text) : Option (Text × Text) :=
  readRest goesOn [] false false limit t

/-- The label at the start of a text; a caret makes it the label of a footnote, which stays on its
line. -/
def scan? : Text → Option (Label × Text)
  | '[' :: '^' :: r =>
    match if r.head? = some ']' then none else read? (fun _ => false) r with
    | some (l, rest) => some (.footnote l, rest)
    | none => (read? (fun _ => true) ('^' :: r)).map fun (l, rest) => (.link l, rest)
  | '[' :: r => (read? (fun _ => true) r).map fun (l, rest) => (.link l, rest)
  | _ => none

/-- Labels that differ in letter case only are the same. -/
def same (a b : Text) : Bool := Text.casefold a == Text.casefold b

end Label

/-- What the labels of a document stand for. -/
structure Definitions where
  links : List (Text × LinkTarget)
  footnotes : List Text
deriving DecidableEq, Repr

namespace Definitions

/-- The first definition of a label counts. -/
def link? (d : Definitions) (label : Text) : Option LinkTarget :=
  (d.links.find? fun e => Label.same e.1 label).map (·.2)

def hasFootnote (d : Definitions) (label : Text) : Bool :=
  d.footnotes.any fun f => Label.same f label

def addLink (d : Definitions) (label : Text) (t : LinkTarget) : Definitions :=
  { d with links := d.links ++ [(label, t)] }

def addFootnote (d : Definitions) (label : Text) : Definitions :=
  { d with footnotes := d.footnotes ++ [label] }

end Definitions

namespace LinkTarget

/-- A destination between angle brackets, after the first of them. -/
def pointed? : Text → Option (Text × Text)
  | [] => none
  | '>' :: r => some ([], r)
  | '\\' :: c :: r =>
    if isAsciiPunctuation c then (pointed? r).map fun (d, rest) => ('\\' :: c :: d, rest)
    else if c = '>' then some (['\\'], r)
    else if isLineEnd c then none
    else (pointed? r).map fun (d, rest) => ('\\' :: c :: d, rest)
  | c :: r =>
    if isLineEnd c || c == '<' then none
    else (pointed? r).map fun (d, rest) => (c :: d, rest)

/-- A destination without brackets: up to a blank, a control character, or a parenthesis that
closes more than it opened; `nest` counts the open ones. -/
def bare? (limit : Nat) (nest : Nat) : Text → Option (Text × Text)
  | [] => if nest = 0 then some ([], []) else none
  | '\\' :: c :: r =>
    if isAsciiPunctuation c then
      (bare? limit nest r).map fun (d, rest) => ('\\' :: c :: d, rest)
    else (bare? limit nest (c :: r)).map fun (d, rest) => ('\\' :: d, rest)
  | c :: r =>
    if c.toNat ≤ 0x20 then if nest = 0 then some ([], c :: r) else none
    else if c = '(' then
      if nest > limit then none
      else (bare? limit (nest + 1) r).map fun (d, rest) => (c :: d, rest)
    else if c = ')' then
      match nest with
      | 0 => some ([], c :: r)
      | n + 1 => (bare? limit n r).map fun (d, rest) => (c :: d, rest)
    else (bare? limit nest r).map fun (d, rest) => (c :: d, rest)

/-- A destination, its parentheses nested no deeper than `limit` allows. -/
def destination? (limit : Nat) : Text → Option (Text × Text)
  | '<' :: r => pointed? r
  | t => bare? limit 0 t

/-- Blanks with at most one line end among them. -/
def separator (t : Text) : Text :=
  let t := t.dropWhile isSpacing
  match t with
  | '\r' :: '\n' :: r => r.dropWhile isSpacing
  | c :: r => if isLineEnd c then r.dropWhile isSpacing else c :: r
  | [] => []

def titleEnd? : Char → Option Char
  | '"' => some '"'
  | '\'' => some '\''
  | '(' => some ')'
  | _ => none

/-- A title up to its closing character, without escapes. Blanks at the start of a line are
dropped. -/
def titleRest? (inTable : Bool) (start close : Char) : Text → Option (Text × Text)
  | [] => none
  | c :: r =>
    if c = close then some ([], r)
    else if c = start then none
    else if c = '\r' ∧ r.head? = some '\n' then titleRest? inTable start close r
    else if isLineEnd c then
      (titleRest? inTable start close (r.dropWhile isSpacing)).map fun (t, rest) =>
        ('\n' :: t, rest)
    else if c = '&' then
      match reference? r with
      | some (v, rest) =>
        (titleRest? inTable start close (r.drop (r.length - rest.length))).map fun (t, rest) =>
          (v ++ t, rest)
      | none => (titleRest? inTable start close r).map fun (t, rest) => (c :: t, rest)
    else if c = '\\' then
      match r with
      | '\\' :: '|' :: r' =>
        if inTable then
          (titleRest? inTable start close r').map fun (t, rest) => ('|' :: t, rest)
        else (titleRest? inTable start close ('|' :: r')).map fun (t, rest) => ('\\' :: t, rest)
      | d :: r' =>
        if isAsciiPunctuation d then
          (titleRest? inTable start close r').map fun (t, rest) => (d :: t, rest)
        else (titleRest? inTable start close (d :: r')).map fun (t, rest) => (c :: t, rest)
      | [] => none
    else (titleRest? inTable start close r).map fun (t, rest) => (c :: t, rest)
termination_by t => t.length
decreasing_by
  all_goals first
    | exact Nat.lt_succ_of_le (List.dropWhile_sublist _).length_le
    | (simp only [List.length_drop, List.length_cons]; omega)

/-- A target in parentheses, after the first of them: destination and title. -/
def scan? (inTable : Bool) (t : Text) : Option (LinkTarget × Text) := do
  let (destination, t) ← destination? 5 (separator t)
  let destination := unescape inTable destination
  let t := separator t
  let title := match t with
    | c :: r => (titleEnd? c).bind fun close => titleRest? inTable c close r
    | [] => none
  let (title, t) := match title with
    | some (title, t) => (title, separator t)
    | none => ([], t)
  match t with
  | ')' :: r => return (⟨destination, title⟩, r)
  | _ => none

end LinkTarget

end Markdown

end SiteGateway
