import SiteGateway.Markdown.Inline.Emphasis
import SiteGateway.Markdown.Link
import SiteGateway.Markdown.Tag

/-!
# Reading inline content

The source of a paragraph is read from left to right. Code, markup and links bind tighter than
emphasis, so runs of marks are only noted; they are settled inside each link when it closes and in
the whole at the end.
-/

namespace SiteGateway

namespace Markdown

/-- An opening bracket with everything before it, last first. -/
structure Bracket where
  image : Bool
  /-- Whether it may still become a link. -/
  live : Bool
  /-- The source from the bracket on. -/
  source : Text
  before : List Piece

/-- The brackets that are open, innermost first, and what follows the innermost one, last first. -/
structure InlineState where
  brackets : List Bracket
  pieces : List Piece

namespace InlineState

def push (s : InlineState) (i : Inline) : InlineState := { s with pieces := .inline i :: s.pieces }

def pushText (s : InlineState) (t : Text) : InlineState := s.push (.text t)

def flattenBracket (pieces : List Piece) (b : Bracket) : List Piece :=
  pieces ++ .inline (.text (if b.image then ['!', '['] else ['['])) :: b.before

/-- Everything as one sequence, last first. -/
def flatten (s : InlineState) : List Piece := s.brackets.foldl flattenBracket s.pieces

def pushBracket (s : InlineState) (image : Bool) (source : Text) : InlineState :=
  ⟨⟨image, true, source, s.pieces⟩ :: s.brackets, []⟩

end InlineState

/-- What the text around a position is read with. -/
structure InlineContext where
  definitions : Definitions
  inTable : Bool

namespace InlineContext

/-- The label that a closing bracket refers to, and how much of the source after it belongs to the
link: a label of its own, empty brackets, or else the link's text is the label. -/
def labelAfter? (b : Bracket) (r : Text) : Option (Label × Nat) :=
  let inner (used : Nat) : Option (Label × Nat) :=
    match Label.scan? (b.source.take (b.source.length - r.length)) with
    | some (l, []) => some (l, used)
    | _ => none
  match r with
  | '[' :: ']' :: _ => inner 2
  | _ =>
    match Label.scan? r with
    | some (.link l, rest) => some (.link l, r.length - rest.length)
    | _ => inner 0

/-- Closes the innermost bracket at a closing one; `r` is the source after that. Gives the length of
the source that the link takes up. -/
def closeBracket (x : InlineContext) (s : InlineState) (r : Text) : InlineState × Nat :=
  match s.brackets with
  | [] => (s.pushText [']'], 0)
  | b :: bs =>
    let flat : InlineState := ⟨bs, .inline (.text [']']) :: InlineState.flattenBracket s.pieces b⟩
    let link (t : LinkTarget) : InlineState :=
      let body := Emphasis.settle s.pieces.reverse
      if b.image then ⟨bs, .inline (.image t.destination t.title body) :: b.before⟩
      else
        -- A link cannot stand in a link, so that the brackets around this one make none any more.
        ⟨bs.map fun o => if o.image then o else { o with live := false },
          .inline (.link t.destination t.title body) :: b.before⟩
    if !b.live then (flat, 0)
    else
      let inline? := match r with
        | '(' :: r' => LinkTarget.scan? x.inTable r'
        | _ => none
      match inline? with
      | some (t, rest) => (link t, r.length - rest.length)
      | none =>
        match labelAfter? b r with
        | some (.link l, used) =>
          match x.definitions.link? l with
          | some t => (link t, used)
          | none => (flat, 0)
        | some (.footnote l, _) =>
          if x.definitions.hasFootnote l then
            let before := if b.image then .inline (.text ['!']) :: b.before else b.before
            (⟨[], .inline (.note l) :: (InlineState.mk bs before).flatten⟩, 0)
          else (flat, 0)
        | none => (flat, 0)

end InlineContext

/-- The code up to a run of exactly `n` backticks, and what follows it. -/
def codeEnd? (n : Nat) : Text → Option (Text × Text)
  | [] => none
  | c :: r =>
    if c = '\x60' then
      let k := (r.takeWhile (· = '\x60')).length
      if k + 1 = n then some ([], r.drop k)
      else (codeEnd? n (r.drop k)).map fun (t, rest) => (List.replicate (k + 1) c ++ t, rest)
    else (codeEnd? n r).map fun (t, rest) => (c :: t, rest)
termination_by t => t.length
decreasing_by all_goals simp only [List.length_drop, List.length_cons]; omega

/-- In a table an escaped bar is a bar, in code too. -/
def unescapeBars : Text → Text
  | '\\' :: '|' :: r => '|' :: unescapeBars r
  | c :: r => c :: unescapeBars r
  | [] => []

/-- The text of code: line ends are spaces, and one space on each side is dropped, unless there is
nothing else. -/
def codeText (inTable : Bool) (t : Text) : Text :=
  let t := if inTable then unescapeBars t else t
  let t := t.map fun c => if isLineEnd c then ' ' else c
  if t.head? = some ' ' ∧ t.getLast? = some ' ' ∧ t.any (· ≠ ' ') then (t.drop 1).dropLast else t

/-- A character with a meaning of its own. -/
def isSpecial (c : Char) : Bool := "\\*_~\x60<![]&\n\r".toList.contains c || isSpacing c

/-- The length of a line end and of the blanks after it. -/
def lineEndLength : Text → Nat
  | '\r' :: '\n' :: r => 2 + (r.takeWhile fun c => c == ' ' || c == '\t').length
  | _ :: r => 1 + (r.takeWhile fun c => c == ' ' || c == '\t').length
  | [] => 0

namespace InlineContext

/-- Code whose opening backticks, `n` of them, were just read. -/
def code? (x : InlineContext) (n : Nat) (r : Text) : Option (Inline × Nat) :=
  (codeEnd? n r).map fun (t, rest) => (.code (codeText x.inTable t), r.length - rest.length)

def stepBackslash (x : InlineContext) (s : InlineState) (r : Text) : InlineState × Nat :=
  match r with
  | '\x60' :: r' =>
    let n := (r'.takeWhile (· = '\x60')).length
    match if n = 0 then none else code? x n (r'.drop n) with
    | some (c, used) => ((s.pushText ['\x60']).push c, 1 + n + used)
    | none => (s.pushText (List.replicate (n + 1) '\x60'), n + 1)
  | '\\' :: '|' :: _ => if x.inTable then (s.pushText ['|'], 2) else (s.pushText ['\\'], 1)
  | c :: _ =>
    if isLineEnd c then (s.push .lineBreak, lineEndLength r)
    else if isAsciiPunctuation c then (s.pushText [c], 1)
    else (s.pushText ['\\'], 0)
  | [] => (s.pushText ['\\'], 0)

def stepAngle (s : InlineState) (r : Text) : InlineState × Nat :=
  let used (rest : Text) : Nat := r.length - rest.length
  match Tag.address? r with
  | some (a, rest) => (s.push (.link a [] [.text a]), used rest)
  | none =>
    match Tag.mailbox? r with
    | some (a, rest) => (s.push (.link ("mailto:".toList ++ a) [] [.text a]), used rest)
    | none =>
      match Tag.raw? r with
      | some rest => (s.push (.html ('<' :: r.take (used rest))), used rest)
      | none => (s.pushText ['<'], 0)

/-- Reads from one character on, and gives the number of further characters that were read. -/
def step (x : InlineContext) (before : Option Char) (s : InlineState) (c : Char) (r : Text) :
    InlineState × Nat :=
  if c = '\\' then stepBackslash x s r
  else if isLineEnd c then (s.push .lineBreak, lineEndLength (c :: r) - 1)
  else if isSpacing c then
    let n := (r.takeWhile isSpacing).length
    match r.drop n with
    | [] => (s, n)
    | d :: _ => if isLineEnd d then (s, n) else (s.pushText (c :: r.take n), n)
  else if c = '*' ∨ c = '_' ∨ c = '~' then
    let n := (r.takeWhile (· = c)).length
    let after := (r.drop n).head?
    let opens := Emphasis.opens c (n + 1) before after
    let closes := Emphasis.closes c (n + 1) before after
    if (opens || closes) && (c ≠ '~' || n < 2) then
      ({ s with pieces := .run c (n + 1) opens closes :: s.pieces }, n)
    else (s.pushText (List.replicate (n + 1) c), n)
  else if c = '\x60' then
    let n := (r.takeWhile (· = c)).length
    match code? x (n + 1) (r.drop n) with
    | some (i, used) => (s.push i, n + used)
    | none => (s.pushText (List.replicate (n + 1) c), n)
  else if c = '<' then stepAngle s r
  else if c = '!' ∧ r.head? = some '[' then (s.pushBracket true r, 1)
  else if c = '[' then (s.pushBracket false (c :: r), 0)
  else if c = ']' then closeBracket x s r
  else if c = '&' then
    match reference? r with
    | some (v, rest) => (s.pushText v, r.length - rest.length)
    | none => (s.pushText [c], 0)
  else
    let plain := r.takeWhile fun d => !isSpecial d
    (s.pushText (c :: plain), plain.length)

/-- Reads the source that follows the character `before`. -/
def scan (x : InlineContext) (before : Option Char) (s : InlineState) : Text → InlineState
  | [] => s
  | c :: r =>
    let (s, n) := step x before s c r
    scan x (c :: r.take n).getLast? s (r.drop n)
termination_by t => t.length
decreasing_by simp only [List.length_drop, List.length_cons]; omega

def inlines (x : InlineContext) (source : Text) : List Inline :=
  Emphasis.settle (scan x none ⟨[], []⟩ source).flatten.reverse

end InlineContext

end Markdown

end SiteGateway
