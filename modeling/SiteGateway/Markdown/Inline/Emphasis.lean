import SiteGateway.Markdown.Character
import SiteGateway.Markdown.Inline.Basic

/-!
# Emphasis

Runs of asterisks, underscores and tildes mark emphasis. Whether a run may open or close depends on
the characters beside it; a closing run takes the nearest opening run that fits. Two marks on each
side are strong emphasis, one is emphasis, and tildes strike out.
-/

namespace SiteGateway

namespace Markdown

/-- Content in which emphasis is not yet settled. -/
inductive Piece
  | inline (i : Inline)
  /-- A run of `length` marks. -/
  | run (mark : Char) (length : Nat) (opens closes : Bool)

namespace Emphasis

/-- Whether a run between two characters may open emphasis. An underscore or a single tilde may not
do so inside a word. -/
def opens (mark : Char) (length : Nat) (before after : Option Char) : Bool :=
  match after, before with
  | none, _ => false
  | some a, none => !isBlank a
  | some a, some b =>
    !isBlank a &&
      ((mark == '*' && !isPunctuation a) || (mark == '~' && length > 1) ||
        (mark == '~' && b == '~' && !isPunctuation a) || isBlank b || isPunctuation b)

/-- Whether a run between two characters may close emphasis. -/
def closes (mark : Char) (length : Nat) (before after : Option Char) : Bool :=
  match before, after with
  | none, _ => false
  | some b, none => !isBlank b
  | some b, some a =>
    !isBlank b &&
      (((mark == '*' || (mark == '~' && length > 1)) && !isPunctuation b) ||
        (mark == '~' && b == '~') || isBlank a || isPunctuation a)

/-- An open run with the content before it, last first. -/
structure Opener where
  mark : Char
  /-- Marks that are not used yet. -/
  left : Nat
  length : Nat
  /-- Whether the run may close as well. -/
  both : Bool
  before : List Inline

/-- The open runs, innermost first, and the content after the innermost one, last first. -/
structure State where
  openers : List Opener
  body : List Inline

def literal (mark : Char) (n : Nat) : Inline := .text (List.replicate n mark)

/-- Whether a closing run fits an open one. If one of the two may open and close, their lengths must
not add up to a multiple of three unless the closing one is such a multiple; tildes need equal
lengths. -/
def Opener.fits (o : Opener) (mark : Char) (length : Nat) (both : Bool) : Bool :=
  o.mark == mark && (mark != '~' || length == o.length) &&
    ((!both && !o.both) || (length + o.length) % 3 != 0 || length % 3 == 0)

/-- Takes an open run as text, joining the content on its two sides. -/
def Opener.flatten (o : Opener) (body : List Inline) : List Inline :=
  body ++ literal o.mark o.left :: o.before

/-- The innermost open run that fits, the content after it and the runs around it. -/
def match? (mark : Char) (length : Nat) (both : Bool) (body : List Inline) :
    List Opener → Option (Opener × List Inline × List Opener)
  | [] => none
  | o :: os =>
    if o.fits mark length both then some (o, body, os)
    else match? mark length both (o.flatten body) os

/-- Wraps content between `n` marks on each side, two at a time from the inside. -/
def wrap (mark : Char) : Nat → List Inline → List Inline
  | 0, content => content
  | 1, content => if mark = '~' then [.struck content] else [.emphasis content]
  | n + 2, content => wrap mark n (if mark = '~' then [.struck content] else [.strong content])

def dropTildes (body : List Inline) : List Opener → State
  | [] => ⟨[], body⟩
  | o :: os =>
    if o.mark = '~' then dropTildes (o.flatten body) os
    else
      let outer := dropTildes o.before os
      ⟨{ o with before := outer.body } :: outer.openers, body⟩

/-- Closes runs with `count` marks of a run, innermost first; gives the marks left over. A run of
tildes that closes nothing leaves no tildes open. -/
def close (mark : Char) (length : Nat) (both : Bool) : Nat → Nat → State → Nat × State
  | 0, count, s => (count, s)
  | _, 0, s => (0, s)
  | fuel + 1, count, s =>
    match match? mark length both s.body s.openers with
    | none => (count, if mark = '~' then dropTildes s.body s.openers else s)
    | some (o, body, outer) =>
      let used := min count o.left
      let content := wrap mark used body.reverse
      -- Marks that are left over stay open, with all that was wrapped behind them.
      let s := if used < o.left then ⟨{ o with left := o.left - used } :: outer, content⟩
        else ⟨outer, content.reverse ++ o.before⟩
      close mark length both fuel (count - used) s

def step (s : State) : Piece → State
  | .inline i => { s with body := i :: s.body }
  | .run mark length opens closes =>
    let both := opens && closes
    let (count, s) := if closes then close mark length both length length s else (length, s)
    if count = 0 then s
    else if opens then ⟨⟨mark, count, length, both, s.body⟩ :: s.openers, []⟩
    else { s with body := literal mark count :: s.body }

/-- Takes what is still open as text. -/
def finish (s : State) : List Inline :=
  (s.openers.foldl (fun body o => o.flatten body) s.body).reverse

/-- Settles the emphasis of a sequence of pieces. -/
def settle (ps : List Piece) : List Inline := finish (ps.foldl step ⟨[], []⟩)

end Emphasis

end Markdown

end SiteGateway
