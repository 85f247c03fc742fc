import SiteGateway.Markdown.Character

/-!
# Lines and indentation

A document is read line by line. A cursor is a position in a line that counts indentation in
columns: a tab reaches to the next multiple of four, and part of it may be taken.
-/

namespace SiteGateway

namespace Markdown

/-- A line and the line end that was written after it. -/
structure Line where
  text : Text
  ending : Text
deriving DecidableEq, Repr

namespace Line

/-- Puts a character in front of the first line. -/
def cons (c : Char) : List Line → List Line
  | [] => [⟨[c], []⟩]
  | l :: ls => { l with text := c :: l.text } :: ls

/-- The lines of a text. A line ends with a line feed, a carriage return or both. -/
def split : Text → List Line
  | [] => []
  | '\r' :: '\n' :: t => ⟨[], ['\r', '\n']⟩ :: split t
  | c :: t => if isLineEnd c then ⟨[], [c]⟩ :: split t else cons c (split t)

/-- The line end as it is written in a block whose lines are kept. -/
def keptEnding (l : Line) : Text := if l.ending = ['\r', '\n'] then ['\n'] else l.ending

end Line

/-- A position in a line. -/
structure Cursor where
  rest : Text
  /-- Columns since the last tab stop. -/
  column : Nat
  /-- Columns of a tab that are still to be taken. -/
  owed : Nat
deriving DecidableEq, Repr

namespace Cursor

def start (t : Text) : Cursor := ⟨t, 0, 0⟩

/-- Takes at most `limit` columns of indentation and counts them. -/
def indent (limit column : Nat) : Text → Nat × Cursor
  | [] => (0, ⟨[], column, 0⟩)
  | c :: r =>
    if limit = 0 then (0, ⟨c :: r, column, 0⟩)
    else if c = ' ' then
      let (n, k) := indent (limit - 1) (column + 1) r
      (n + 1, k)
    else if c = '\t' then
      let width := 4 - column % 4
      if limit < width then (limit, ⟨r, 0, width - limit⟩)
      else
        let (n, k) := indent (limit - width) 0 r
        (width + n, k)
    else (0, ⟨c :: r, column, 0⟩)

/-- Takes at most `limit` columns, those owed first. -/
def take (limit : Nat) (k : Cursor) : Nat × Cursor :=
  if limit ≤ k.owed then (limit, { k with owed := k.owed - limit })
  else
    let (n, k') := indent (limit - k.owed) k.column k.rest
    (k.owed + n, k')

def mark? (c : Char) (k : Cursor) : Option Cursor :=
  match k.rest with
  | d :: r => if c = d then some { k with rest := r, column := k.column + 1 } else none
  | [] => none

def atEnd (k : Cursor) : Bool := k.rest.isEmpty

def skipIndent (k : Cursor) : Text := k.rest.dropWhile fun c => c == ' ' || c == '\t'

/-- The rest of the line with the columns still owed. -/
def shown (k : Cursor) : Text := List.replicate k.owed ' ' ++ k.rest

end Cursor

end Markdown

end SiteGateway
