import SiteGateway.Markdown.Line

/-!
# Containers

Blocks that hold blocks. A line belongs to an open container if it starts with what the container
asks for: an angle bracket for a quote, indentation for a list item or a footnote.
-/

namespace SiteGateway

namespace Markdown

inductive Container
  | quote
  /-- A list by the mark of its items and its first number. -/
  | list (mark : Char) (start : Nat) (tight : Bool)
  /-- An item whose content starts `indent` columns in. -/
  | item (indent : Nat)
  | note (label : Text)
deriving DecidableEq, Repr

/-- The angle bracket of a quote and a space after it. -/
def quoteMark? (k : Cursor) : Option Cursor := (k.mark? '>').map fun k => (k.take 1).2

namespace Container

/-- Indentation, which a line without content need not have. -/
def indented? (n : Nat) (k : Cursor) : Option Cursor :=
  let (m, k) := k.take n
  if m = n ∨ k.atEnd then some k else none

/-- What is left of a line that belongs to the container. -/
def strip? (k : Cursor) : Container → Option Cursor
  | quote => quoteMark? (k.take 3).2
  | list .. => some k
  | item n => indented? n k
  | note _ => indented? 4 k

/-- The number of containers, from the outermost, that a line belongs to, and what is left of the
line. -/
def strip (k : Cursor) : List Container → Nat × Cursor
  | [] => (0, k)
  | c :: cs =>
    match c.strip? k with
    | none => (0, k)
    | some k' =>
      let (n, k'') := strip k' cs
      (n + 1, k'')

/-- What is left of a line that belongs to all the containers. -/
def stripAll? (cs : List Container) (l : Line) : Option Cursor :=
  let (n, k) := strip (Cursor.start l.text) cs
  if n = cs.length then some k else none

end Container

end Markdown

end SiteGateway
