import SiteGateway.Text.Basic

/-!
# Blocks

The parts of a document. Inline content is kept as its source, since the definitions that it needs
may come later in the document.
-/

namespace SiteGateway

namespace Markdown

inductive Alignment
  | unset | left | center | right
deriving DecidableEq, Repr

inductive Block
  /-- A paragraph, and the state of the task it describes. -/
  | paragraph (task : Option Bool) (source : Text)
  | heading (level : Nat) (task : Option Bool) (source : Text)
  | rule
  /-- Code that is set off by indentation, or by fences with an info string. -/
  | code (info : Text) (text : Text)
  | html (text : Text)
  /-- A table: the first row is its head, and every row has a cell for each column. -/
  | table (columns : List Alignment) (rows : List (List Text))
  /-- A task that is not described. -/
  | task (done : Bool)
  | quote (blocks : List Block)
  /-- A list, numbered from `start` on or not numbered. In a tight one paragraphs are not set
  apart. -/
  | list (start : Option Nat) (tight : Bool) (items : List Block)
  | item (blocks : List Block)
  | note (label : Text) (blocks : List Block)

end Markdown

end SiteGateway
