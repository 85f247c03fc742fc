import SiteGateway.Text.Basic

/-!
# Inline content

What stands inside a paragraph, a heading or a table cell.
-/

namespace SiteGateway

namespace Markdown

inductive Inline
  | text (t : Text)
  | lineBreak
  | code (t : Text)
  /-- Markup that is written as it stands. -/
  | html (t : Text)
  /-- A reference to a footnote. -/
  | note (label : Text)
  | emphasis (body : List Inline)
  | strong (body : List Inline)
  | struck (body : List Inline)
  | link (destination title : Text) (body : List Inline)
  | image (destination title : Text) (body : List Inline)

end Markdown

end SiteGateway
