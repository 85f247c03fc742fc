import SiteGateway.Text.Basic

/-!
# Escaping for HTML

Text for element content and quoted attribute values, and the small document that generated pages
are wrapped in.
-/

namespace SiteGateway

namespace Html

/-- The five characters with a meaning of their own are written as entities. -/
def escapeChar : Char → Text
  | '&' => "&amp;".toList
  | '<' => "&lt;".toList
  | '>' => "&gt;".toList
  | '"' => "&quot;".toList
  | '\'' => "&#39;".toList
  | c => [c]

/-- Text for element content and quoted attribute values. -/
def escape (t : Text) : Text := t.flatMap escapeChar

/-- A document with a title around a finished body. -/
def document (title body : Text) : Text :=
  "<!DOCTYPE html><html lang=\"en\"><head><meta charset=\"utf-8\"><title>".toList ++ escape title ++
    "</title></head><body>".toList ++ body ++ "</body></html>".toList

end Html

end SiteGateway
