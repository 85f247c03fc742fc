import SiteGateway.Html.Escape
import SiteGateway.Markdown.Render
import SiteGateway.Site.StaticFile

/-!
# Markdown documents

A Markdown file is answered as the page it describes. A directory without an index page is answered
by its document: `README.md` in any letter case, else its only Markdown file.
-/

namespace SiteGateway

namespace Site

/-- The page of the Markdown file at a path, unless the file cannot be read. -/
def document? (s : Site) (headers : Headers) (path : Bytes) : Option Response :=
  match s.tree.read s.base path with
  | .error _ => none
  | .ok (source, modified) =>
    let html := Html.document (titleOfPath path) (Markdown.toHtml (Utf8.decodeLossy source))
    some (Page.respond headers html modified)

/-- Index pages that a directory's document does not replace. -/
def indexNames : List FileName := ["index.html", "index.htm"].map fun n => Utf8.encode n.toList

def hasIndex (s : Site) (path : Bytes) : Bool := indexNames.any fun n => s.isFile (child path n)

def isReadme (n : FileName) : Bool :=
  Text.sameLetters (Utf8.decodeLossy n) "README.md".toList

/-- The document among the Markdown files of a directory. -/
def chooseDocument (names : List FileName) : Option FileName :=
  match names.find? isReadme with
  | some n => some n
  | none =>
    match names with
    | [n] => some n
    | _ => none

def directoryDocument? (s : Site) (path : Bytes) : Option FileName :=
  match s.tree.list s.base path with
  | .error _ => none
  | .ok names =>
    chooseDocument (names.filter fun n => s.isFile (child path n) && FileName.isMarkdown n)

end Site

end SiteGateway
