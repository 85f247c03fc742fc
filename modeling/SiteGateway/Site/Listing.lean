import SiteGateway.Files.Tree
import SiteGateway.Html.Escape
import SiteGateway.Site.Root
import SiteGateway.Text.Lowercase

/-!
# Directory listings

The page for a directory: one link for every entry, directories marked by a slash, in the order of
their names without regard to letter case.
-/

namespace SiteGateway

structure ListingEntry where
  name : Text
  isDirectory : Bool
deriving DecidableEq, Repr

namespace Listing

/-- The path of an entry below the path of its directory. -/
def joinLink (base name : Text) : Text :=
  if base.getLast? = some '/' then base ++ name else base ++ '/' :: name

def label (e : ListingEntry) : Text := e.name ++ (if e.isDirectory then ['/'] else [])

def link (base : Text) (e : ListingEntry) : Text :=
  let l := joinLink base e.name
  if e.isDirectory ∧ l.getLast? ≠ some '/' then l ++ ['/'] else l

def item (base : Text) (e : ListingEntry) : Text :=
  "<li><a href=\"".toList ++ Html.escape (link base e) ++ "\">".toList ++ Html.escape (label e) ++
    "</a></li>".toList

def page (path : Text) (entries : List ListingEntry) : Text :=
  let title := Html.escape path
  "<!DOCTYPE html><html lang=\"en\"><head><meta charset=\"utf-8\"><title>Index of ".toList ++
    title ++ "</title></head><body><h1>Index of ".toList ++ title ++ "</h1><ul>".toList ++
    entries.flatMap (item path) ++ "</ul></body></html>".toList

def sort (entries : List ListingEntry) : List ListingEntry :=
  entries.mergeSort fun a b => Text.le (Text.lowercase a.name) (Text.lowercase b.name)

/-- The entries of the directory that a path leads to. A link that leads nowhere is no directory. -/
def entries (t : FileTree) (base : Place) (path : Bytes) :
    Except FileFault (List ListingEntry) := do
  let names ← t.list base path
  .ok (sort (names.map fun n =>
    ⟨Utf8.decodeLossy n, t.isDirectory base (SiteRoot.join path n)⟩))

end Listing

end SiteGateway
