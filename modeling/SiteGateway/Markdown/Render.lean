import SiteGateway.Html.Escape
import SiteGateway.Markdown.Document
import SiteGateway.Markdown.Inline.Scan
import SiteGateway.Percent
import SiteGateway.Text.Utf8

/-!
# Markdown as HTML

The document is written block by block. Footnotes are numbered in the order in which they are first
met, and every line end inside a paragraph is a line break.
-/

namespace SiteGateway

namespace Markdown

/-- Output that is being written. -/
structure Output where
  /-- The characters, last first. -/
  written : Text
  /-- The labels of footnotes by number. -/
  notes : List Text

namespace Output

def empty : Output := ⟨[], []⟩

def put (o : Output) (t : Text) : Output := { o with written := t.reverse ++ o.written }

def puts (o : Output) (s : String) : Output := o.put s.toList

/-- Starts a new line unless nothing stands on this one. -/
def freshLine (o : Output) : Output :=
  match o.written with
  | [] => o
  | c :: _ => if c = '\n' then o else o.puts "\n"

def number (o : Output) (label : Text) : Output × Text :=
  match o.notes.findIdx? (· = label) with
  | some i => (o, Text.ofNat (i + 1))
  | none => ({ o with notes := o.notes ++ [label] }, Text.ofNat (o.notes.length + 1))

/-- Text outside of tags, where quotes need no escape. -/
def bodyText (t : Text) : Text :=
  t.flatMap fun c => if c = '"' ∨ c = '\'' then [c] else Html.escapeChar c

/-- A character of an address as it is written into an attribute. -/
def addressChar (c : Char) : Text :=
  if c = '&' then "&amp;".toList
  else if c = '\'' then "&#x27;".toList
  else if c.isAlphanum || "!#$%()*+,-./:;=?@_~".toList.contains c then [c]
  else (Utf8.encode [c]).flatMap Percent.escape

def address (t : Text) : Text := t.flatMap addressChar

/-- The attribute with a title, if there is one, and the end of the tag. -/
def titleAttribute (title : Text) : Text :=
  if title.isEmpty then [] else "\" title=\"".toList ++ Html.escape title

/-! ## Inline content -/

mutual

/-- Inline content as text for an attribute. -/
def plain (o : Output) : Inline → Output
  | .text t => o.put (Html.escape t)
  | .lineBreak => o.puts " "
  | .code t => o.put (Html.escape t)
  | .html t => o.put (Html.escape t)
  | .note label =>
    let (o, n) := o.number label
    o.put ('[' :: n ++ [']'])
  | .emphasis body => plains o body
  | .strong body => plains o body
  | .struck body => plains o body
  | .link _ _ body => plains o body
  | .image _ _ body => plains o body

def plains (o : Output) : List Inline → Output
  | [] => o
  | i :: is => plains (plain o i) is

end

mutual

def inline (o : Output) : Inline → Output
  | .text t => o.put (bodyText t)
  | .lineBreak => o.puts "<br />\n"
  | .code t => ((o.puts "<code>").put (bodyText t)).puts "</code>"
  | .html t => o.put t
  | .note label =>
    let o := (o.puts "<sup class=\"footnote-reference\"><a href=\"#").put (Html.escape label)
    let (o, n) := o.number label
    ((o.puts "\">").put n).puts "</a></sup>"
  | .emphasis body => (inlines (o.puts "<em>") body).puts "</em>"
  | .strong body => (inlines (o.puts "<strong>") body).puts "</strong>"
  | .struck body => (inlines (o.puts "<del>") body).puts "</del>"
  | .link destination title body =>
    let o := ((o.puts "<a href=\"").put (address destination)).put (titleAttribute title)
    (inlines (o.puts "\">") body).puts "</a>"
  | .image destination title body =>
    let o := ((o.puts "<img src=\"").put (address destination)).puts "\" alt=\""
    ((plains o body).put (titleAttribute title)).puts "\" />"

def inlines (o : Output) : List Inline → Output
  | [] => o
  | i :: is => inlines (inline o i) is

end

def source (d : Definitions) (inTable : Bool) (o : Output) (t : Text) : Output :=
  inlines o (InlineContext.inlines ⟨d, inTable⟩ t)

/-! ## Blocks -/

def taskBox (o : Output) : Option Bool → Output
  | none => o
  | some true => o.puts "<input disabled=\"\" type=\"checkbox\" checked=\"\"/>\n"
  | some false => o.puts "<input disabled=\"\" type=\"checkbox\"/>\n"

/-- The attribute that aligns a cell. -/
def alignmentStyle : Alignment → String
  | .unset => ""
  | .left => " style=\"text-align: left\""
  | .center => " style=\"text-align: center\""
  | .right => " style=\"text-align: right\""

def cells (d : Definitions) (tag : String) (o : Output) (columns : List Alignment)
    (row : List Text) : Output :=
  (columns.zip row).foldl (fun o (a, t) =>
    let o := ((o.puts "<").puts tag).puts (alignmentStyle a)
    (((source d true (o.puts ">") t).puts "</").puts tag).puts ">") o

def table (d : Definitions) (o : Output) (columns : List Alignment) : List (List Text) → Output
  | [] => o
  | head :: rows =>
    let o := (cells d "th" (o.puts "<table><thead><tr>") columns head).puts "</tr></thead><tbody>\n"
    let o := rows.foldl (fun o row => (cells d "td" (o.puts "<tr>") columns row).puts "</tr>\n") o
    o.puts "</tbody></table>\n"

/-- The first word of an info string names a language. -/
def codeStart (info : Text) : Text :=
  let language := info.takeWhile (· ≠ ' ')
  if language.isEmpty then "<pre><code>".toList
  else "<pre><code class=\"language-".toList ++ Html.escape language ++ "\">".toList

mutual

/-- Writes a block; `tight` tells whether it is in an item of a tight list. -/
def block (d : Definitions) (tight : Bool) (o : Output) : Block → Output
  | .paragraph task t =>
    if tight then source d false (o.taskBox task) t
    else (source d false ((o.freshLine.puts "<p>").taskBox task) t).puts "</p>\n"
  | .heading level task t =>
    let tag := 'h' :: Text.ofNat level
    let o := ((o.freshLine.puts "<").put tag).puts ">"
    (((source d false (o.taskBox task) t).puts "</").put tag).puts ">\n"
  | .rule => o.freshLine.puts "<hr />\n"
  | .code info t => ((o.freshLine.put (codeStart info)).put (bodyText t)).puts "</code></pre>\n"
  | .html t => o.put t
  | .table columns rows => table d o columns rows
  | .task done => o.taskBox (some done)
  | .quote bs => (blocks d false (o.freshLine.puts "<blockquote>\n") bs).puts "</blockquote>\n"
  | .list none tight items => (blocks d tight (o.freshLine.puts "<ul>\n") items).puts "</ul>\n"
  | .list (some n) tight items =>
    let start := if n = 1 then [] else " start=\"".toList ++ Text.ofNat n ++ ['"']
    let o := ((o.freshLine.puts "<ol").put start).puts ">\n"
    (blocks d tight o items).puts "</ol>\n"
  | .item bs => (blocks d tight (o.freshLine.puts "<li>") bs).puts "</li>\n"
  | .note label bs =>
    let o := o.freshLine.puts "<div class=\"footnote-definition\" id=\""
    let (o, n) := (o.put (Html.escape label)).number label
    let o := ((o.puts "\"><sup class=\"footnote-definition-label\">").put n).puts "</sup>"
    (blocks d false o bs).puts "</div>\n"

def blocks (d : Definitions) (tight : Bool) (o : Output) : List Block → Output
  | [] => o
  | b :: bs => blocks d tight (block d tight o b) bs

end

end Output

def toHtml (t : Text) : Text :=
  let d := Document.ofText t
  (Output.blocks d.definitions false .empty d.blocks).written.reverse

end Markdown

end SiteGateway
