import SiteGateway.Markdown.Block.Start

/-!
# Blocks of lines

How far a block reaches that has started: the lines of code, of HTML, of a table and of a paragraph,
and the definitions of link labels. Every function takes the containers that are open and the lines
that follow, and gives the number of lines that belong to the block.
-/

namespace SiteGateway

namespace Markdown

/-! ## Code and HTML -/

/-- The lines of indented code, each with the question whether it is blank. -/
def indentedLines (cs : List Container) : List Line → List (Text × Bool)
  | [] => []
  | l :: ls =>
    match Container.stripAll? cs l with
    | none => []
    | some k =>
      let (n, k) := k.take 4
      if n = 4 ∨ k.atEnd then (k.shown ++ l.keptEnding, isBlankLine k.rest) :: indentedLines cs ls
      else []

/-- Code without the blank lines at its end. -/
def trimBlankLines (ls : List (Text × Bool)) : Text :=
  (ls.reverse.dropWhile (·.2)).reverse.flatMap (·.1)

/-- The lines inside a fence, without as much indentation as the fence has. -/
def fencedLines (cs : List Container) (indent : Nat) (mark : Char) (length : Nat) :
    List Line → Text × Nat
  | [] => ([], 0)
  | l :: ls =>
    match Container.stripAll? cs l with
    | none => ([], 0)
    | some k =>
      let (n, inner) := k.take 4
      if n < 4 ∧ closesFence mark length inner.rest then ([], 1)
      else
        let (t, used) := fencedLines cs indent mark length ls
        ((k.take indent).2.shown ++ l.keptEnding ++ t, used + 1)

/-- The lines of HTML up to the one that holds a word. -/
def htmlUntil (word : Text) (cs : List Container) (current : Text) : List Line → Text × Nat
  | [] => ([], 0)
  | l :: ls =>
    if Text.hasInfix word current then ([], 0)
    else
      match Container.stripAll? cs l with
      | none => ([], 0)
      | some k =>
        let (t, used) := htmlUntil word cs k.rest ls
        (k.shown ++ l.keptEnding ++ t, used + 1)

/-- The lines of HTML up to a blank one. -/
def htmlLines (cs : List Container) : List Line → Text × Nat
  | [] => ([], 0)
  | l :: ls =>
    match Container.stripAll? cs l with
    | none => ([], 0)
    | some k =>
      if isBlankLine k.rest then ([], 0)
      else
        let (t, used) := htmlLines cs ls
        (k.shown ++ l.keptEnding ++ t, used + 1)

/-! ## Tables -/

/-- The columns of the table whose head is the text `t`. -/
def tableColumns? (cs : List Container) (t : Text) : List Line → Option (List Alignment)
  | [] => none
  | l :: _ => do
    let k ← Container.stripAll? cs l
    let columns ← delimiterRow? k.rest
    if headColumns? t = some columns.length then return columns else none

def tableRows (cs : List Container) (columns : Nat) : List Line → List (List Text)
  | [] => []
  | l :: ls =>
    match Container.stripAll? cs l with
    | none => []
    | some k =>
      let cells := rowCells k.skipIndent
      if endsParagraph true k.skipIndent ls.head? || cells.isEmpty then []
      else fitRow columns cells :: tableRows cs columns ls

/-! ## Paragraphs -/

/-- Whether a line ends the paragraph before it or is the head of a table with bars around it. -/
def startsAfterParagraph (cs : List Container) (inside : Bool) (t : Text) (ls : List Line) : Bool :=
  endsParagraph inside t ls.head? || (t.head? == some '|' && (tableColumns? cs t ls).isSome)

/-- The rest of a paragraph after a line that ended with `ending`: its source, the level of the
heading that it turns out to be, and the number of lines. Lines may go on with a paragraph without
belonging to its containers. -/
def paragraphRest (cs : List Container) (ending : Text) : List Line → Text × Option Nat × Nat
  | [] => ([], none, 0)
  | l :: ls =>
    let (n, k) := Container.strip (Cursor.start l.text) cs
    let inside := n == cs.length
    let (m, inner) := k.take 4
    match if inside && m < 4 then underline? inner.rest else none with
    | some level => ([], some level, 1)
    | none =>
      if k.skipIndent.isEmpty || (m < 4 && startsAfterParagraph cs inside inner.rest ls) then
        ([], none, 0)
      else
        let (t, level, used) := paragraphRest cs l.ending ls
        (ending ++ k.rest ++ t, level, used + 1)

/-! ## Definitions -/

/-- The text in which a definition may stand: the lines up to a blank one or the end of a
container. -/
def definitionText (cs : List Container) : List Line → Text
  | [] => []
  | l :: ls =>
    match Container.stripAll? cs l with
    | none => []
    | some k => if isBlankLine k.rest then [] else k.rest ++ l.ending ++ definitionText cs ls

/-- Blanks with at most one line end, and whether there was one; something has to follow. -/
def definitionSpace? (t : Text) : Option (Text × Bool) :=
  let u := t.dropWhile isSpacing
  let next (r : Text) : Option (Text × Bool) :=
    let r := r.dropWhile isSpacing
    if isBlankLine r then none else some (r, true)
  match u with
  | '\r' :: '\n' :: r => next r
  | c :: r => if isLineEnd c then next r else some (c :: r, false)
  | [] => none

/-- A title in a definition up to its closing character, with its escapes. -/
def definitionTitle? (close : Char) : Text → Option (Text × Text)
  | [] => none
  | c :: r =>
    if c = close then some ([], r)
    else if c = '\n' ∧ isBlankLine r then none
    else if c = '\\' then
      match r with
      | d :: r' => (definitionTitle? close r').map fun (t, rest) => (c :: d :: t, rest)
      | [] => none
    else (definitionTitle? close r).map fun (t, rest) => (c :: t, rest)

/-- The title at the start of a text, if nothing follows it on the line. -/
def lineTitle? : Text → Option (Text × Text)
  | c :: r => do
    let close ← LinkTarget.titleEnd? c
    let (title, rest) ← definitionTitle? close r
    if isBlankLine rest then return (title, rest) else none
  | [] => none

/-- Whether a label may go on in the text that starts a line. -/
def labelGoesOn (t : Text) : Bool :=
  match Line.split t with
  | l :: ls => !endsParagraph true l.text ls.head?
  | [] => true

/-- A definition of a link label, and the text after it. A title that does not fit on its own line
does not belong to it. -/
def definition? : Text → Option (Text × LinkTarget × Text)
  | '[' :: t => do
    let (label, t) ← Label.read? labelGoesOn t
    let t ← Text.after? [':'] t
    let (t, _) ← definitionSpace? t
    let (destination, rest) ← LinkTarget.destination? 1 t
    if rest.length = t.length then none
    let target (title : Text) : LinkTarget := ⟨unescape false destination, unescape false title⟩
    match definitionSpace? rest with
    | none => return (label, target [], rest)
    | some (t, onNextLine) =>
      if t.length = rest.length then none
      -- Text that is no title may follow on a line of its own, not behind the destination.
      match lineTitle? t with
      | some (title, after) => return (label, target title, after)
      | none => if onNextLine then return (label, target [], rest) else none
  | _ => none

/-- The definition that starts with the text `t` and the number of lines after this one that it
takes up. -/
def definitionLines? (cs : List Container) (t ending : Text) (ls : List Line) :
    Option (Text × LinkTarget × Nat) :=
  let whole := t ++ ending ++ definitionText cs ls
  (definition? whole).map fun (label, target, rest) =>
    let used := Line.split (whole.take (whole.length - rest.length))
    (label, target, (used.filter fun l => !l.ending.isEmpty).length)

end Markdown

end SiteGateway
