import SiteGateway.Markdown.Block.Basic
import SiteGateway.Markdown.Block.Container
import SiteGateway.Markdown.Link
import SiteGateway.Markdown.Tag

/-!
# How blocks start

Readers for the marks at the start of a line, and the question which of them end a paragraph.
-/

namespace SiteGateway

namespace Markdown

/-- A thematic break: at least three of one mark and nothing else. -/
def isRule (t : Text) : Bool :=
  match t with
  | c :: _ =>
    (c == '*' || c == '-' || c == '_') && 3 ≤ t.count c &&
      t.all fun d => d == c || d == ' ' || d == '\t'
  | [] => false

/-- The level of a heading that starts with number signs, and its text. -/
def headingStart? (t : Text) : Option (Nat × Text) :=
  let n := (t.takeWhile (· = '#')).length
  let r := t.drop n
  if 1 ≤ n ∧ n ≤ 6 ∧ (r.head?.map isSpace).getD true then some (n, r) else none

/-- The text of a heading without the number signs that may close it. -/
def headingText (t : Text) : Text :=
  let t := t.dropWhile isSpacing
  let back := (t.reverse.dropWhile (· = ' ')).dropWhile (· = '#')
  if back.isEmpty then []
  else if back.head? = some ' ' then (back.dropWhile (· = ' ')).reverse
  else t

/-- The level of a heading that this line underlines. -/
def underline? (t : Text) : Option Nat :=
  match t with
  | c :: _ =>
    if (c = '=' ∨ c = '-') ∧ isBlankLine (t.dropWhile (· = c)) then
      some (if c = '=' then 1 else 2)
    else none
  | [] => none

/-- The mark of a code fence, its length and what follows it. -/
def fence? (t : Text) : Option (Char × Nat × Text) :=
  match t with
  | c :: _ =>
    let n := (t.takeWhile (· = c)).length
    let r := t.drop n
    if (c = '~' ∨ c = '\x60') ∧ 3 ≤ n ∧ ¬(c = '\x60' ∧ c ∈ r) then some (c, n, r) else none
  | [] => none

def closesFence (c : Char) (n : Nat) (t : Text) : Bool :=
  n ≤ (t.takeWhile (· = c)).length && ((t.dropWhile (· = c)).dropWhile (· = ' ')).isEmpty

/-- The mark of a list item, its number, its width and what follows it. -/
def itemMark? (t : Text) : Option (Char × Nat × Nat × Text) :=
  let digits := t.takeWhile Char.isDigit
  match t.drop digits.length with
  | c :: r =>
    if digits.isEmpty ∧ (c = '-' ∨ c = '+' ∨ c = '*') then some (c, 0, 1, r)
    else if 1 ≤ digits.length ∧ digits.length ≤ 9 ∧ (c = '.' ∨ c = ')') then
      some (c, (Text.nat? digits).getD 0, digits.length + 1, r)
    else none
  | [] => none

/-- The start of a list item: its mark, its number, the column of its content and the rest. -/
def itemStart? (indent : Nat) (k : Cursor) : Option (Char × Nat × Nat × Cursor) :=
  match itemMark? k.rest with
  | none => none
  | some (c, number, width, r) =>
    if (c = '-' ∨ c = '*') ∧ isRule k.rest then none
    else
      let (n, k') := ({ k with rest := r, column := k.column + width } : Cursor).take 1
      if n = 0 ∧ !k'.atEnd then none
      else
        let column := indent + width + 1
        if isBlankLine k'.rest then some (c, number, column, k')
        else
          let (m, k'') := k'.take 4
          if m < 4 then some (c, number, column + m, k'') else some (c, number, column, k')

/-- The box of a task, ticked or not, with a blank after it. -/
def taskBox? (k : Cursor) : Option (Bool × Cursor) :=
  let (_, k) := k.take 3
  match k.rest with
  | '[' :: c :: ']' :: d :: r =>
    if !isSpacing d then none
    else
      let k : Cursor := { k with rest := d :: r, column := k.column + 3 }
      if isSpacing c then some (false, k)
      else if c = 'x' ∨ c = 'X' then some (true, k)
      else none
  | _ => none

/-- The label of a footnote that is defined here, and what follows it. -/
def noteStart? (t : Text) : Option (Text × Text) :=
  match t with
  | '[' :: '^' :: r =>
    match Label.read? (fun _ => false) r with
    | some (l, ':' :: rest) => some (l, rest)
    | _ => none
  | _ => none

/-- Whether a line is HTML that may follow a paragraph directly. -/
def htmlStart (t : Text) : Bool :=
  match t with
  | '<' :: r => (Tag.blockEnd? r).isSome || Tag.startsBlock r
  | _ => false

/-- Whether a list item that starts here ends a paragraph. One that would be nested in the
paragraph's container has to have content and no number but one. -/
def itemEndsParagraph (inside : Bool) (t : Text) (next : Option Line) : Bool :=
  match itemMark? t with
  | some (c, number, _, r) =>
    let emptyItem := isBlankLine r && (next.map fun l => isBlankLine l.text).getD true
    (r.head?.map fun d => d == ' ' || d == '\t').getD true &&
      (!inside || ((c == '-' || c == '+' || c == '*' || number == 1) && !emptyItem))
  | none => false

/-- Whether a line ends the paragraph before it; `inside` tells whether it belongs to all containers
of the paragraph, and `next` is the line after it. -/
def endsParagraph (inside : Bool) (t : Text) (next : Option Line) : Bool :=
  t.isEmpty || isRule t || (headingStart? t).isSome || (fence? t).isSome || t.head? == some '>' ||
    itemEndsParagraph inside t next || htmlStart t || (noteStart? t).isSome

/-! ## Tables -/

/-- What a colon in a delimiter cell makes of the alignment; `first` if nothing precedes it. -/
def alignColon (first : Bool) : Alignment → Alignment
  | .unset => if first then .left else .right
  | .left => if first then .left else .center
  | a => a

def alignmentOf (cell : Text) : Alignment :=
  (cell.foldl (fun (first, a) c =>
    if c = ':' then (false, alignColon first a) else (first && c == ' ', a)) (true, .unset)).2

/-- The row of hyphens under the head of a table. Every cell but the last holds a hyphen, and a
blank last one is none. -/
def delimiterRow? (t : Text) : Option (List Alignment) :=
  let (n, k) := (Cursor.start t).take 4
  let isAllowed (c : Char) : Bool := c == ' ' || c == '-' || c == ':' || c == '|'
  if n > 3 || !k.rest.all isAllowed || !k.rest.contains '|' || !k.rest.contains '-' then none
  else
    let cells := Text.split '|' (match k.rest with
      | '|' :: r => r
      | r => r)
    if cells.dropLast.all (·.contains '-') then
      let last := (cells.getLast?.filter fun c => !c.all (· = ' ')).toList
      some ((cells.dropLast ++ last).map alignmentOf)
    else none

/-- The text before and after the first bar that is not escaped. -/
def cutBar? (before : Option Char) : Text → Option (Text × Text)
  | [] => none
  | c :: r =>
    if c = '|' ∧ before ≠ some '\\' then some ([], r)
    else (cutBar? (some c) r).map fun (a, b) => (c :: a, b)

/-- The number of bars that are not escaped and what follows the last of them. -/
def countBars (before : Option Char) (n : Nat) (last : Text) : Text → Nat × Text
  | [] => (n, last)
  | c :: r =>
    if c = '|' ∧ before ≠ some '\\' then countBars (some c) (n + 1) r r
    else countBars (some c) n last r

/-- The number of columns of a head row, none if it has no bar. -/
def headColumns? (t : Text) : Option Nat :=
  let (bars, last) := countBars none 0 [] t
  if bars = 0 then none
  else
    let bars := if (t.dropWhile isSpacing).head? = some '|' then bars - 1 else bars
    some (if isBlankLine last then bars else bars + 1)

/-- The cells up to the end of a row. -/
def cellsFrom (t : Text) : List Text :=
  let u := t.dropWhile isSpacing
  if u.isEmpty then []
  else
    match cutBar? none u with
    | none => [trimEnd u]
    | some (cell, r) => if r.length < t.length then trimEnd cell :: cellsFrom r else []
termination_by t.length

/-- The cells of a row without the blanks around them; a row may start and end with a bar. -/
def rowCells (t : Text) : List Text :=
  match t with
  | '|' :: r => cellsFrom r
  | r => cellsFrom r

/-- A row with a cell for each of `n` columns. -/
def fitRow (n : Nat) (cells : List Text) : List Text :=
  cells.take n ++ List.replicate (n - cells.length) []

end Markdown

end SiteGateway
