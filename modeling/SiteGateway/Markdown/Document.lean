import SiteGateway.Markdown.Block.Leaf

/-!
# Documents

A document is read line by line. Each line first says which of the open containers it belongs to and
closes the others; then it may open containers, and what is left starts a block or is blank.
-/

namespace SiteGateway

namespace Markdown

/-- The blocks of a text and what its labels stand for. -/
structure Document where
  blocks : List Block
  definitions : Definitions

namespace Document

/-- An open container with its blocks so far, last first. -/
structure OpenContainer where
  container : Container
  blocks : List Block

/-- A document that is being read. -/
structure State where
  /-- The open containers, innermost first. -/
  spine : List OpenContainer
  /-- The finished blocks outside of containers, last first. -/
  blocks : List Block
  /-- Whether the line before was blank. -/
  blank : Bool
  /-- Whether the innermost item has nothing but its mark so far. -/
  emptyItem : Bool
  /-- The box of a task whose description is still to come. -/
  task : Option Bool
  definitions : Definitions

namespace State

def empty : State := ⟨[], [], false, false, none, ⟨[], []⟩⟩

def containers (s : State) : List Container := (s.spine.map (·.container)).reverse

def add (s : State) (b : Block) : State :=
  match s.spine with
  | [] => { s with blocks := b :: s.blocks }
  | o :: os => { s with spine := { o with blocks := b :: o.blocks } :: os }

def openContainer (s : State) (c : Container) : State := { s with spine := ⟨c, []⟩ :: s.spine }

def OpenContainer.block (o : OpenContainer) : Block :=
  let blocks := o.blocks.reverse
  match o.container with
  | .quote => .quote blocks
  | .list mark start tight =>
    .list (if mark = '.' ∨ mark = ')' then some start else none) tight blocks
  | .item _ => .item blocks
  | .note label => .note label blocks

def closeOne (s : State) : State :=
  match s.spine with
  | [] => s
  | o :: os => ({ s with spine := os } : State).add (OpenContainer.block o)

def close (s : State) : Nat → State
  | 0 => s
  | n + 1 => s.closeOne.close n

/-- A list with a blank line between its items or inside one is not tight. -/
def OpenContainer.loosen (o : OpenContainer) : OpenContainer :=
  match o.container with
  | .list mark start _ => { o with container := .list mark start false }
  | _ => o

/-- Closes an item without content after a blank line: it stays empty. -/
def closeEmptyItem (s : State) : State :=
  let s' := { s with emptyItem := false }
  match s.spine with
  | ⟨.item _, _⟩ :: _ => if s.emptyItem && s.blank then s'.closeOne else s'
  | _ => s'

/-- Closes a list whose items have ended, before a block that is no item of it. A block after a
blank line loosens the list around it. -/
def closeList (s : State) : State :=
  let s := s.closeEmptyItem
  let s := match s.spine with
    | ⟨.list .., _⟩ :: _ => s.closeOne
    | _ => s
  if s.blank then
    match s.spine with
    | item :: list :: os =>
      { s with spine := item :: OpenContainer.loosen list :: os, blank := false }
    | _ => { s with blank := false }
  else s

/-- Goes on with the innermost list if it has the mark, or starts one. -/
def enterList (s : State) (mark : Char) (start : Nat) : State :=
  let s := s.closeEmptyItem
  let startList (s : State) : State :=
    { s.openContainer (.list mark start true) with blank := false }
  match s.spine with
  | [] => startList s
  | o :: os =>
    match o.container with
    | .list m .. =>
      if m = mark then
        if s.blank then { s with spine := OpenContainer.loosen o :: os, blank := false } else s
      else startList s.closeList
    | _ => startList s.closeList

/-- Opens a footnote, which closes another one right around it. -/
def enterNote (s : State) (label : Text) : State :=
  let s := s.closeList
  let s := match s.spine with
    | ⟨.note _, _⟩ :: _ => s.closeOne
    | _ => s
  { s.openContainer (.note label) with definitions := s.definitions.addFootnote label }

/-- Notes a blank line. An item without content ends with it. -/
def passBlank (s : State) : State :=
  match s.spine with
  | ⟨.quote, _⟩ :: _ => s
  | _ => ({ s with blank := true } : State).closeEmptyItem

end State

/-- What the start of a line comes to. -/
inductive Opening
  /-- The line is an item without content. -/
  | finished (s : State)
  /-- The rest of the line is still to be read. -/
  | rest (s : State) (k : Cursor)

/-- Opens an item; its box, if it is a task, waits for the paragraph that describes it. -/
def enterItem (s : State) (mark : Char) (number column : Nat) (k : Cursor) : Opening :=
  let s := (s.enterList mark number).openContainer (.item column)
  if isBlankLine k.rest then .finished { s with emptyItem := true }
  else
    match taskBox? k with
    | none => .rest s k
    | some (done, k) =>
      if isBlankLine k.rest then .finished { s.add (.task done) with emptyItem := true }
      else .rest { s with task := some done } k

def openContainers (s : State) (k : Cursor) : Opening :=
  let (n, inner) := k.take 4
  if n = 4 then .rest s k
  else
    match noteStart? inner.rest with
    | some (label, r) =>
      let r := r.dropWhile isSpacing
      if r.length < k.rest.length then openContainers (s.enterNote label) (Cursor.start r)
      else .rest s k
    | none =>
      match itemStart? n inner with
      | some (mark, number, column, after) =>
        match enterItem s mark number column after with
        | .finished s => .finished s
        -- The start of an item is never empty; the comparison is there for termination alone.
        | .rest s k' => if k'.rest.length < k.rest.length then openContainers s k' else .rest s k'
      | none =>
        match quoteMark? inner with
        | some k' =>
          let s := s.closeList.openContainer .quote
          if k'.rest.length < k.rest.length then openContainers s k' else .rest s k'
        | none => .rest s k
termination_by k.rest.length

/-- Reads the block that starts at the cursor, in a line that ends with `ending`. Gives the number
of further lines that it takes up. -/
def readBlock (s : State) (k : Cursor) (ending : Text) (ls : List Line) : State × Nat :=
  let s := s.closeList
  let cs := s.containers
  let kept := Line.keptEnding ⟨[], ending⟩
  let (indent, k) := k.take 4
  if indent = 4 then
    let lines := (k.shown ++ kept, false) :: indentedLines cs ls
    let blank := (lines.getLast?.map (·.2)).getD false
    ({ s.add (.code [] (trimBlankLines lines)) with blank }, lines.length - 1)
  else
    let t := k.rest
    let first := List.replicate indent ' ' ++ t ++ kept
    let afterAngle := (Text.after? ['<'] t).getD []
    let html (body : Text × Nat) : State × Nat := (s.add (.html (first ++ body.1)), body.2)
    if t.head? = some '<' ∧ (Tag.blockEnd? afterAngle).isSome then
      html (htmlUntil ((Tag.blockEnd? afterAngle).getD []) cs t ls)
    else if t.head? = some '<' ∧ (Tag.startsBlock afterAngle || Tag.aloneOnLine afterAngle) then
      html (htmlLines cs ls)
    else if isRule t then (s.add .rule, 0)
    else
      match headingStart? t with
      | some (level, r) => (s.add (.heading level none (headingText r)), 0)
      | none =>
        match fence? t with
        | some (mark, length, info) =>
          let (body, used) := fencedLines cs indent mark length ls
          let info := unescape false (Text.trimBy isSpace info)
          (s.add (.code info body), used)
        | none =>
          match definitionLines? cs t ending ls with
          | some (label, target, used) =>
            ({ s with definitions := s.definitions.addLink label target }, used)
          | none =>
            match tableColumns? cs t ls with
            | some columns =>
              let fit := fitRow columns.length
              let rows := tableRows cs columns.length (ls.drop 1)
              ({ s.add (.table columns (fit (rowCells t) :: rows)) with task := none },
                rows.length + 1)
            | none =>
              let (more, level, used) := paragraphRest cs ending ls
              let b := match level with
                | some level => Block.heading level s.task (t ++ more)
                | none => .paragraph s.task (t ++ more)
              ({ s.add b with task := none }, used)

/-- Reads what starts with a line, and gives the number of further lines that it takes up. -/
def readLine (s : State) (l : Line) (ls : List Line) : State × Nat :=
  let (n, k) := Container.strip (Cursor.start l.text) s.containers
  let s := s.close (s.spine.length - n)
  match openContainers s k with
  | .finished s => (s, 0)
  | .rest s k => if isBlankLine k.rest then (s.passBlank, 0) else readBlock s k l.ending ls

def readLines (s : State) : List Line → State
  | [] => s
  | l :: ls =>
    let (s, used) := readLine s l ls
    readLines s (ls.drop used)
termination_by ls => ls.length
decreasing_by simp only [List.length_drop, List.length_cons]; omega

def ofText (t : Text) : Document :=
  let s := readLines .empty (Line.split t)
  let s := s.close s.spine.length
  ⟨s.blocks.reverse, s.definitions⟩

end Document

end Markdown

end SiteGateway
