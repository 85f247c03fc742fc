import SiteGateway.Markdown.Character

/-!
# HTML in Markdown

Tags, comments and the other constructs that stand in the text as they are, and addresses between
angle brackets. Every reader takes the text after the opening angle bracket and gives the rest.
-/

namespace SiteGateway

namespace Markdown

namespace Tag

def after? (w : String) (t : Text) : Option Text := (Text.cutAt? w.toList t).map (·.2)

def isNameRest (c : Char) : Bool := c.isAlphanum || c == '-'

/-- Blanks, and line ends where a tag may cross them. -/
def blanks (lines : Bool) (t : Text) : Text :=
  t.dropWhile fun c => isSpacing c || (lines && isLineEnd c)

def isAttributeStart (c : Char) : Bool := c.isAlpha || c == '_' || c == ':'

def isAttributeRest (c : Char) : Bool :=
  c.isAlphanum || c == '_' || c == '.' || c == ':' || c == '-'

/-- A character of a value without quotes. -/
def isBareValue (c : Char) : Bool :=
  !(isSpacing c || isLineEnd c || "\x22'=<>\x60".toList.contains c)

def value? (lines : Bool) : Text → Option Text
  | [] => none
  | c :: r =>
    if c = '"' ∨ c = '\'' then
      let inside := r.takeWhile (· ≠ c)
      match r.drop inside.length with
      | _ :: rest => if !lines && inside.any isLineEnd then none else some rest
      | [] => none
    else if isBareValue c then some (r.dropWhile isBareValue)
    else none

/-- An attribute, with its value if it has one. -/
def attribute? (lines : Bool) : Text → Option Text
  | [] => none
  | c :: r =>
    if isAttributeStart c then
      let afterName := r.dropWhile isAttributeRest
      match blanks lines afterName with
      | '=' :: rest => value? lines (blanks lines rest)
      | _ => some afterName
    else none

/-- The attributes of a tag and its end. An attribute has a blank before it. -/
def attributes? (lines : Bool) (t : Text) : Option Text :=
  match blanks lines t with
  | '>' :: r => some r
  | '/' :: r =>
    match r with
    | '>' :: r => some r
    | _ => none
  | u =>
    if u.length < t.length then
      match attribute? lines u with
      | some r => if r.length < u.length then attributes? lines r else none
      | none => none
    else none
termination_by t.length

/-- An opening or a closing tag; one that may not cross lines stays on its own. -/
def tag? (lines : Bool) (t : Text) : Option Text :=
  let (closing, t) := match t with
    | '/' :: r => (true, r)
    | r => (false, r)
  match t with
  | c :: r =>
    if c.isAlpha then
      let r := r.dropWhile isNameRest
      if closing then
        match r.dropWhile isSpacing with
        | '>' :: rest => some rest
        | _ => none
      else attributes? lines r
    else none
  | [] => none

/-- A comment, a declaration, a processing instruction or a section of character data. -/
def markup? : Text → Option Text
  | '!' :: '-' :: '-' :: r => after? "-->" ('-' :: '-' :: r)
  | '?' :: r => after? "?>" r
  | '!' :: r =>
    match Text.after? "[CDATA[".toList r with
    | some rest => after? "]]>" rest
    | none =>
      match r with
      | c :: rest => if c.isAlpha then after? ">" rest else none
      | [] => none
  | _ => none

/-- Anything that stands in a line as it is. -/
def raw? (t : Text) : Option Text :=
  match t with
  | '!' :: _ => markup? t
  | '?' :: _ => markup? t
  | _ => tag? true t

/-! ## Addresses -/

def isSchemeRest (c : Char) : Bool := c.isAlphanum || c == '.' || c == '-' || c == '+'

/-- An absolute address: a scheme of two to thirty-two characters, a colon, and no blank or angle
bracket up to the closing one. -/
def address? (t : Text) : Option (Text × Text) :=
  let scheme := t.takeWhile isSchemeRest
  match t, t.drop scheme.length with
  | c :: _, ':' :: r =>
    if c.isAlpha ∧ 2 ≤ scheme.length ∧ scheme.length ≤ 32 then
      let body := r.takeWhile fun c => 0x20 < c.toNat && c != '<' && c != '>'
      match r.drop body.length with
      | '>' :: rest => some (scheme ++ ':' :: body, rest)
      | _ => none
    else none
  | _, _ => none

def isMailboxCharacter (c : Char) : Bool :=
  c.isAlphanum || ".!#$%&'*+/=?^_\x60\x7b|\x7d~-".toList.contains c

/-- A label of a mail domain: letters, digits, and hyphens inside. -/
def isMailLabel (l : Text) : Bool :=
  !l.isEmpty && l.length ≤ 63 && l.head? != some '-' && l.getLast? != some '-'

def mailbox? (t : Text) : Option (Text × Text) :=
  let user := t.takeWhile isMailboxCharacter
  match t.drop user.length with
  | '@' :: r =>
    let domain := r.takeWhile fun c => c.isAlphanum || c == '-' || c == '.'
    match r.drop domain.length with
    | '>' :: rest =>
      if !user.isEmpty && (Text.split '.' domain).all isMailLabel then
        some (user ++ '@' :: domain, rest)
      else none
    | _ => none
  | _ => none

/-! ## Blocks -/

/-- Elements whose block ends with their closing tag. -/
def rawElements : List (Text × Text) :=
  ["pre", "style", "script", "textarea"].map fun n => (n.toList, ("</" ++ n ++ ">").toList)

/-- The words that end a block of HTML, by what it starts with. -/
def markupEnds : List (Text × Text) :=
  [("!--", "-->"), ("?", "?>"), ("![CDATA[", "]]>")].map fun (a, b) => (a.toList, b.toList)

/-- The word that ends the block of HTML that starts here, if it ends with a word. -/
def blockEnd? (t : Text) : Option Text :=
  let isRaw (e : Text × Text) : Bool :=
    Text.sameLetters (t.take e.1.length) e.1 &&
      match t.drop e.1.length with
      | [] => true
      | c :: _ => isSpace c || c == '>'
  match rawElements.find? isRaw with
  | some e => some e.2
  | none =>
    match markupEnds.find? fun e => e.1.isPrefixOf t with
    | some e => some e.2
    | none =>
      match t with
      | '!' :: c :: _ => if c.isAlpha then some ['>'] else none
      | _ => none

/-- Elements that start a block wherever their tag starts a line. -/
def blockElements : List Text := Text.words "
address article aside base basefont blockquote body caption center col colgroup dd details dialog
dir div dl dt fieldset figcaption figure footer form frame frameset h1 h2 h3 h4 h5 h6 head header
hr html iframe legend li link main menu menuitem nav noframes ol optgroup option p param search
section summary table tbody td tfoot th thead title tr track ul".toList

def startsBlock (t : Text) : Bool :=
  let t := match t with
    | '/' :: r => r
    | r => r
  let name := t.takeWhile Char.isAlphanum
  blockElements.contains (Text.lower name) &&
    match t.drop name.length with
    | [] => true
    | '/' :: '>' :: _ => true
    | c :: _ => c == ' ' || c == '\t' || c == '>' || isLineEnd c

def aloneOnLine (t : Text) : Bool :=
  match tag? false t with
  | some r => isBlankLine r
  | none => false

end Tag

end Markdown

end SiteGateway
