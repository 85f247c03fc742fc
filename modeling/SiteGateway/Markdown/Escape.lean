import SiteGateway.Html.Entity
import SiteGateway.Markdown.Character

/-!
# Escapes

A character reference stands for the text it names, and a backslash before ASCII punctuation stands
for nothing. Readers here give what they found together with the rest of the text.
-/

namespace SiteGateway

namespace Markdown

/-- The character of a code point; one that is no character becomes the replacement character. -/
def characterOf (n : Nat) : Char :=
  if n.isValidChar ∧ n ≠ 0 then Char.ofNat n else '\uFFFD'

/-- A number of at most `limit` digits and the semicolon that ends it. -/
def numericReference? (base limit : Nat) (t : Text) : Option (Text × Text) :=
  let digits := (t.take limit).takeWhile fun c => (Text.digit? base c).isSome
  match Text.ofDigits? base digits, t.drop digits.length with
  | some n, ';' :: r => if digits.isEmpty then none else some ([characterOf n], r)
  | _, _ => none

def reference? : Text → Option (Text × Text)
  | '#' :: 'x' :: r => numericReference? 16 6 r
  | '#' :: 'X' :: r => numericReference? 16 6 r
  | '#' :: r => numericReference? 10 7 r
  | t =>
    let name := t.takeWhile Char.isAlphanum
    match t.drop name.length with
    | ';' :: r => (Html.Entity.value? name).map fun v => (v, r)
    | _ => none

/-- Undoes the escapes of a destination, a title or an info string. In a table a doubled backslash
before a bar counts as one escape. -/
def unescape (inTable : Bool) : Text → Text
  | [] => []
  | '\r' :: r => unescape inTable r
  | '\\' :: r =>
    match r with
    | '\\' :: '|' :: r' =>
      if inTable then '|' :: unescape inTable r' else '\\' :: unescape inTable ('|' :: r')
    | c :: r' =>
      if isAsciiPunctuation c then c :: unescape inTable r' else '\\' :: unescape inTable (c :: r')
    | [] => ['\\']
  | '&' :: r =>
    match reference? r with
    | some (v, rest) => v ++ unescape inTable (r.drop (r.length - rest.length))
    | none => '&' :: unescape inTable r
  | c :: r => c :: unescape inTable r
termination_by t => t.length
decreasing_by all_goals simp only [List.length_drop, List.length_cons]; omega

end Markdown

end SiteGateway
