import SiteGateway.Toml.Value
import SiteGateway.Time.Calendar

/-!
# TOML scalars

Strings in their four spellings, and what stands between separators without quotes: numbers, truth
values, dates and times.
-/

namespace SiteGateway

namespace Toml

/-- A character that may stand unescaped: no control character but tab. -/
def isPlain (c : Char) : Bool := c == '\t' || (0x20 ≤ c.toNat && c.toNat != 0x7F)

def isGap (c : Char) : Bool := c == ' ' || c == '\t'

def skipGaps (t : Text) : Text := t.dropWhile isGap

def lineEnd? : Text → Option Text
  | '\n' :: r => some r
  | '\r' :: '\n' :: r => some r
  | _ => none

/-- The character that exactly `n` hexadecimal digits name. -/
def hexChar? (n : Nat) (t : Text) : Option (Char × Text) := do
  let ds := t.take n
  if ds.length < n then none
  let v ← Text.ofDigits? 16 ds
  if v < 0xD800 ∨ (0xE000 ≤ v ∧ v ≤ 0x10FFFF) then return (Char.ofNat v, t.drop n) else none

/-- The character of an escape, after its backslash. -/
def escape? : Text → Option (Char × Text)
  | 'b' :: r => some ('\x08', r)
  | 't' :: r => some ('\t', r)
  | 'n' :: r => some ('\n', r)
  | 'f' :: r => some ('\x0c', r)
  | 'r' :: r => some ('\r', r)
  | '"' :: r => some ('"', r)
  | '\\' :: r => some ('\\', r)
  | 'u' :: r => hexChar? 4 r
  | 'U' :: r => hexChar? 8 r
  | _ => none

/-- What follows the blanks and line ends after a backslash at the end of a line. -/
def continued? (t : Text) : Option Text :=
  (lineEnd? (skipGaps t)).map skipLines
where
  skipLines (t : Text) : Text :=
    t.dropWhile fun c => isGap c || c == '\n' || c == '\r'

/-- The rest of a string in double quotes on one line. -/
def basic? : Nat → Text → Text → Option (Text × Text)
  | 0, _, _ => none
  | fuel + 1, back, t =>
    match t with
    | '"' :: r => some (back.reverse, r)
    | '\\' :: r => do
      let (c, r) ← escape? r
      basic? fuel (c :: back) r
    | c :: r => if isPlain c then basic? fuel (c :: back) r else none
    | [] => none

/-- The end of a string in three quotes, before which one or two quotes may belong to the string. -/
def closing? (quote : Char) (t : Text) : Option (Text × Text) :=
  let quotes := (t.takeWhile (· == quote)).length
  if quotes < 3 then none
  else
    let extra := min 2 (quotes - 3)
    some (List.replicate extra quote, t.drop (extra + 3))

/-- The rest of a string in three double quotes. -/
def longBasic? : Nat → Text → Text → Option (Text × Text)
  | 0, _, _ => none
  | fuel + 1, back, t =>
    match closing? '"' t with
    | some (extra, r) => some (back.reverse ++ extra, r)
    | none =>
      match t with
      | '\\' :: r =>
        match continued? r with
        | some r => longBasic? fuel back r
        | none => do
          let (c, r) ← escape? r
          longBasic? fuel (c :: back) r
      | c :: r =>
        match lineEnd? t with
        | some r => longBasic? fuel ('\n' :: back) r
        | none => if isPlain c then longBasic? fuel (c :: back) r else none
      | [] => none

/-- The rest of a string in single quotes on one line. -/
def literal? (t : Text) : Option (Text × Text) :=
  let inner := t.takeWhile fun c => isPlain c && c != '\''
  match t.drop inner.length with
  | '\'' :: r => some (inner, r)
  | _ => none

/-- The rest of a string in three single quotes. -/
def longLiteral? : Nat → Text → Text → Option (Text × Text)
  | 0, _, _ => none
  | fuel + 1, back, t =>
    match closing? '\'' t with
    | some (extra, r) => some (back.reverse ++ extra, r)
    | none =>
      match t with
      | c :: r =>
        match lineEnd? t with
        | some r => longLiteral? fuel ('\n' :: back) r
        | none => if isPlain c then longLiteral? fuel (c :: back) r else none
      | [] => none

def string? (t : Text) : Option (Text × Text) :=
  let afterOpening (r : Text) : Text := (lineEnd? r).getD r
  match t with
  | '"' :: '"' :: '"' :: r => longBasic? (r.length + 1) [] (afterOpening r)
  | '"' :: r => basic? (r.length + 1) [] r
  | '\'' :: '\'' :: '\'' :: r => longLiteral? (r.length + 1) [] (afterOpening r)
  | '\'' :: r => literal? r
  | _ => none

/-! ## Words -/

/-- Digits of a base, single underscores between them. -/
def digitsOf? (base : Nat) (t : Text) : Option Nat :=
  let groups := Text.split '_' t
  if groups.any (·.isEmpty) then none else Text.ofDigits? base groups.flatten

/-- Decimal digits without leading zeros. -/
def decimal? (t : Text) : Option Nat :=
  match t with
  | '0' :: _ :: _ => none
  | _ => digitsOf? 10 t

/-- A number and the text in front of it as its sign. -/
def signed (t : Text) : Bool × Text :=
  match t with
  | '+' :: r => (false, r)
  | '-' :: r => (true, r)
  | r => (false, r)

def integer? (t : Text) : Option Int := do
  let n : Int ← match t with
    | '0' :: 'x' :: r => (digitsOf? 16 r).map Int.ofNat
    | '0' :: 'o' :: r => (digitsOf? 8 r).map Int.ofNat
    | '0' :: 'b' :: r => (digitsOf? 2 r).map Int.ofNat
    | _ =>
      let (negative, ds) := signed t
      (decimal? ds).map fun n => if negative then -Int.ofNat n else Int.ofNat n
  if -0x8000000000000000 ≤ n ∧ n < 0x8000000000000000 then some n else none

/-- Whether a word is a number with a fraction or an exponent, infinite or undefined. -/
def isFraction (t : Text) : Bool :=
  let body := (signed t).2
  let exponentOk (e : Text) : Bool := (digitsOf? 10 (signed e).2).isSome
  let withExponent (whole e : Text) : Bool := (decimal? whole).isSome && exponentOk e
  let cutE (t : Text) : Option (Text × Text) :=
    (Text.cut? 'e' (t.map fun c => if c == 'E' then 'e' else c))
  if body == "inf".toList || body == "nan".toList then true
  else
    match Text.cut? '.' body with
    | some (whole, rest) =>
      (decimal? whole).isSome &&
        (match cutE rest with
          | some (digits, e) => (digitsOf? 10 digits).isSome && exponentOk e
          | none => (digitsOf? 10 rest).isSome)
    | none =>
      match cutE body with
      | some (whole, e) => withExponent whole e
      | none => false

def two? (least most : Nat) (t : Text) : Bool :=
  t.length == 2 && (Text.nat? t).any fun n => least ≤ n && n ≤ most

/-- `07:32:00` with an optional fraction of a second. -/
def isTime (t : Text) : Bool :=
  match t with
  | a :: b :: ':' :: c :: d :: ':' :: e :: f :: rest =>
    two? 0 23 [a, b] && two? 0 59 [c, d] && two? 0 60 [e, f] &&
      (match rest with
        | [] => true
        | '.' :: ds => (Text.nat? ds).isSome
        | _ => false)
  | _ => false

/-- `1979-05-27`. -/
def isDay (t : Text) : Bool :=
  match Text.split '-' t with
  | [y, m, d] =>
    y.length == 4 && m.length == 2 && d.length == 2 &&
      (match Text.nat? y, Text.nat? m, Text.nat? d with
        | some y, some m, some d => CalendarDate.valid ⟨y, m, d⟩
        | _, _, _ => false)
  | _ => false

/-- The time without the offset from Greenwich behind it. -/
def withoutOffset? (t : Text) : Option Text :=
  let clockAndOffset := fun (sign : Char) =>
    match Text.cut? sign t with
    | some (time, [a, b, ':', c, d]) =>
      if two? 0 23 [a, b] && two? 0 59 [c, d] then some time else none
    | _ => none
  match t.getLast? with
  | some 'Z' => some t.dropLast
  | some 'z' => some t.dropLast
  | _ =>
    if t.contains '+' then clockAndOffset '+'
    else if t.contains '-' then clockAndOffset '-'
    else some t

/-- Whether a word is a date, a time, or both. -/
def isDate (t : Text) : Bool :=
  let day := t.take 10
  if isDay day then
    match t.drop 10 with
    | [] => true
    | c :: rest =>
      (c == 'T' || c == 't' || c == ' ') && (withoutOffset? rest).any isTime
  else isTime t

def word? (t : Text) : Option Value :=
  if t = "true".toList then some (.boolean true)
  else if t = "false".toList then some (.boolean false)
  else
    match integer? t with
    | some n => some (.integer n)
    | none => if isFraction t then some .fraction else if isDate t then some .date else none

end Toml

end SiteGateway
