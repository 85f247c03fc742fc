import SiteGateway.Text.Blank
import SiteGateway.Time.Calendar

/-!
# Dates in header fields

`HttpDate.write` writes the fixed form `Sun, 06 Nov 1994 08:49:37 GMT`. `HttpDate.parse?` reads it
and the two older forms, `Sunday, 06-Nov-94 08:49:37 GMT` and `Sun Nov  6 08:49:37 1994`; letter
case counts, the weekday must be right and the year lies between 1970 and 9999.
-/

namespace SiteGateway

namespace HttpDate

/-- A year in four digits; others than those from 0 to 9999 get a sign. -/
def writeYear (y : Int) : Text :=
  match y with
  | .ofNat n => if n ≤ 9999 then Text.padded 4 n else '+' :: Text.padded 4 n
  | .negSucc n => '-' :: Text.padded 4 (n + 1)

def writeClock (s : Nat) : Text :=
  Text.join [':'] [Text.padded 2 (s / 3600), Text.padded 2 (s / 60 % 60), Text.padded 2 (s % 60)]

/-- The name at a position of a list of names. -/
def nameAt (names : List String) (i : Nat) : Text := (names.getD i "").toList

/-- The fixed form for a number of seconds since 1970. -/
def write (seconds : Int) : Text :=
  let t := CivilTime.ofSeconds seconds
  nameAt Calendar.weekdayNames (weekday t.date.toDays) ++ ", ".toList ++
    Text.padded 2 t.date.day ++ [' '] ++ nameAt Calendar.monthNames (t.date.month - 1) ++ [' '] ++
    writeYear t.date.year ++ [' '] ++ writeClock t.second ++ " GMT".toList

/-- Whether a header date names the second: it lies in a year from 1970 to 9999. -/
def reaches (seconds : Int) : Bool := 0 ≤ seconds && seconds < 253402300800

/-- Where a name stands in a list of names. -/
def indexOf? (names : List String) (t : Text) : Option Nat :=
  names.findIdx? fun n => n.toList == t

def digits? (n : Nat) (t : Text) : Option Nat := if t.length = n then Text.nat? t else none

/-- The fields of a date as they are written. -/
structure Fields where
  weekday : Nat
  year : Nat
  month : Nat
  day : Nat
  hour : Nat
  minute : Nat
  second : Nat

/-- The instant of the fields, if they name one and the weekday is right. -/
def Fields.toSeconds? (f : Fields) : Option Int :=
  let date : CalendarDate := ⟨f.year, f.month, f.day⟩
  if f.second < 60 ∧ f.minute < 60 ∧ f.hour < 24 ∧ 1970 ≤ f.year ∧ f.year ≤ 9999 ∧
      date.valid ∧ SiteGateway.weekday date.toDays = f.weekday then
    some (CivilTime.toSeconds ⟨date, 3600 * f.hour + 60 * f.minute + f.second⟩)
  else none

/-- `08:49:37`. -/
def clock? (t : Text) : Option (Nat × Nat × Nat) :=
  match t with
  | [a, b, ':', c, d, ':', e, f] => do
    return (← digits? 2 [a, b], ← digits? 2 [c, d], ← digits? 2 [e, f])
  | _ => none

/-- `Sun, 06 Nov 1994 08:49:37 GMT`. -/
def fixed? (t : Text) : Option Fields := do
  if t.length ≠ 29 ∨ t.drop 25 ≠ " GMT".toList then none
  if (t.drop 3).take 2 ≠ ", ".toList ∨ t[7]? ≠ some ' ' ∨ t[11]? ≠ some ' ' ∨ t[16]? ≠ some ' ' then
    none
  let (hour, minute, second) ← clock? ((t.drop 17).take 8)
  return { weekday := ← indexOf? Calendar.weekdayNames (t.take 3),
           year := ← digits? 4 ((t.drop 12).take 4),
           month := (← indexOf? Calendar.monthNames ((t.drop 8).take 3)) + 1,
           day := ← digits? 2 ((t.drop 5).take 2), hour, minute, second }

/-- `Sunday, 06-Nov-94 08:49:37 GMT`; years from 70 on lie in the twentieth century. -/
def hyphenated? (t : Text) : Option Fields := do
  let (name, rest) ← Text.cutAt? ", ".toList t
  if rest.length ≠ 22 ∨ rest.drop 18 ≠ " GMT".toList then none
  if rest[2]? ≠ some '-' ∨ rest[6]? ≠ some '-' then none
  let (hour, minute, second) ← clock? ((rest.drop 10).take 8)
  let year ← digits? 2 ((rest.drop 7).take 2)
  return { weekday := ← indexOf? Calendar.weekdayLongNames name,
           year := if year < 70 then year + 2000 else year + 1900,
           month := (← indexOf? Calendar.monthNames ((rest.drop 3).take 3)) + 1,
           day := ← digits? 2 (rest.take 2), hour, minute, second }

/-- `Sun Nov  6 08:49:37 1994`. -/
def yearLast? (t : Text) : Option Fields := do
  if t.length ≠ 24 ∨ t[3]? ≠ some ' ' ∨ t[7]? ≠ some ' ' ∨ t[10]? ≠ some ' ' ∨
      t[19]? ≠ some ' ' then
    none
  let (hour, minute, second) ← clock? ((t.drop 11).take 8)
  -- A day of one digit has a blank in front, so that the form keeps its length.
  let day ← match t[8]? with
    | some ' ' => digits? 1 ((t.drop 9).take 1)
    | _ => digits? 2 ((t.drop 8).take 2)
  return { weekday := ← indexOf? Calendar.weekdayNames (t.take 3),
           year := ← digits? 4 (t.drop 20),
           month := (← indexOf? Calendar.monthNames ((t.drop 4).take 3)) + 1,
           day, hour, minute, second }

/-- The seconds since 1970 that a date in one of the three forms names. -/
def parse? (t : Text) : Option Int :=
  let t := Text.trim t
  (((fixed? t).or (hyphenated? t)).or (yearLast? t)).bind Fields.toSeconds?

end HttpDate

end SiteGateway
