import SiteGateway.Text.Blank
import SiteGateway.Time.HttpDate

/-!
# Dates as mail writes them

The older and looser date grammar of mail headers: the weekday may be missing, the day may have one
digit, the year may be short, the zone may be a name or an offset, and comments may follow.
-/

namespace SiteGateway

namespace MailDate

def blanks? (t : Text) : Option Text :=
  match t with
  | c :: r => if isBlank c then some (Text.trimStart r) else none
  | [] => none

/-- Between `least` and `most` digits, as many as there are. -/
def number? (least most : Nat) (t : Text) : Option (Nat × Text) :=
  let ds := (t.take most).takeWhile Char.isDigit
  if ds.length < least then none
  else (Text.nat? ds).map fun n => (n, t.drop ds.length)

/-- A name of three letters, letter case aside. -/
def name? (names : List String) (t : Text) : Option (Nat × Text) :=
  (names.findIdx? fun n => Text.sameLetters n.toList (t.take 3)).map fun i => (i, t.drop 3)

/-- The weekday in front of a comma, if there is one. -/
def weekday? (t : Text) : Option (Option Nat × Text) :=
  match name? Calendar.weekdayNames t with
  | none => some (none, t)
  | some (i, ',' :: r) => some (some i, r)
  | some _ => none

/-- The year meant by `n` written with `width` digits. -/
def fullYear (width n : Nat) : Nat :=
  if width = 2 then (if n ≤ 49 then n + 2000 else n + 1900)
  else if width = 3 then n + 1900
  else n

def char? (c : Char) : Text → Option Text
  | d :: r => if d = c then some r else none
  | [] => none

/-- Hour, minute and second; the seconds may be missing. -/
def clock? (t : Text) : Option ((Nat × Nat × Nat) × Text) := do
  let (hour, t) ← number? 2 2 t
  let t ← char? ':' (Text.trimStart t)
  let (minute, t) ← number? 2 2 (Text.trimStart t)
  match char? ':' (Text.trimStart t) with
  | none => return ((hour, minute, 0), t)
  | some t =>
    let (second, t) ← number? 2 2 t
    return ((hour, minute, second), t)

/-- Hours of the zones that have names; a single letter other than `j` says nothing. -/
def zoneHours? (name : Text) : Option Int :=
  match String.ofList (Text.lower name) with
  | "gmt" | "ut" | "z" => some 0
  | "edt" => some (-4)
  | "est" | "cdt" => some (-5)
  | "cst" | "mdt" => some (-6)
  | "mst" | "pdt" => some (-7)
  | "pst" => some (-8)
  | "j" => none
  | _ => if name.length = 1 then some 0 else none

/-- Seconds east of Greenwich: a name, or a sign and four digits. -/
def zone? (t : Text) : Option (Int × Text) :=
  let name := t.takeWhile Char.isAlpha
  if name.isEmpty then
    match t with
    | sign :: r => do
      let (hours, r) ← number? 2 2 r
      let (minutes, r) ← number? 2 2 r
      if minutes ≥ 60 then none
      let seconds : Int := 3600 * hours + 60 * minutes
      if sign = '+' then return (seconds, r)
      else if sign = '-' then return (-seconds, r)
      else none
    | [] => none
  else (zoneHours? name).map fun h => (3600 * h, t.drop name.length)

/-- What follows the end of a comment that is open `depth` times. -/
def afterComment? : Nat → Text → Option Text
  | _, [] => none
  | _, ['\\'] => none
  | depth, '\\' :: _ :: r => afterComment? depth r
  | depth, '(' :: r => afterComment? (depth + 1) r
  | depth, ')' :: r => if depth ≤ 1 then some r else afterComment? (depth - 1) r
  | depth, _ :: r => afterComment? depth r

/-- Whether only comments follow; blanks may stand before each. -/
def onlyComments : Nat → Text → Bool
  | 0, t => t.isEmpty
  | fuel + 1, t =>
    t.isEmpty ||
      match Text.trimStart t with
      | '(' :: r => (afterComment? 1 r).any (onlyComments fuel)
      | _ => false

/-- The seconds since 1970 that the date names. A sixtieth second counts as the one before. -/
def parse? (t : Text) : Option Int := do
  let (wday, t) ← weekday? (Text.trimStart t)
  let (day, t) ← number? 1 2 (Text.trimStart t)
  let t ← blanks? t
  let (month, t) ← name? Calendar.monthNames t
  let t ← blanks? t
  let (year, after) ← number? 2 t.length t
  let year := fullYear (t.length - after.length) year
  let t ← blanks? after
  let ((hour, minute, second), t) ← clock? t
  let t ← blanks? t
  let (offset, t) ← zone? t
  let date : CalendarDate := ⟨year, month + 1, day⟩
  if !onlyComments t.length t then none
  if hour ≥ 24 ∨ minute ≥ 60 ∨ second > 60 ∨ !date.valid ∨ year > 262142 then none
  if offset.natAbs ≥ 86400 then none
  -- A weekday may be left out, but not be wrong.
  if wday.any (· ≠ weekday date.toDays) then none
  return CivilTime.toSeconds ⟨date, 3600 * hour + 60 * minute + min second 59⟩ - offset

end MailDate

end SiteGateway
