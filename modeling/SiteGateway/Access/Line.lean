import SiteGateway.Access.Record
import SiteGateway.Time.HttpDate

/-!
# Records as lines

For people a line begins with the time and the level; in JSON it is one object. Their times are
universal time to the microsecond. The time inside an access line is local time to the second.
-/

namespace SiteGateway

namespace Json

/-- One character of a JSON string. -/
def escape (c : Char) : Text :=
  match c with
  | '"' => ['\\', '"']
  | '\\' => ['\\', '\\']
  | '\n' => ['\\', 'n']
  | '\r' => ['\\', 'r']
  | '\t' => ['\\', 't']
  | '\x08' => ['\\', 'b']
  | '\x0c' => ['\\', 'f']
  | c =>
    if c.toNat < 0x20 then
      let h := Text.hex c.toNat
      ['\\', 'u'] ++ List.replicate (4 - h.length) '0' ++ h
    else [c]

def string (t : Text) : Text := '"' :: (t.flatMap escape ++ ['"'])

def object (members : List (Text × Text)) : Text :=
  '{' :: Text.join [','] (members.map fun (name, value) => string name ++ ':' :: value) ++ ['}']

end Json

/-- A time as records show it. -/
def Instant.logText (i : Instant) : Text :=
  let c := CivilTime.ofSeconds i.seconds
  HttpDate.writeYear c.date.year ++ '-' :: Text.padded 2 c.date.month ++
    '-' :: Text.padded 2 c.date.day ++ 'T' :: HttpDate.writeClock c.second ++
    '.' :: Text.padded 6 (i.nanos / 1000) ++ ['Z']

def CivilTime.accessText (t : CivilTime) : Text :=
  Text.padded 2 t.date.day ++ '/' :: HttpDate.nameAt Calendar.monthNames (t.date.month - 1) ++
    '/' :: HttpDate.writeYear t.date.year ++ ' ' :: HttpDate.writeClock t.second

/-- A value in JSON: numbers and truth values as such, all else as text. -/
def LogValue.json : LogValue → Text
  | shown t | quoted t => Json.string t
  | number n => Text.ofNat n
  | flag b => if b then "true".toList else "false".toList

namespace LogRecord

def json (r : LogRecord) (time : Instant) : Text :=
  Json.object <|
    [("timestamp".toList, Json.string time.logText),
      ("level".toList, Json.string r.level.text.toList),
      ("message".toList, Json.string r.message)] ++
    r.fields.map (fun (name, value) => (name.toList, value.json)) ++
    [("target".toList, Json.string r.speaker.toList)]

/-- The record as a line with the time in front, levels flush right. -/
def timedLine (r : LogRecord) (time : Instant) : Text :=
  time.logText ++ ' ' :: List.replicate (5 - r.level.text.length) ' ' ++ r.line

def written (r : LogRecord) (time : Instant) : LogFormat → Text
  | .console => r.timedLine time
  | .json => r.json time

end LogRecord

end SiteGateway
