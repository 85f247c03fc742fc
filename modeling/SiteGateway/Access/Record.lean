import SiteGateway.Text.Blank
import SiteGateway.Text.Quoted

/-!
# Log records

What the gateway reports about itself: a level, a message, and fields with values. Records are
written for people or as JSON.
-/

namespace SiteGateway

/-- How records are written. -/
inductive LogFormat
  | console
  | json
deriving DecidableEq, Repr

namespace LogFormat

def text : LogFormat → String
  | console => "console"
  | json => "json"

/-- Reads a format, letter case and blanks around it aside; a blank text is the console. The error
is the text in lower case. -/
def parse (t : Text) : Except Text LogFormat :=
  let low := Text.lower (Text.trim t)
  if low = [] ∨ low = "console".toList then .ok console
  else if low = "json".toList then .ok json
  else .error low

def unknownMessage (low : Text) : Text := "unsupported logging type ".toList ++ low

end LogFormat

inductive LogLevel
  | debug
  | info
  | warn
  | error
deriving DecidableEq, Repr

def LogLevel.text : LogLevel → String
  | debug => "DEBUG"
  | info => "INFO"
  | warn => "WARN"
  | error => "ERROR"

/-- A value of a field. A quoted text is shown in quotes to people. -/
inductive LogValue
  | shown (text : Text)
  | quoted (text : Text)
  | number (n : Nat)
  | flag (b : Bool)
deriving DecidableEq, Repr

structure LogRecord where
  level : LogLevel
  /-- The part of the gateway that speaks. -/
  speaker : String
  message : Text
  fields : List (String × LogValue)
deriving DecidableEq, Repr

namespace LogValue

def text : LogValue → Text
  | shown t => t
  | quoted t => t.quoted
  | number n => Text.ofNat n
  | flag b => if b then "true".toList else "false".toList

end LogValue

/-- A record as one line for people, without the time in front. -/
def LogRecord.line (r : LogRecord) : Text :=
  r.level.text.toList ++ ' ' :: r.message ++
    r.fields.flatMap fun (name, value) => ' ' :: name.toList ++ '=' :: value.text

end SiteGateway
