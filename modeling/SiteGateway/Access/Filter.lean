import SiteGateway.Access.Record

/-!
# Which records are shown

A filter is a list of rules with commas between them. A rule gives a level to the speakers whose
name begins with some text; the rule for the longest text decides, and of two for one text the
later. A filter with a rule that is not understood counts for nothing.
-/

namespace SiteGateway

/-- How severe a record is, the gravest lowest. -/
def LogLevel.rank : LogLevel → Nat
  | error => 1
  | warn => 2
  | info => 3
  | debug => 4

/-- Shows the records of some speakers up to a rank. -/
structure FilterRule where
  /-- What the names of the speakers begin with. -/
  start : Text
  rank : Nat
deriving DecidableEq, Repr

abbrev LogFilter := List FilterRule

namespace FilterRule

def everything : Nat := 5

/-- The rank of a level: its number or its name, letter case aside. -/
def rank? (t : Text) : Option Nat :=
  match Text.nat? t with
  | some n => if n ≤ everything then some n else none
  | none =>
    (["off", "error", "warn", "info", "debug", "trace"].map String.toList).findIdx?
      (· == Text.lower t)

def mayBegin (c : Char) : Bool := c.isAlphanum || c == '-' || c == ':' || c == '_'

/-- Reads a rule: a level for everybody, speakers that are shown in full, or speakers and a level.
A rule about a part of the work, in brackets, says nothing about single records. -/
def parse? (t : Text) : Option (List FilterRule) :=
  let (name, level) := t.span (· ≠ '=')
  let rank? := if level.length ≤ 1 then some everything else rank? (level.drop 1)
  if t ≠ Text.trim t then none
  else if name.head? = some '[' then rank?.map fun _ => []
  else if !name.head?.any mayBegin then none
  else
    match FilterRule.rank? t with
    | some rank => some [⟨[], rank⟩]
    | none => rank?.map fun rank => if name.contains '[' then [] else [⟨name, rank⟩]

end FilterRule

namespace LogFilter

/-- What is shown when nothing is said: the gateway's records from `INFO` on. -/
def default : LogFilter := [⟨"staticgate".toList, 3⟩]

/-- Reads a filter. Without any rule, only errors are shown. -/
def parse? (t : Text) : Option LogFilter :=
  let pieces := (Text.split ',' t).filter (!·.isEmpty)
  if pieces.isEmpty then some [⟨[], 1⟩] else (pieces.mapM FilterRule.parse?).map List.flatten

/-- The filter that the environment asks for, or the usual one. -/
def ofEnvironment (value : Option Text) : LogFilter := (value.bind parse?).getD default

def deciding? (f : LogFilter) (speaker : Text) : Option FilterRule :=
  (f.filter (·.start.isPrefixOf speaker)).foldl
    (fun best? r =>
      match best? with
      | none => some r
      | some best => if best.start.length ≤ r.start.length then some r else some best)
    none

def shows (f : LogFilter) (r : LogRecord) : Bool :=
  (f.deciding? r.speaker.toList).any (r.level.rank ≤ ·.rank)

end LogFilter

end SiteGateway
