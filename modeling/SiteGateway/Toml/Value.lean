import SiteGateway.Text.Basic

/-!
# TOML values

The values of a TOML document and the rules by which keys and headers add to tables: no key is
defined twice, a table is opened by one header, and dotted keys extend only tables that dotted keys
made.
-/

namespace SiteGateway

namespace Toml

/-- How a table came about: by a longer header, by a dotted key, by a header of its own, or inside
braces. -/
inductive TableKind
  | implied
  | dotted
  | opened
  | inside
deriving DecidableEq, Repr

/-- A value. Of fractions and dates only the kind is kept, for no setting has one. -/
inductive Value
  | string (text : Text)
  | integer (n : Int)
  | boolean (b : Bool)
  | fraction
  | date
  | array (items : List Value)
  | tables (tables : List (List (Text × Value)))
  | table (kind : TableKind) (entries : List (Text × Value))

mutual

/-- How deep arrays and tables stand in one another. -/
def Value.depth : Value → Nat
  | .array items => Value.deepest items + 1
  | .table _ entries => Value.deepestEntry entries + 1
  | _ => 0

def Value.deepest : List Value → Nat
  | [] => 0
  | v :: vs => max v.depth (Value.deepest vs)

def Value.deepestEntry : List (Text × Value) → Nat
  | [] => 0
  | (_, v) :: es => max v.depth (Value.deepestEntry es)

end

abbrev Entries := List (Text × Value)

namespace Entries

def get? (es : Entries) (key : Text) : Option Value := (es.find? (·.1 == key)).map (·.2)

/-- Puts a value in the place of the one with its key, or at the end. -/
def set (es : Entries) (key : Text) (v : Value) : Entries :=
  if es.any (·.1 == key) then es.map fun (k, w) => if k == key then (k, v) else (k, w)
  else es ++ [(key, v)]

end Entries

/-- Adds a value under a key with dots; the tables on the way are made by dots. -/
def insertDotted : Entries → List Text → Value → Option Entries
  | _, [], _ => none
  | es, [key], v => if (Entries.get? es key).isSome then none else some (es ++ [(key, v)])
  | es, key :: next :: path, v =>
    match Entries.get? es key with
    | none => do return es ++ [(key, .table .dotted (← insertDotted [] (next :: path) v))]
    | some (.table .dotted inner) => do
      return Entries.set es key (.table .dotted (← insertDotted inner (next :: path) v))
    | some (.table .implied inner) => do
      if path.isEmpty then none
      return Entries.set es key (.table .implied (← insertDotted inner (next :: path) v))
    | _ => none

/-- Opens the table of a header and gives it the entries of `body`; `many` appends to an array of
tables. -/
def openTable (many : Bool) (body : Entries → Option Entries) :
    Entries → List Text → Option Entries
  | _, [] => none
  | es, [key] =>
    match many, Entries.get? es key with
    | true, none => do return Entries.set es key (.tables [← body []])
    | true, some (.tables ts) => do return Entries.set es key (.tables (ts ++ [← body []]))
    | true, _ => none
    | false, none => do return Entries.set es key (.table .opened (← body []))
    | false, some (.table .implied inner) => do
      return Entries.set es key (.table .opened (← body inner))
    | false, _ => none
  | es, key :: path =>
    match Entries.get? es key with
    | none => do return Entries.set es key (.table .implied (← openTable many body [] path))
    | some (.table .inside _) => none
    | some (.table kind inner) => do
      return Entries.set es key (.table kind (← openTable many body inner path))
    | some (.tables ts) => do
      let last ← ts.getLast?
      return Entries.set es key (.tables (ts.dropLast ++ [← openTable many body last path]))
    | _ => none

end Toml

end SiteGateway
