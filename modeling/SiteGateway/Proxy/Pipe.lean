import SiteGateway.Text.Utf8

/-!
# Bounded pipes

A pipe holds what was written and not yet read, up to a capacity. What a closed pipe still holds can
be read, and then it is at its end. Writing and reading lose nothing (`Pipe.write_append`,
`Pipe.read_append`).
-/

namespace SiteGateway

structure Pipe where
  capacity : Nat
  held : Bytes
  closed : Bool
deriving DecidableEq, Repr

namespace Pipe

def empty (capacity : Nat) : Pipe := ⟨capacity, [], false⟩

def room (p : Pipe) : Nat := p.capacity - p.held.length

/-- Writes as much as fits; the rest is left over. -/
def write (p : Pipe) (bytes : Bytes) : Pipe × Bytes :=
  ({ p with held := p.held ++ bytes.take p.room }, bytes.drop p.room)

/-- Takes up to so many bytes. -/
def read (p : Pipe) (most : Nat) : Bytes × Pipe :=
  (p.held.take most, { p with held := p.held.drop most })

def close (p : Pipe) : Pipe := { p with closed := true }

def atEnd (p : Pipe) : Bool := p.closed && p.held.isEmpty

theorem write_append (p : Pipe) (bytes : Bytes) :
    (p.write bytes).1.held ++ (p.write bytes).2 = p.held ++ bytes := by
  simp [write]

theorem read_append (p : Pipe) (most : Nat) : (p.read most).1 ++ (p.read most).2.held = p.held := by
  simp [read]

end Pipe

end SiteGateway
