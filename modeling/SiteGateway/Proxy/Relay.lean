import SiteGateway.Text.Utf8

/-!
# The relay of a tunnel

Two loops copy bytes, one in each direction. A loop reads a chunk, writes all of it, and reads
again; it ends when its reader is at an end, on an error, or when the relay is released. Then it
shuts its writer down and reports. The relay is over with the first report, and releases the other
loop.

The steps of both loops can come in any order; `RelayState.step?` says which of them are possible.
-/

namespace SiteGateway

inductive Direction
  | clientToBackend
  | backendToClient
deriving DecidableEq, Repr

namespace Direction

def text : Direction → String
  | clientToBackend => "client->backend"
  | backendToClient => "backend->client"

def other : Direction → Direction
  | clientToBackend => backendToClient
  | backendToClient => clientToBackend

end Direction

/-- One of each for the two directions. -/
structure Directed (α : Type) where
  clientToBackend : α
  backendToClient : α
deriving DecidableEq, Repr

namespace Directed

variable {α : Type}

def both (a : α) : Directed α := ⟨a, a⟩

def get (x : Directed α) : Direction → α
  | .clientToBackend => x.clientToBackend
  | .backendToClient => x.backendToClient

def set (x : Directed α) (a : α) : Direction → Directed α
  | .clientToBackend => { x with clientToBackend := a }
  | .backendToClient => { x with backendToClient := a }

def map (f : α → α) (x : Directed α) : Directed α := ⟨f x.clientToBackend, f x.backendToClient⟩

@[simp] theorem get_set_self (x : Directed α) (a : α) (d : Direction) : (x.set a d).get d = a := by
  cases d <;> rfl

theorem get_set_of_ne (x : Directed α) (a : α) {d e : Direction} (h : e ≠ d) :
    (x.set a d).get e = x.get e := by
  cases d <;> cases e <;> simp_all [get, set]

end Directed

/-- Where a loop stands. -/
inductive CopyPhase
  | reading
  /-- These bytes of the last chunk are still to be written. -/
  | writing (rest : Bytes)
  /-- Nothing is copied any more. -/
  | ending
  /-- The writer is shut down. -/
  | shutDown
  | reported
deriving DecidableEq, Repr

/-- What can happen to a relay. -/
inductive RelayEvent
  | read (d : Direction) (chunk : Bytes)
  /-- The reader is at its end. -/
  | readEnded (d : Direction)
  | readFailed (d : Direction)
  /-- The writer takes some of the bytes. -/
  | written (d : Direction) (part : Bytes)
  | writeFailed (d : Direction)
  /-- The loop notices the release. -/
  | stopped (d : Direction)
  | shutDown (d : Direction)
  | reported (d : Direction)
  /-- The relay takes the first report. -/
  | concluded
  /-- The relay releases the loops. -/
  | released
deriving DecidableEq, Repr

structure RelayState where
  phases : Directed CopyPhase
  /-- Reports in the order they came in. -/
  reports : List Direction
  /-- The direction that ended first, once the relay is over. -/
  first : Option Direction
  released : Bool
deriving DecidableEq, Repr

namespace RelayState

/-- The size of a buffer, which bounds a chunk. -/
def bufferSize : Nat := 32 * 1024

/-- How many reports are kept until the relay takes one. -/
def reportCapacity : Nat := 2

def initial : RelayState := ⟨.both .reading, [], none, false⟩

def phase (s : RelayState) (d : Direction) : CopyPhase := s.phases.get d

def setPhase (s : RelayState) (p : CopyPhase) (d : Direction) : RelayState :=
  { s with phases := s.phases.set p d }

/-- The state after an event, if the event can happen. -/
def step? (s : RelayState) : RelayEvent → Option RelayState
  | .read d chunk =>
    if s.phase d = .reading ∧ chunk ≠ [] ∧ chunk.length ≤ bufferSize then
      some (s.setPhase (.writing chunk) d)
    else none
  | .readEnded d | .readFailed d =>
    if s.phase d = .reading then some (s.setPhase .ending d) else none
  | .written d part =>
    match s.phase d with
    | .writing rest =>
      if part ≠ [] ∧ part.isPrefixOf rest then
        let left := rest.drop part.length
        some (s.setPhase (if left = [] then .reading else .writing left) d)
      else none
    | _ => none
  | .writeFailed d =>
    match s.phase d with
    | .writing _ => some (s.setPhase .ending d)
    | _ => none
  | .stopped d =>
    match s.released, s.phase d with
    | true, .reading | true, .writing _ => some (s.setPhase .ending d)
    | _, _ => none
  | .shutDown d => if s.phase d = .ending then some (s.setPhase .shutDown d) else none
  | .reported d =>
    if s.phase d = .shutDown then
      let s := s.setPhase .reported d
      some (if s.first = none ∧ s.reports.length < reportCapacity then
        { s with reports := s.reports ++ [d] } else s)
    else none
  | .concluded =>
    match s.first, s.reports with
    | none, d :: _ => some { s with first := some d }
    -- There is nobody left to report.
    | none, [] =>
      if s.phases = .both .reported then some { s with first := some .clientToBackend } else none
    | some _, _ => none
  | .released =>
    if s.first.isSome ∧ !s.released then some { s with released := true } else none

/-- The state after some events, if they can happen one after another. -/
def run? (s : RelayState) (events : List RelayEvent) : Option RelayState := events.foldlM step? s

end RelayState

namespace RelayEvent

/-- The bytes that an event reads in a direction. -/
def readBytes (d : Direction) : RelayEvent → Bytes
  | read e chunk => if e = d then chunk else []
  | _ => []

/-- The bytes that an event writes in a direction. -/
def writtenBytes (d : Direction) : RelayEvent → Bytes
  | written e part => if e = d then part else []
  | _ => []

end RelayEvent

end SiteGateway
