/-!
# Counting connections

A tracker counts a connection for as long as the guard that it gave out is held; a copy of a tracker
shares the count. Identifiers are given out over all trackers, upwards. Counts and identifiers are
words of 64 bits.
-/

namespace SiteGateway

/-- What shows that a connection is counted. -/
structure ConnectionGuard where
  /-- The count that it is part of. -/
  count : Nat
  id : UInt64
  held : Bool
deriving DecidableEq, Repr

def ConnectionGuard.label (g : ConnectionGuard) : String := "conn-" ++ toString g.id.toNat

/-- All trackers and the guards they gave out, by the order they came in. -/
structure ConnectionTrackers where
  counts : List UInt64
  /-- The count of each tracker. -/
  trackers : List Nat
  /-- The next identifier. -/
  nextId : UInt64
  guards : List ConnectionGuard
deriving DecidableEq, Repr

/-- What can be done with trackers and guards. -/
inductive TrackerStep
  | create
  | clone (tracker : Nat)
  | track (tracker : Nat)
  | drop (guard : Nat)
deriving DecidableEq, Repr

namespace ConnectionTrackers

def initial (firstId : UInt64) : ConnectionTrackers := ⟨[], [], firstId, []⟩

/-- The guard of a number, if it is still held. -/
def held? (s : ConnectionTrackers) (guard : Nat) : Option ConnectionGuard :=
  s.guards[guard]?.filter (·.held)

/-- There is no tracker yet, and identifiers begin at one. -/
def start : ConnectionTrackers := initial 1

def active (s : ConnectionTrackers) (tracker : Nat) : UInt64 :=
  (s.trackers[tracker]?.bind (s.counts[·]?)).getD 0

/-- How many guards of a tracker and its copies are held. -/
def heldOf (s : ConnectionTrackers) (tracker : Nat) : Nat :=
  s.guards.countP fun g => s.trackers[tracker]? == some g.count && g.held

def create (s : ConnectionTrackers) : ConnectionTrackers :=
  { s with counts := s.counts ++ [0], trackers := s.trackers ++ [s.counts.length] }

def clone (s : ConnectionTrackers) (tracker : Nat) : ConnectionTrackers :=
  match s.trackers[tracker]? with
  | none => s
  | some c => { s with trackers := s.trackers ++ [c] }

def track (s : ConnectionTrackers) (tracker : Nat) : ConnectionTrackers :=
  match s.trackers[tracker]? with
  | none => s
  | some c =>
    { s with
      counts := s.counts.modify c (· + 1)
      nextId := s.nextId + 1
      guards := s.guards ++ [⟨c, s.nextId, true⟩] }

/-- Lets a guard go; nothing changes if it is gone already. -/
def drop (s : ConnectionTrackers) (guard : Nat) : ConnectionTrackers :=
  match s.held? guard with
  | none => s
  | some g =>
    { s with
      counts := s.counts.modify g.count (· - 1)
      guards := s.guards.set guard { g with held := false } }

def step (s : ConnectionTrackers) : TrackerStep → ConnectionTrackers
  | .create => s.create
  | .clone t => s.clone t
  | .track t => s.track t
  | .drop g => s.drop g

def run (s : ConnectionTrackers) (steps : List TrackerStep) : ConnectionTrackers :=
  steps.foldl step s

end ConnectionTrackers

end SiteGateway
