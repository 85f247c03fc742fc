import SiteGateway.Text.Basic

/-!
# Admission of connections

A listener takes a connection from its queue only with a permit in hand, and there are as many
permits as connections are allowed. The permit goes to the task that serves the connection and comes
back when that task is over: after the connection is closed, but also after it is handed over to a
tunnel, which goes on without one.
-/

namespace SiteGateway

/-- Why a listener fails. -/
inductive ListenError
  | bind (address cause : Text)
  | accept (cause : Text)
  | closed
deriving DecidableEq, Repr

def ListenError.message : ListenError → Text
  | bind address cause => "failed to bind ".toList ++ address ++ ": ".toList ++ cause
  | accept cause => "failed to accept: ".toList ++ cause
  | closed => "listener closed".toList

/-- What has become of a connection that was taken from the queue. -/
inductive ConnectionPhase
  /-- It was taken; a handshake may still be under way. -/
  | accepted
  /-- Requests are answered. -/
  | served
  /-- A tunnel has taken the connection over. -/
  | tunnelled
  | closed
deriving DecidableEq, Repr

namespace ConnectionPhase

def isOpen : ConnectionPhase → Bool
  | accepted | served | tunnelled => true
  | closed => false

/-- Whether the task that serves the connection has something left to do. -/
def isAttended : ConnectionPhase → Bool
  | accepted | served => true
  | tunnelled | closed => false

/-- Whether a connection may go from one phase to another. -/
def leadsTo : ConnectionPhase → ConnectionPhase → Bool
  | accepted, served | accepted, closed => true
  | served, served | served, tunnelled | served, closed => true
  | tunnelled, closed => true
  | _, _ => false

end ConnectionPhase

structure Connection where
  phase : ConnectionPhase
  /-- Whether the permit is still held. -/
  permit : Bool
deriving DecidableEq, Repr

/-- A listener and the connections it took. -/
structure Admission where
  /-- How many connections are allowed. -/
  limit : Nat
  /-- The permits that nobody holds. -/
  permits : Nat
  /-- Clients in the queue. -/
  queued : Nat
  /-- Whether a permit is held for the next client. -/
  reserved : Bool
  listening : Bool
  connections : List Connection
deriving DecidableEq, Repr

inductive AdmissionStep
  /-- A client connects. -/
  | arrive
  /-- The listener takes a permit for the next client. -/
  | reserve
  /-- The listener takes a client from the queue. -/
  | accept
  /-- Taking a client fails; the permit comes back. -/
  | refuse
  /-- The listener is closed, and with it the queue. -/
  | stop
  /-- A connection gets to a phase. -/
  | turn (connection : Nat) (phase : ConnectionPhase)
  /-- The task of a connection is over; its permit comes back. -/
  | settle (connection : Nat)
deriving DecidableEq, Repr

namespace Admission

def initial (limit : Nat) : Admission := ⟨limit, limit, 0, false, true, []⟩

def openCount (s : Admission) : Nat := s.connections.countP (·.phase.isOpen)

/-- How many connections hold their permit. -/
def held (s : Admission) : Nat := s.connections.countP (·.permit)

def put (s : Admission) (connection : Nat) (x : Connection) : Admission :=
  { s with connections := s.connections.set connection x }

/-- The state after a step, if the step can be taken. -/
def step? (s : Admission) : AdmissionStep → Option Admission
  | .arrive => if s.listening then some { s with queued := s.queued + 1 } else none
  | .reserve =>
    if s.listening ∧ s.reserved = false ∧ 0 < s.permits then
      some { s with reserved := true, permits := s.permits - 1 }
    else none
  | .accept =>
    if s.reserved ∧ 0 < s.queued then
      some { s with
        reserved := false, queued := s.queued - 1
        connections := s.connections ++ [⟨.accepted, true⟩] }
    else none
  | .refuse =>
    if s.reserved then some { s with reserved := false, permits := s.permits + 1 } else none
  -- Clients that wait are turned away; a permit that was set aside for the next one comes back.
  | .stop =>
    if s.listening then
      some { s with
        listening := false, queued := 0, reserved := false
        permits := s.permits + s.reserved.toNat }
    else none
  | .turn i phase =>
    match s.connections[i]? with
    | some x => if x.phase.leadsTo phase then some (s.put i { x with phase }) else none
    | none => none
  | .settle i =>
    match s.connections[i]? with
    | some x =>
      if x.permit ∧ x.phase.isAttended = false then
        some { s.put i { x with permit := false } with permits := s.permits + 1 }
      else none
    | none => none

/-- The state after some steps, if they can be taken one after another. -/
def run? (s : Admission) (steps : List AdmissionStep) : Option Admission := steps.foldlM step? s

/-- Waits a short while for a client: the steps of taking one, or of giving up. -/
def tryAccept (s : Admission) : Bool × Admission :=
  match s.run? [.reserve, .accept] with
  | some t => (true, t)
  | none => (false, s)

/-- Lets a connection go, if there is one of that number. -/
def release (s : Admission) (connection : Nat) : Admission :=
  (s.run? [.turn connection .closed, .settle connection]).getD s

end Admission

end SiteGateway
