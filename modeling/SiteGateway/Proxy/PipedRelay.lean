import SiteGateway.Proxy.Pipe
import SiteGateway.Proxy.Relay

/-!
# A relay between pipes

A relay whose two connections are pairs of pipes, with a client and a backend at the far ends.
Between two acts of the far ends the relay does everything it can, always in the same order.
-/

namespace SiteGateway

/-- The far ends of a tunnel. -/
inductive FarEnd
  | client
  | backend
deriving DecidableEq, Repr

namespace FarEnd

def sends : FarEnd → Direction
  | client => .clientToBackend
  | backend => .backendToClient

def receives (e : FarEnd) : Direction := e.sends.other

end FarEnd

structure PipedRelay where
  relay : RelayState
  /-- What a direction reads from. -/
  sources : Directed Pipe
  /-- What a direction writes to. -/
  sinks : Directed Pipe
  /-- Whether the end that sends in a direction still has its connection. -/
  connected : Directed Bool
  /-- Whether somebody has asked for the outcome. -/
  told : Bool

/-- What an act of a far end comes to. -/
inductive RelayOutcome
  | done
  /-- The other side takes nothing any more. -/
  | closed
  | notConnected
  | got (bytes : Bytes)
  /-- So much came before the end. -/
  | ended (bytes : Bytes)
  /-- Everything that came until the end. -/
  | rest (bytes : Bytes)
  | timeout
  /-- The relay is over; this direction ended first. -/
  | first (d : Direction)
  | finished
deriving DecidableEq, Repr

namespace PipedRelay

/-- Two connections that hold so many bytes in each direction. -/
def initial (capacity : Nat) : PipedRelay :=
  ⟨.initial, .both (.empty capacity), .both (.empty capacity), .both true, false⟩

/-- The pipe that an end sends into. -/
def outlet (s : PipedRelay) (e : FarEnd) : Pipe := s.sources.get e.sends

/-- The pipe that an end receives from. -/
def inlet (s : PipedRelay) (e : FarEnd) : Pipe := s.sinks.get e.receives

def isConnected (s : PipedRelay) (e : FarEnd) : Bool := s.connected.get e.sends

def setSource (s : PipedRelay) (d : Direction) (p : Pipe) : PipedRelay :=
  { s with sources := s.sources.set p d }

def setSink (s : PipedRelay) (d : Direction) (p : Pipe) : PipedRelay :=
  { s with sinks := s.sinks.set p d }

/-- What a loop does next, if it can do anything. -/
def loopEvent? (s : PipedRelay) (d : Direction) : Option RelayEvent :=
  match s.relay.phase d with
  | .reading =>
    let source := s.sources.get d
    if s.relay.released then some (.stopped d)
    else if source.held ≠ [] then some (.read d (source.read RelayState.bufferSize).1)
    else if source.closed then some (.readEnded d)
    else none
  | .writing rest =>
    let sink := s.sinks.get d
    if s.relay.released then some (.stopped d)
    else if sink.closed then some (.writeFailed d)
    else if 0 < sink.room then some (.written d (rest.take sink.room))
    else none
  | .ending => some (.shutDown d)
  | .shutDown => some (.reported d)
  | .reported => none

/-- What the relay does next: the loops come first, the client's before the backend's. -/
def event? (s : PipedRelay) : Option RelayEvent :=
  s.loopEvent? .clientToBackend <|> s.loopEvent? .backendToClient <|>
    [RelayEvent.concluded, .released].find? fun e => (s.relay.step? e).isSome

def carry (s : PipedRelay) : RelayEvent → PipedRelay
  | .read d chunk => s.setSource d ((s.sources.get d).read chunk.length).2
  | .written d part => s.setSink d ((s.sinks.get d).write part).1
  | .shutDown d => s.setSink d (s.sinks.get d).close
  | _ => s

/-- Once both loops are over, the relay has no part in its connections any more. -/
def letGo (s : PipedRelay) : PipedRelay :=
  if s.relay.phases = .both .reported then
    { s with sources := s.sources.map .close, sinks := s.sinks.map .close }
  else s

/-- One thing that the relay does by itself. -/
def step? (s : PipedRelay) : Option PipedRelay := do
  let e ← s.event?
  let relay ← s.relay.step? e
  return ({ s.carry e with relay }).letGo

/-- Lets the relay do at most so many things. -/
def settleFor (s : PipedRelay) : Nat → PipedRelay
  | 0 => s
  | n + 1 =>
    match s.step? with
    | none => s
    | some t => t.settleFor n

/-- The bytes that a loop still has to write. -/
def inHand (s : PipedRelay) (d : Direction) : Nat :=
  match s.relay.phase d with
  | .writing rest => rest.length
  | _ => 0

/-- Lets the relay do everything it can. A byte is read once and written once, and a loop ends
once. -/
def settle (s : PipedRelay) : PipedRelay :=
  let moved (d : Direction) := 2 * (s.sources.get d).held.length + s.inHand d
  s.settleFor (moved .clientToBackend + moved .backendToClient + 8)

/-- Sends while there is room; the rest is left over. The count bounds the rounds. -/
def pour (s : PipedRelay) (e : FarEnd) : Nat → Bytes → PipedRelay × Bytes
  | 0, bytes => (s, bytes)
  | n + 1, bytes =>
    let source := s.outlet e
    if bytes = [] ∨ source.closed ∨ source.room = 0 then (s, bytes)
    else
      let (source, left) := source.write bytes
      (s.setSource e.sends source).settle.pour e n left

def send (s : PipedRelay) (e : FarEnd) (bytes : Bytes) : RelayOutcome × PipedRelay :=
  if !s.isConnected e then (.notConnected, s)
  else
    let (s, left) := s.pour e bytes.length bytes
    (if left = [] then .done else if (s.outlet e).closed then .closed else .timeout, s)

/-- Takes what comes, up to so many bytes. The count bounds the rounds. -/
def drain (s : PipedRelay) (e : FarEnd) : Nat → Nat → Bytes × PipedRelay
  | 0, _ => ([], s)
  | n + 1, most =>
    let (bytes, sink) := (s.inlet e).read most
    if bytes = [] then ([], s)
    else
      let (more, s) := (s.setSink e.receives sink).settle.drain e n (most - bytes.length)
      (bytes ++ more, s)

def receive (s : PipedRelay) (e : FarEnd) (n : Nat) : RelayOutcome × PipedRelay :=
  if !s.isConnected e then (.notConnected, s)
  else
    let (bytes, s) := s.drain e n n
    (if bytes.length = n then .got bytes
      else if (s.inlet e).atEnd then .ended bytes
      else .timeout, s)

/-- Every byte that is anywhere on its way to an end. -/
def underway (s : PipedRelay) (e : FarEnd) : Nat :=
  (s.sources.get e.receives).held.length + s.inHand e.receives + (s.inlet e).held.length

def receiveAll (s : PipedRelay) (e : FarEnd) : RelayOutcome × PipedRelay :=
  if !s.isConnected e then (.notConnected, s)
  else
    let n := s.underway e
    let (bytes, s) := s.drain e n n
    (if (s.inlet e).atEnd then .rest bytes else .timeout, s)

def shutDown (s : PipedRelay) (e : FarEnd) : RelayOutcome × PipedRelay :=
  if !s.isConnected e then (.notConnected, s)
  else (.done, (s.setSource e.sends (s.outlet e).close).settle)

def close (s : PipedRelay) (e : FarEnd) : RelayOutcome × PipedRelay :=
  let t := (s.setSource e.sends (s.outlet e).close).setSink e.receives
    (s.inlet e).close
  (.done, ({ t with connected := s.connected.set false e.sends }).settle)

def finish (s : PipedRelay) : RelayOutcome × PipedRelay :=
  match s.relay.first with
  | none => (.timeout, s)
  | some d => if s.told then (.finished, s) else (.first d, { s with told := true })

end PipedRelay

end SiteGateway
