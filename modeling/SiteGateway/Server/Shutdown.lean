/-!
# Shutdown signals

A coordinator triggers the shutdown of everything that subscribed to its channel; a copy of a
coordinator speaks on the same channel. Signals are numbered, and a channel keeps the last one. A
receiver remembers the number of the signal that it takes next, so one that fell behind what is kept
hears how many signals it missed and goes on with the oldest one that is left.
-/

namespace SiteGateway

inductive ShutdownOutcome
  | done
  /-- A trigger that was not seen before. -/
  | signalled
  /-- So many triggers are lost. -/
  | lagged (missed : Nat)
  /-- There is no trigger that was not seen. -/
  | empty
  /-- There is no trigger that was not seen, and nobody is left to trigger. -/
  | closed
  /-- The receiver is gone. -/
  | dropped
deriving DecidableEq, Repr

/-- A channel. Its signals say nothing but that they were sent, so their number is all there is to
know about them. -/
structure SignalChannel where
  /-- The number of the next signal. -/
  next : Nat
  /-- How many coordinators can send. -/
  senders : Nat
  /-- How many receivers there are. -/
  receivers : Nat
deriving DecidableEq, Repr

namespace SignalChannel

/-- How many signals a channel keeps. -/
def capacity : Nat := 1

def opened : SignalChannel := ⟨0, 1, 0⟩

/-- The number of the oldest signal that is kept. -/
def oldest (c : SignalChannel) : Nat := c.next - capacity

/-- Sends a signal, unless nobody would receive it. -/
def send (c : SignalChannel) : SignalChannel :=
  if c.receivers = 0 then c else { c with next := c.next + 1 }

/-- What a receiver finds that takes this signal next, and which one it takes after that. -/
def receive (c : SignalChannel) (next : Nat) : ShutdownOutcome × Nat :=
  if next = c.next then (if c.senders = 0 then .closed else .empty, next)
  else if next < c.oldest then (.lagged (c.oldest - next), c.oldest)
  else (.signalled, next + 1)

def addSender (c : SignalChannel) : SignalChannel := { c with senders := c.senders + 1 }

def dropSender (c : SignalChannel) : SignalChannel := { c with senders := c.senders - 1 }

def addReceiver (c : SignalChannel) : SignalChannel := { c with receivers := c.receivers + 1 }

def dropReceiver (c : SignalChannel) : SignalChannel := { c with receivers := c.receivers - 1 }

end SignalChannel

/-- A subscription to a channel. -/
structure ShutdownReceiver where
  channel : Nat
  /-- The number of the signal that it takes next. -/
  next : Nat
deriving DecidableEq, Repr

/-- All channels, coordinators and receivers, by the order they came in. -/
structure ShutdownState where
  channels : List SignalChannel
  /-- The channel of each coordinator; nothing stands for one that is gone. -/
  coordinators : List (Option Nat)
  /-- The receivers; nothing stands for one that is gone. -/
  receivers : List (Option ShutdownReceiver)
deriving DecidableEq, Repr

/-- What can be done with coordinators and receivers. -/
inductive ShutdownStep
  | subscribe (coordinator : Nat)
  | trigger (coordinator : Nat)
  | clone (coordinator : Nat)
  | create
  /-- Drops a coordinator. -/
  | discard (coordinator : Nat)
  | receive (receiver : Nat)
  /-- Drops a receiver. -/
  | drop (receiver : Nat)
deriving DecidableEq, Repr

namespace ShutdownState

def initial : ShutdownState := ⟨[.opened], [some 0], []⟩

/-- The channel of a coordinator, unless it is gone. -/
def channel? (s : ShutdownState) (coordinator : Nat) : Option Nat :=
  (s.coordinators[coordinator]?).join

/-- The receiver of a number, unless it is gone. -/
def receiver? (s : ShutdownState) (receiver : Nat) : Option ShutdownReceiver :=
  (s.receivers[receiver]?).join

def channel (s : ShutdownState) (channel : Nat) : SignalChannel :=
  s.channels[channel]?.getD ⟨0, 0, 0⟩

/-- The receivers that are left on the channel of a coordinator. -/
def receiverCount (s : ShutdownState) (coordinator : Nat) : Nat :=
  (s.channel? coordinator).elim 0 fun n => (s.channel n).receivers

def receiverCounts (s : ShutdownState) : List Nat :=
  (List.range s.coordinators.length).map s.receiverCount

def onChannel (s : ShutdownState) (channel : Nat) (f : SignalChannel → SignalChannel) :
    ShutdownState :=
  { s with channels := s.channels.modify channel f }

/-- A receiver for the signals that are sent from now on. -/
def subscribe (s : ShutdownState) (coordinator : Nat) : ShutdownState :=
  match s.channel? coordinator with
  | none => s
  | some n =>
    { s.onChannel n .addReceiver with receivers := s.receivers ++ [some ⟨n, (s.channel n).next⟩] }

def trigger (s : ShutdownState) (coordinator : Nat) : ShutdownState :=
  match s.channel? coordinator with
  | none => s
  | some n => s.onChannel n .send

def clone (s : ShutdownState) (coordinator : Nat) : ShutdownState :=
  match s.channel? coordinator with
  | none => s
  | some n => { s.onChannel n .addSender with coordinators := s.coordinators ++ [some n] }

def create (s : ShutdownState) : ShutdownState :=
  { s with
    channels := s.channels ++ [.opened]
    coordinators := s.coordinators ++ [some s.channels.length] }

def discard (s : ShutdownState) (coordinator : Nat) : ShutdownState :=
  match s.channel? coordinator with
  | none => s
  | some n => { s.onChannel n .dropSender with coordinators := s.coordinators.set coordinator none }

/-- What a receiver finds at this moment. -/
def receive (s : ShutdownState) (receiver : Nat) : ShutdownOutcome × ShutdownState :=
  match s.receiver? receiver with
  | none => (.dropped, s)
  | some r =>
    let (outcome, next) := (s.channel r.channel).receive r.next
    (outcome, { s with receivers := s.receivers.set receiver (some { r with next := next }) })

def drop (s : ShutdownState) (receiver : Nat) : ShutdownState :=
  match s.receiver? receiver with
  | none => s
  | some r =>
    { s.onChannel r.channel .dropReceiver with receivers := s.receivers.set receiver none }

def step (s : ShutdownState) : ShutdownStep → ShutdownOutcome × ShutdownState
  | .subscribe c => (.done, s.subscribe c)
  | .trigger c => (.done, s.trigger c)
  | .clone c => (.done, s.clone c)
  | .create => (.done, s.create)
  | .discard c => (.done, s.discard c)
  | .receive r => s.receive r
  | .drop r => (.done, s.drop r)

def after (s : ShutdownState) (steps : List ShutdownStep) : ShutdownState :=
  steps.foldl (fun s step => (s.step step).2) s

/-- What each of some steps yields and what it leaves behind. -/
def run (s : ShutdownState) : List ShutdownStep → List (ShutdownOutcome × ShutdownState)
  | [] => []
  | step :: steps => s.step step :: run (s.step step).2 steps

end ShutdownState

end SiteGateway
