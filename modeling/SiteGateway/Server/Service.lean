import SiteGateway.Server.Admission
import SiteGateway.Server.Reply

/-!
# A server at work

Connections are admitted, requests come in on those that are served, and the answers decide what
becomes of the connections. The service of a connection ends with an answer that switches
protocols: if the answer comes from a tunnel that relays, the connection lives on with the tunnel.
-/

namespace SiteGateway

/-- The phase that an answer leaves a connection in. -/
def Answer.leaves (a : Answer) : ConnectionPhase :=
  if a.response.aborted then .closed
  else if .relaying ∈ a.states then .tunnelled
  else if a.response.status = 101 then .closed
  else .served

/-- Whether a step hands a connection over to a tunnel. -/
def AdmissionStep.handsOver : AdmissionStep → Bool
  | turn _ phase => phase = .tunnelled
  | _ => false

inductive ServerEvent
  /-- Anything but a request. -/
  | admission (step : AdmissionStep)
  /-- A request comes in on a connection and is answered. -/
  | request (connection : Nat) (w : World) (r : Request)

namespace ServerConfiguration

/-- The state after an event, if it can happen. Nothing but an answer hands a connection over. -/
def step? (c : ServerConfiguration) (s : Admission) : ServerEvent → Option Admission
  | .admission step => if step.handsOver then none else s.step? step
  | .request i w r =>
    if s.connections[i]?.any (·.phase = .served) then s.step? (.turn i (c.answer w r).leaves)
    else none

/-- The state of a server after some events, if they can happen one after another. -/
def run? (c : ServerConfiguration) (events : List ServerEvent) : Option Admission :=
  events.foldlM c.step? (.initial c.maxConnections)

end ServerConfiguration

end SiteGateway
