import SiteGateway.Access.Record
import SiteGateway.Http.Message

/-!
# Access records

Every request leaves one record when its answer is over: who asked for what, the status, and how
many bytes were sent. For people it is a line in the common log format; in JSON a second record
announces the request when it arrives.
-/

namespace SiteGateway

/-- What is known of a request before it is answered. -/
structure RequestSummary where
  method : Text
  target : Text
  path : Text
  version : Version
  client : Option IpAddress
deriving DecidableEq, Repr

/-- Status and size of an answer as the client sees it. The size is any number: no answer is so long
that it would not fit into 64 bits. -/
structure Observation where
  status? : Option Nat
  bytes : Nat
deriving DecidableEq, Repr

namespace Observation

def empty : Observation := ⟨none, 0⟩

/-- Only the first status counts. -/
def recordStatus (o : Observation) (status : Nat) : Observation :=
  { o with status? := o.status?.or (some status) }

def recordBytes (o : Observation) (n : Nat) : Observation := { o with bytes := o.bytes + n }

/-- The status; 200 when content went out without one. -/
def status (o : Observation) : Nat := o.status?.getD 200

end Observation

namespace RequestSummary

def ofRequest (r : Request) : RequestSummary :=
  ⟨r.method, r.target.pathAndQuery, r.path, r.version, r.client⟩

def clientText (s : RequestSummary) : Text := (s.client.map IpAddress.text).getD ['-']

/-- The common log line at a time written as `time`. -/
def line (s : RequestSummary) (time : Text) (o : Observation) : Text :=
  s.clientText ++ " - - [".toList ++ time ++ "] \"".toList ++ s.method ++ ' ' :: s.target ++
    ' ' :: s.version.text.toList ++ "\" ".toList ++ Text.ofNat o.status ++
    ' ' :: (if o.bytes = 0 then ['-'] else Text.ofNat o.bytes)

def fields (s : RequestSummary) : List (String × LogValue) :=
  [("method", .shown s.method), ("path", .shown s.path),
    ("protocol", .quoted s.version.text.toList), ("remote", .shown s.clientText)]

/-- What is reported when a request arrives. -/
def started (s : RequestSummary) : LogFormat → List LogRecord
  | .console => []
  | .json => [⟨.info, "staticgate::observability::access", "request started".toList, s.fields⟩]

/-- What is reported when the answer is over, `elapsed` milliseconds after the request came. -/
def completed (s : RequestSummary) (time : Text) (elapsed : Nat) (o : Observation) :
    LogFormat → LogRecord
  | .console => ⟨.info, "staticgate::observability::access", s.line time o, []⟩
  | .json =>
    ⟨.info, "staticgate::observability::access", "request completed".toList,
      s.fields ++ [("status", .number o.status), ("bytes", .number o.bytes),
        ("duration_ms", .number elapsed)]⟩

end RequestSummary

/-- What reading a body yields next. -/
inductive BodyPoll
  | data (bytes : Bytes)
  | trailers (fields : Headers)
  | pending
  | failed
  | ended
deriving DecidableEq, Repr

/-- A body under observation. -/
structure ObservedBody where
  summary : RequestSummary
  format : LogFormat
  time : Text
  elapsed : Nat
  observation : Observation
  logged : Bool
deriving DecidableEq, Repr

/-- One step of reading an observed body: the body after it, what the client is given, and what is
reported. -/
structure BodyStep where
  body : ObservedBody
  given : BodyPoll
  records : List LogRecord
deriving DecidableEq, Repr

namespace ObservedBody

def start (summary : RequestSummary) (format : LogFormat) (time : Text) (elapsed status : Nat) :
    ObservedBody :=
  ⟨summary, format, time, elapsed, Observation.empty.recordStatus status, false⟩

/-- Reports the answer as over, once. -/
def finish (o : ObservedBody) : ObservedBody × List LogRecord :=
  if o.logged then (o, [])
  else
    ({ o with logged := true }, [o.summary.completed o.time o.elapsed o.observation o.format])

/-- Passes one step of reading on to the client: data is counted, an error or the end is
reported. -/
def poll (o : ObservedBody) (p : BodyPoll) : BodyStep :=
  match p with
  | .data bytes => ⟨{ o with observation := o.observation.recordBytes bytes.length }, p, []⟩
  | .trailers _ | .pending => ⟨o, p, []⟩
  | .failed | .ended => ⟨o.finish.1, p, o.finish.2⟩

/-- What the client is given and what is reported when the body is read step by step and dropped
afterwards. -/
def read (o : ObservedBody) : List BodyPoll → List BodyPoll × List LogRecord
  | [] => ([], o.finish.2)
  | p :: ps =>
    let step := o.poll p
    let rest := step.body.read ps
    (step.given :: rest.1, step.records ++ rest.2)

end ObservedBody

/-- The steps of reading at most `limit` chunks of a body, or all of it. -/
def Body.polls (b : Body) : Option Nat → List BodyPoll
  | some limit => (b.chunks.take limit).map .data
  | none => b.chunks.map .data ++ [if b.broken then .failed else .ended]

/-- The records of a request that is answered; one without an answer is only announced. -/
def accessRecords (format : LogFormat) (time : Text) (elapsed : Nat) (r : Request)
    (response : Response) (polls : List BodyPoll) : List LogRecord :=
  let s := RequestSummary.ofRequest r
  s.started format ++ ((ObservedBody.start s format time elapsed response.status).read polls).2

end SiteGateway
