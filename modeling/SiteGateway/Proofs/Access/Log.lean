import SiteGateway.Access.Log

/-!
# Every answer is reported once

Reading an observed body hands every poll on. What it reports hangs on one flag: a body that has
reported stays silent (`ObservedBody.read_records_of_logged`), and one that has not reports once, at
the first error or end or else when it is dropped, with the bytes that came before
(`ObservedBody.read_records`). Both go by induction along the polls, over what one poll does. With
the record that announces a request, in JSON alone, this gives `accessRecords_once`.
-/

namespace SiteGateway

namespace BodyPoll

/-- Whether nothing is sent any more: an error or the end. -/
def isOver : BodyPoll → Bool
  | failed | ended => true
  | data _ | trailers _ | pending => false

/-- The content that it brings. -/
def content : BodyPoll → Bytes
  | data bytes => bytes
  | trailers _ | pending | failed | ended => []

/-- How many bytes of content come before the first error or end. -/
def sent (polls : List BodyPoll) : Nat := ((polls.takeWhile (!·.isOver)).flatMap content).length

variable {p : BodyPoll} (polls : List BodyPoll)

theorem sent_cons_of_isOver (h : p.isOver = true) : sent (p :: polls) = 0 := by
  simp [sent, h]

theorem sent_cons_of_not_isOver (h : p.isOver = false) :
    sent (p :: polls) = p.content.length + sent polls := by
  simp [sent, h]

end BodyPoll

theorem Observation.recordBytes_recordBytes (o : Observation) (m n : Nat) :
    (o.recordBytes m).recordBytes n = o.recordBytes (m + n) := by
  simp [recordBytes, Nat.add_assoc]

namespace ObservedBody

variable (o : ObservedBody) {p : BodyPoll} (polls : List BodyPoll)

/-! ## One poll -/

theorem poll_given (p : BodyPoll) : (o.poll p).given = p := by cases p <;> rfl

theorem poll_of_isOver (h : p.isOver = true) : o.poll p = ⟨o.finish.1, p, o.finish.2⟩ := by
  cases p <;> first | rfl | cases h

theorem poll_of_not_isOver (h : p.isOver = false) :
    o.poll p = ⟨{ o with observation := o.observation.recordBytes p.content.length }, p, []⟩ := by
  cases p <;> first | rfl | cases h

theorem finish_of_logged (h : o.logged = true) : o.finish = (o, []) := if_pos h

theorem finish_of_not_logged (h : o.logged = false) :
    o.finish = ({ o with logged := true },
      [o.summary.completed o.time o.elapsed o.observation o.format]) := by
  simp [finish, h]

theorem poll_of_logged (h : o.logged = true) (p : BodyPoll) :
    (o.poll p).body.logged = true ∧ (o.poll p).records = [] := by
  cases hp : p.isOver with
  | true => rw [poll_of_isOver o hp, finish_of_logged o h]; exact ⟨h, rfl⟩
  | false => rw [poll_of_not_isOver o hp]; exact ⟨h, rfl⟩

/-! ## Reading to the drop -/

/-- Observation shows in nothing that the client is given. -/
theorem read_given : (o.read polls).1 = polls := by
  induction polls generalizing o with
  | nil => rfl
  | cons p ps ih =>
    change (o.poll p).given :: ((o.poll p).body.read ps).1 = p :: ps
    rw [poll_given, ih]

theorem read_records_of_logged (h : o.logged = true) : (o.read polls).2 = [] := by
  induction polls generalizing o with
  | nil => rw [read, finish_of_logged o h]
  | cons p ps ih =>
    obtain ⟨hl, hr⟩ := poll_of_logged o h p
    change (o.poll p).records ++ ((o.poll p).body.read ps).2 = []
    rw [hr, ih _ hl, List.append_nil]

theorem read_records (h : o.logged = false) :
    (o.read polls).2 =
      [o.summary.completed o.time o.elapsed (o.observation.recordBytes (BodyPoll.sent polls))
        o.format] := by
  induction polls generalizing o with
  | nil => rw [read, finish_of_not_logged o h]; rfl
  | cons p ps ih =>
    change (o.poll p).records ++ ((o.poll p).body.read ps).2 = _
    cases hp : p.isOver with
    | true =>
      -- It reports here and stays silent from now on, the drop included.
      rw [poll_of_isOver o hp, finish_of_not_logged o h, BodyPoll.sent_cons_of_isOver ps hp,
        read_records_of_logged _ ps rfl]
      rfl
    | false =>
      rw [poll_of_not_isOver o hp, BodyPoll.sent_cons_of_not_isOver ps hp,
        ← Observation.recordBytes_recordBytes]
      exact ih { o with observation := o.observation.recordBytes p.content.length } h

end ObservedBody

/-! ## The records of a request -/

namespace LogRecord

variable (x : LogRecord)

/-- The value of a field. -/
def field? (name : String) : Option LogValue := x.fields.lookup name

/-- In JSON, a record says of which request it speaks. -/
structure Concerns (r : Request) : Prop where
  method : x.field? "method" = some (.shown r.method)
  path : x.field? "path" = some (.shown r.path)
  protocol : x.field? "protocol" = some (.quoted r.version.text.toList)
  remote : x.field? "remote" = some (.shown ((r.client.map IpAddress.text).getD ['-']))

/-- In JSON, a record closes an answer with a status, a number of bytes and the time it took. -/
structure Completes (status bytes elapsed : Nat) : Prop where
  message : x.message = "request completed".toList
  status : x.field? "status" = some (.number status)
  bytes : x.field? "bytes" = some (.number bytes)
  elapsed : x.field? "duration_ms" = some (.number elapsed)

/-- On the console, a record is a line that ends in a status and a number of bytes, or in a dash if
there are none. -/
def EndsIn (status bytes : Nat) : Prop :=
  "\" ".toList ++ Text.ofNat status ++ ' ' :: (if bytes = 0 then ['-'] else Text.ofNat bytes) <:+
    x.message

end LogRecord

namespace RequestSummary

variable (time : Text) (elapsed : Nat) (r : Request) (o : Observation)

theorem started_json_concerns :
    ∀ x ∈ (ofRequest r).started .json, x.Concerns r := by
  intro x hx
  obtain rfl : x = _ := List.mem_singleton.mp hx
  exact ⟨rfl, rfl, rfl, rfl⟩

theorem completed_json_concerns : ((ofRequest r).completed time elapsed o .json).Concerns r :=
  ⟨rfl, rfl, rfl, rfl⟩

theorem completed_json_completes (s : RequestSummary) :
    (s.completed time elapsed o .json).Completes o.status o.bytes elapsed :=
  ⟨rfl, rfl, rfl, rfl⟩

theorem completed_console_endsIn (s : RequestSummary) :
    (s.completed time elapsed o .console).EndsIn o.status o.bytes := by
  refine ⟨s.clientText ++ " - - [".toList ++ time ++ "] \"".toList ++ s.method ++ ' ' :: s.target ++
    ' ' :: s.version.text.toList, ?_⟩
  simp only [completed, line, List.append_assoc, List.cons_append]

end RequestSummary

/-- Whatever its body does, an answer reaches the client as it is and leaves one completed record,
with its status and the bytes that came before the first error, the end or the drop. In JSON one
record that announces the request stands before it, on the console none does. -/
theorem accessRecords_once (format : LogFormat) (time : Text) (elapsed : Nat) (r : Request)
    (response : Response) (polls : List BodyPoll) :
    ((ObservedBody.start (.ofRequest r) format time elapsed response.status).read polls).1 = polls ∧
      match format with
      | .console => ∃ x, accessRecords .console time elapsed r response polls = [x] ∧
          x.EndsIn response.status (BodyPoll.sent polls)
      | .json => ∃ x y, accessRecords .json time elapsed r response polls = [x, y] ∧
          x.message = "request started".toList ∧ x.Concerns r ∧
          y.Completes response.status (BodyPoll.sent polls) elapsed ∧ y.Concerns r := by
  refine ⟨ObservedBody.read_given _ polls, ?_⟩
  have hrecords : ∀ format, accessRecords format time elapsed r response polls =
      (RequestSummary.ofRequest r).started format ++
        [(RequestSummary.ofRequest r).completed time elapsed
          ⟨some response.status, BodyPoll.sent polls⟩ format] := by
    intro format
    rw [accessRecords, ObservedBody.read_records _ polls rfl]
    simp [ObservedBody.start, Observation.empty, Observation.recordStatus, Observation.recordBytes]
  cases format with
  | console => exact ⟨_, hrecords .console, RequestSummary.completed_console_endsIn ..⟩
  | json =>
    exact ⟨_, _, hrecords .json, rfl,
      RequestSummary.started_json_concerns r _ (List.mem_singleton_self _),
      RequestSummary.completed_json_completes .., RequestSummary.completed_json_concerns ..⟩

end SiteGateway
