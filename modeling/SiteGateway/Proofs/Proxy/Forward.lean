import SiteGateway.Proofs.Proxy.HopByHop
import SiteGateway.Proxy.Forward

/-!
# Fields that stay on their hop

Both header sets that forwarding hands over are read off by name: the backend's from the fields of
the client's that are kept and the one that the gateway writes itself, the client's from the values
of `Headers.endToEnd`. So nothing that should stay on the client's hop goes on, and nothing that
should stay on the backend's but `upgrade` (`Forward.course_hops`).
-/

namespace SiteGateway

namespace Forward

open Headers (upgradeName singleHopNames)

variable (route : Route) (r : Request) (outcome : Except Text Incoming) {n : HeaderName}

/-! ## Fields by name -/

def hostName : HeaderName := "host".toList

/-- The client's fields that go on. -/
def kept : Headers := (r.headers.endToEnd.remove upgradeName).remove hostName

/-- The field that the gateway writes itself, if it knows the client. -/
def ownFields : Headers :=
  match r.client with
  | some client => [(forwardedForName, Utf8.encode client.text)]
  | none => []

theorem values_kept (hh : n ≠ hostName) (hu : n ≠ upgradeName) :
    (kept r).values n = r.headers.endToEnd.values n := by
  rw [kept, Headers.values_remove, if_neg hh, Headers.values_remove, if_neg hu]

theorem values_kept_of_oneHop (h : r.headers.OneHop n) : (kept r).values n = [] := by
  rw [kept, Headers.values_remove, Headers.values_remove]
  by_cases hu : n = upgradeName
  · simp [hu]
  · rw [if_neg hu, Headers.values_endToEnd_of_oneHop h hu, ite_self]

theorem headers_of_none (h : r.client = none) : headers r = kept r := by
  rw [headers, h]
  rfl

theorem headers_of_some {client : IpAddress} (h : r.client = some client) :
    headers r = addClient (kept r) client.text := by
  rw [headers, h]
  rfl

theorem values_headers_of_ne (h : n ≠ forwardedForName) :
    (headers r).values n = (kept r).values n := by
  cases hc : r.client with
  | none => rw [headers_of_none r hc]
  | some client => rw [headers_of_some r hc, addClient, Headers.values_insert, if_neg h]

/-- Where no field of the client's is left to append to, its address stands alone. -/
theorem values_headers_forwardedFor (h : (kept r).values forwardedForName = []) :
    (headers r).values forwardedForName = (ownFields r).values forwardedForName := by
  cases hc : r.client with
  | none => rw [headers_of_none r hc, h, ownFields, hc]; rfl
  | some client =>
    have htext : (kept r).text? forwardedForName = none := by
      rw [Headers.text?, Headers.get?, h]; rfl
    rw [headers_of_some r hc, addClient, htext, Headers.values_insert, if_pos rfl, ownFields, hc]
    rfl

theorem values_ownFields_of_ne (h : n ≠ forwardedForName) : (ownFields r).values n = [] := by
  rw [ownFields]
  cases r.client with
  | none => rfl
  | some client => rw [Headers.values_cons, if_neg (Ne.symm h)]; rfl

/-- Under a name that stays on its hop, the backend gets nothing but what the gateway writes. -/
theorem values_headers_of_oneHop (h : r.headers.OneHop n) :
    (headers r).values n = (ownFields r).values n := by
  have hk := values_kept_of_oneHop r h
  by_cases hn : n = forwardedForName
  · subst hn; exact values_headers_forwardedFor r hk
  · rw [values_headers_of_ne r hn, hk, values_ownFields_of_ne r hn]

/-! ## What stays on its hop -/

/-- Notes what it is handed, and comes to `outcome`. -/
def noting (_ : ClientOptions) (o : Outgoing) : StateM (List Outgoing) (Except Text Incoming) := do
  modify (· ++ [o])
  return outcome

/-- The answer to a request, and what the client library was handed for it. -/
def course : Response × List Outgoing := (forward (noting outcome) route r).run []

theorem course_eq : course route r outcome = (answer outcome, [outgoing route r]) := rfl

/-- The fields of the backend's answer, if there is one. -/
def answered : Headers :=
  match outcome with
  | .ok i => i.headers
  | .error _ => []

theorem values_badGateway_of_mem (message : Text) (h : n ∈ singleHopNames) :
    (Response.badGateway message).headers.values n = [] := by
  have hall : ∀ n ∈ singleHopNames, Headers.values
      [Headers.field "content-type" "text/plain; charset=utf-8",
        Headers.field "x-content-type-options" "nosniff"] n = [] := by
    decide
  exact hall n h

theorem values_answer_of_oneHop (h : (answered outcome).OneHop n) (hn : n ≠ upgradeName) :
    (answer outcome).headers.values n = [] := by
  cases outcome with
  | ok i => exact Headers.values_endToEnd_of_oneHop h hn
  | error cause =>
    rcases h with h | ⟨v, hv, _⟩
    · exact values_badGateway_of_mem _ h
    · cases hv

theorem values_answer_upgrade_iff :
    (answer outcome).headers.values upgradeName = [] ↔
      (answered outcome).values upgradeName = [] ∨ (answered outcome).Lists upgradeName := by
  cases outcome with
  | ok i =>
    change i.headers.endToEnd.values upgradeName = [] ↔
      i.headers.values upgradeName = [] ∨ i.headers.Lists upgradeName
    by_cases hl : i.headers.Lists upgradeName
    · simp [hl, Headers.values_endToEnd_of_hop (.inl hl)]
    · rw [Headers.values_endToEnd_of_not_hop hl Headers.upgradeName_notMem_hopByHopNames]
      simp [hl]
  | error cause =>
    have hmem : upgradeName ∈ singleHopNames := by decide
    simp [answered, values_badGateway_of_mem _ hmem, answer]

/-- Under the names that stay on their hop, the backend gets nothing but the field that the gateway
writes itself, and the client nothing but the `upgrade` of an answer that does not list it. -/
theorem course_hops :
    (∀ o ∈ (course route r outcome).2, ∀ n, r.headers.OneHop n →
      o.headers.values n = (ownFields r).values n) ∧
    (∀ n, (answered outcome).OneHop n → n ≠ upgradeName →
      (course route r outcome).1.headers.values n = []) ∧
    ((∀ n, (answered outcome).OneHop n → (course route r outcome).1.headers.values n = []) ↔
      (answered outcome).values upgradeName = [] ∨ (answered outcome).Lists upgradeName) := by
  rw [course_eq, ← values_answer_upgrade_iff]
  have hother : ∀ n, (answered outcome).OneHop n → n ≠ upgradeName →
      (answer outcome).headers.values n = [] :=
    fun n => values_answer_of_oneHop outcome
  refine ⟨fun o ho n hn => ?_, hother, fun h => h _ (.inl (by decide)), fun h n hn => ?_⟩
  · obtain rfl := List.mem_singleton.mp ho
    exact values_headers_of_oneHop r hn
  · by_cases hu : n = upgradeName
    · exact hu ▸ h
    · exact hother n hn hu

/-- From `/api` to the host `h`. -/
def api : Route := ⟨"/api".toList, ⟨"http".toList, [], [], some (.domain "h".toList), none,
  .segments [[]], none, none⟩⟩

/-- A client that lists `x-forwarded-for` takes its own field back, not the gateway's. -/
theorem course_hops_listed :
    let r : Request := ⟨"GET".toList, ⟨none, none, "/api".toList, none⟩, .http11,
      [Headers.field "connection" "te, X-Forwarded-For", Headers.field "te" "trailers",
        Headers.field "x-forwarded-for" "10.0.0.1"], [], some (.v4 192 0 2 7)⟩
    let i : Incoming :=
      ⟨200, [Headers.field "connection" "x-trace", Headers.field "x-trace" "1"], [], false⟩
    (∀ o ∈ (course api r (.ok i)).2, o.headers.values "te".toList = [] ∧
      o.headers.values forwardedForName = [Utf8.encode "192.0.2.7".toList]) ∧
    (course api r (.ok i)).1.headers.values "x-trace".toList = [] := by
  intro r i
  obtain ⟨hrequest, hresponse, -⟩ := course_hops api r (.ok i)
  refine ⟨fun o ho => ⟨?_, ?_⟩, ?_⟩
  · exact (hrequest o ho _ (.inl (by decide))).trans (by decide)
  · exact (hrequest o ho _ (.inr (Headers.mem_listedNames.mp (by decide)))).trans (by decide)
  · exact hresponse _ (.inr (Headers.mem_listedNames.mp (by decide))) (by decide)

/-- No field that stays on its hop goes on, neither to the backend nor back to the client. -/
structure KeepsHops : Prop where
  request : ∀ o ∈ (course route r outcome).2, ∀ n, r.headers.OneHop n → o.headers.values n = []
  response : ∀ n, (answered outcome).OneHop n → (course route r outcome).1.headers.values n = []

/-- An answer that offers another protocol takes its offer past the gateway. -/
theorem not_forall_keepsHops :
    ¬ ∀ (route : Route) (r : Request) (outcome : Except Text Incoming),
      KeepsHops route r outcome := by
  intro h
  let r : Request := ⟨"GET".toList, ⟨none, none, "/api".toList, none⟩, .http11, [], [], none⟩
  let i : Incoming :=
    ⟨200, [Headers.field "upgrade" "h2c", Headers.field "x-backend" "a"], [], false⟩
  have hresponse := (h api r (.ok i)).response upgradeName (.inl (by decide))
  exact absurd hresponse (by decide)

end Forward

end SiteGateway
