import SiteGateway.Proofs.Proxy.Forward

/-!
# What goes on unchanged

Forwarding is one call of a client library between two functions of the message.
`ClientLibrary.Sends` is what is taken for granted of the library on one request: it sends what it
is given, no more often than redirects are to be followed, and hands the backend's answer back. Then
the request that the backend gets and the answer that the client gets are the ones that were sent,
apart from the fields that stay on their hop (`Forward.forward_transparent`).
-/

namespace SiteGateway

/-- A request that has reached a backend, and the answer if one was given. -/
structure Visit where
  request : Outgoing
  answer? : Option Incoming

/-- A client library that changes a world `σ`: what comes of sending a request, and what has reached
the backends so far. -/
structure ClientLibrary (σ : Type) where
  exchange : ClientOptions → Outgoing → StateM σ (Except Text Incoming)
  visits : σ → List Visit

namespace ClientLibrary

/-- The names under which a library writes a field of its own where it is given none: the host, the
default `accept`, and the framing. -/
def ownNames : List HeaderName :=
  ["host", "accept", "content-length", "transfer-encoding"].map String.toList

/-- A backend gets `w` when the library is given `o`. -/
structure Carries (o w : Outgoing) : Prop where
  method : w.method = o.method
  body : w.body.getD [] = o.body.getD []
  given : ∀ n, o.headers.values n ≠ [] → w.headers.values n = o.headers.values n
  added : ∀ n, o.headers.values n = [] → w.headers.values n ≠ [] → n ∈ ownNames

/-- In the world `s`, the library sends `o` once, and once more for each redirect that it is told to
follow; an answer that it reports is the one that the last backend gave. For a URL with credentials
and no `authorization` given, a library may add that field too: then this does not hold. -/
structure Sends {σ : Type} (lib : ClientLibrary σ) (options : ClientOptions) (o : Outgoing) (s : σ)
    (vs : List Visit) : Prop where
  visits : lib.visits (lib.exchange options o s).2 = lib.visits s ++ vs
  length : vs.length ≤ 1 + options.redirects
  first : ∀ v ∈ vs.head?, Carries o v.request
  answered : ∀ i, (lib.exchange options o s).1 = .ok i → ∃ v ∈ vs.getLast?, v.answer? = some i

/-- The host and the default `accept`. -/
def ownFields (o : Outgoing) : Headers :=
  [("host".toList, Utf8.encode o.url.authority), Headers.field "accept" "*/*"]

/-- The request with the library's own fields where they are missing. -/
def dressed (o : Outgoing) : Outgoing :=
  { o with headers := o.headers ++ (ownFields o).filter fun f => !o.headers.contains f.1 }

/-- A library that reaches its backend each time. -/
def reaching (backend : Outgoing → Incoming) : ClientLibrary (List Visit) where
  exchange _ o := do
    let i := backend (dressed o)
    modify (· ++ [⟨dressed o, some i⟩])
    return .ok i
  visits := id

theorem values_ownFields_of_notMem (o : Outgoing) {n : HeaderName} (h : n ∉ ownNames) :
    (ownFields o).values n = [] := by
  have hhost : "host".toList ≠ n := fun hn => h (hn ▸ by decide)
  have haccept : "accept".toList ≠ n := fun hn => h (hn ▸ by decide)
  rw [ownFields, Headers.values_cons, if_neg hhost, Headers.values_cons]
  exact if_neg haccept

theorem carries_dressed (o : Outgoing) : Carries o (dressed o) where
  method := rfl
  body := rfl
  given n h := by
    have hc : o.headers.contains n = true := by simpa [Headers.contains, Headers.get?] using h
    rw [dressed, Headers.values_append, Headers.values_filter fun k => !o.headers.contains k]
    simp [hc]
  added n h hw := by
    by_cases hn : n ∈ ownNames
    · exact hn
    · refine absurd ?_ hw
      rw [dressed, Headers.values_append, h, Headers.values_filter fun k => !o.headers.contains k,
        values_ownFields_of_notMem o hn, ite_self]
      rfl

theorem reaching_sends (backend : Outgoing → Incoming) (options : ClientOptions) (o : Outgoing)
    (s : List Visit) :
    (reaching backend).Sends options o s [⟨dressed o, some (backend (dressed o))⟩] where
  visits := rfl
  length := Nat.le_add_right 1 _
  first v hv := by
    obtain rfl := Option.some.inj hv
    exact carries_dressed o
  answered i hi := ⟨_, rfl, congrArg some (Except.ok.inj hi)⟩

end ClientLibrary

/-- A backend gets the request `r` in `w`. -/
structure Request.Reaches (r : Request) (w : Outgoing) : Prop where
  method : w.method = r.method
  body : w.body.getD [] = r.body
  fields : ∀ n, ¬ r.headers.OneHop n → n ≠ Forward.hostName → n ≠ Forward.forwardedForName →
    w.headers.values n = r.headers.values n ∨
      r.headers.values n = [] ∧ n ∈ ClientLibrary.ownNames

/-- A client gets the backend's answer `i` in `response`. -/
structure Incoming.Reaches (i : Incoming) (response : Response) : Prop where
  status : response.status = i.status
  body : response.body.bytes = i.chunks.flatten
  broken : response.body.broken = i.broken
  written : response.aborted = false
  fields : ∀ n, n ∉ Headers.singleHopNames ∨ n = Headers.upgradeName → ¬ i.headers.Lists n →
    response.headers.values n = i.headers.values n

namespace Forward

/-- Requests that are forwarded one after the other. -/
def forwardAll {m : Type → Type} [Monad m]
    (exchange : ClientOptions → Outgoing → m (Except Text Incoming))
    (xs : List (Route × Request)) : m (List Response) :=
  xs.mapM fun x => forward exchange x.1 x.2

variable (route : Route) (r : Request)

/-! ## The two directions -/

theorem values_headers_of_not_oneHop {n : HeaderName} (h : ¬ r.headers.OneHop n)
    (hh : n ≠ hostName) (hx : n ≠ forwardedForName) :
    (headers r).values n = r.headers.values n := by
  have hu : n ≠ Headers.upgradeName := by
    rintro rfl
    exact h (.inl (by decide))
  rw [values_headers_of_ne r hx, values_kept r hh hu, Headers.values_endToEnd_of_not_oneHop h]

theorem body_outgoing : (outgoing route r).body.getD [] = r.body := by
  rw [outgoing]
  by_cases hended : bodyEnded r = true
  · have hempty : r.body = [] := by
      rw [bodyEnded, Bool.and_eq_true] at hended
      exact List.isEmpty_iff.mp hended.1
    simp [hended, hempty]
  · simp [hended]

theorem reaches_of_carries {w : Outgoing} (h : ClientLibrary.Carries (outgoing route r) w) :
    r.Reaches w where
  method := h.method
  body := h.body.trans (body_outgoing route r)
  fields n hn hh hx := by
    have hgiven : (outgoing route r).headers.values n = r.headers.values n :=
      values_headers_of_not_oneHop r hn hh hx
    by_cases hr : r.headers.values n = []
    · by_cases hw : w.headers.values n = []
      · exact .inl (hw.trans hr.symm)
      · exact .inr ⟨hr, h.added n (hgiven.trans hr) hw⟩
    · exact .inl ((h.given n (by rwa [hgiven])).trans hgiven)

theorem relay_reaches (i : Incoming) : i.Reaches (relay i) where
  status := rfl
  body := rfl
  broken := rfl
  written := rfl
  fields n hn hl := by
    refine Headers.values_endToEnd_of_not_hop hl fun hmem => ?_
    rcases hn with hn | rfl
    · exact hn (Headers.mem_singleHopNames.mpr (.inl hmem))
    · exact Headers.upgradeName_notMem_hopByHopNames hmem

/-! ## Runs -/

theorem eq_singleton_of_length_le_one {α : Type} {xs : List α} {x : α} (hl : xs.length ≤ 1)
    (hx : x ∈ xs) : xs = [x] := by
  obtain ⟨y, rfl⟩ := List.length_eq_one_iff.mp (Nat.le_antisymm hl (List.length_pos_of_mem hx))
  rw [List.mem_singleton.mp hx]

variable {σ : Type} (lib : ClientLibrary σ) (s : σ)

/-- Forwarding leaves nothing behind but what its one exchange leaves. -/
theorem forward_run : forward lib.exchange route r s =
    (answer (lib.exchange options (outgoing route r) s).1,
      (lib.exchange options (outgoing route r) s).2) := rfl

theorem forwardAll_append (xs ys : List (Route × Request)) :
    (forwardAll lib.exchange (xs ++ ys) s).1 =
      (forwardAll lib.exchange xs s).1 ++
        (forwardAll lib.exchange ys (forwardAll lib.exchange xs s).2).1 := by
  rw [forwardAll, List.mapM_append]
  rfl

theorem forwardAll_cons (xs : List (Route × Request)) :
    (forwardAll lib.exchange ((route, r) :: xs) s).1 =
      (forward lib.exchange route r s).1 ::
        (forwardAll lib.exchange xs (forward lib.exchange route r s).2).1 := by
  rw [forwardAll, List.mapM_cons]
  rfl

/-- Forwarding is transparent over a library that sends what it is given. At most one visit is made,
so that no redirect is followed, and it brings the request; an answer to it comes back. A failure is
answered with a 502, and every other request is answered as what its own turn finds: those before as
ever, those after from the world that the failed sending leaves instead of the one it found. -/
theorem forward_transparent {vs : List Visit} (h : lib.Sends options (outgoing route r) s vs) :
    lib.visits (forward lib.exchange route r s).2 = lib.visits s ++ vs ∧ vs.length ≤ 1 ∧
    (∀ v ∈ vs, r.Reaches v.request) ∧
    match (lib.exchange options (outgoing route r) s).1 with
    | .ok i =>
      (∃ w, vs = [⟨w, some i⟩]) ∧ i.Reaches (forward lib.exchange route r s).1
    | .error cause =>
      (forward lib.exchange route r s).1.status = 502 ∧
      (forward lib.exchange route r s).1.body.bytes =
        Utf8.encode ("Bad Gateway: ".toList ++ cause ++ ['\n']) ∧
      ∀ before after start, (forwardAll lib.exchange before start).2 = s →
        (forwardAll lib.exchange (before ++ (route, r) :: after) start).1 =
          (forwardAll lib.exchange before start).1 ++ (forward lib.exchange route r s).1 ::
            (forwardAll lib.exchange after (lib.exchange options (outgoing route r) s).2).1 ∧
        (forwardAll lib.exchange (before ++ after) start).1 =
          (forwardAll lib.exchange before start).1 ++ (forwardAll lib.exchange after s).1 := by
  rw [forward_run]
  refine ⟨h.visits, h.length, fun v hv => ?_, ?_⟩
  · obtain rfl := eq_singleton_of_length_le_one h.length hv
    exact reaches_of_carries route r (h.first v rfl)
  · cases hout : (lib.exchange options (outgoing route r) s).1 with
    | ok i =>
      obtain ⟨⟨w, a⟩, hv, rfl⟩ := h.answered i hout
      exact ⟨⟨w, eq_singleton_of_length_le_one h.length (List.mem_of_getLast? hv)⟩, relay_reaches i⟩
    | error cause =>
      refine ⟨rfl, ?_, fun before after start hs => ⟨?_, ?_⟩⟩
      · simp [answer, Response.badGateway, Response.plain, Response.make]
      · rw [forwardAll_append, hs, forwardAll_cons, forward_run, hout]
      · rw [forwardAll_append, hs]

/-- A redirect comes back as it is, and both cookies go on in order. -/
theorem forward_transparent_redirect :
    let lib := ClientLibrary.reaching fun w =>
      ⟨302, [Headers.field "location" "/elsewhere"], w.body.toList, false⟩
    let r : Request := ⟨"POST".toList, ⟨none, none, "/api".toList, none⟩, .http11,
      [Headers.field "content-length" "2", Headers.field "cookie" "a",
        Headers.field "connection" "x-hop", Headers.field "x-hop" "1", Headers.field "cookie" "b"],
      Utf8.encode "hi".toList, some (.v4 192 0 2 7)⟩
    ∃ vs, lib.Sends options (outgoing api r) [] vs ∧
      (∀ v ∈ vs, v.request.headers.values "cookie".toList =
        ["a", "b"].map fun t => Utf8.encode t.toList) ∧
      (forward lib.exchange api r []).1.status = 302 ∧
      (forward lib.exchange api r []).1.body.bytes = r.body := by
  intro lib r
  have hsends := ClientLibrary.reaching_sends
    (fun w => ⟨302, [Headers.field "location" "/elsewhere"], w.body.toList, false⟩)
    options (outgoing api r) []
  obtain ⟨-, -, hreach, -, hback⟩ := forward_transparent api r lib [] hsends
  refine ⟨_, hsends, fun v hv => ?_, hback.status, hback.body⟩
  have hcookie := (hreach v hv).fields "cookie".toList ?_ (by decide) (by decide)
  · rcases hcookie with h | ⟨h, -⟩
    · rw [h]; decide
    · exact absurd h (by decide)
  · rw [Headers.OneHop, ← Headers.mem_listedNames]
    decide

end Forward

end SiteGateway
