import SiteGateway.Proofs.Http.Target
import SiteGateway.Proofs.Route.Backend

/-!
# Requests for an upgrade are rebuilt

A backend is asked for what the client asked for, with a `host`, a `connection` and an `upgrade` of
the tunnel's own (`Tunnel.Rebuilt`). The authority of a backend can be sent as a value
(`Route.valid_authority`), and path and query of a target that was read are read again
(`Target.parse?_origin`). So a request is rebuilt unless its path is not written: a whole URL with a
query right behind its authority has the path `/`, but the query alone is taken for its target and
refused (`Tunnel.rebuild_iff`).
-/

namespace SiteGateway

/-- What can be written in an authority can be sent as a value. -/
theorem HeaderValue.valid_encode {t : Text} (h : ∀ c ∈ t, HostChar c) :
    valid (Utf8.encode t) = true := by
  refine List.all_eq_true.mpr fun b hb => ?_
  obtain ⟨c, hc, hb⟩ := List.mem_flatMap.mp hb
  have hascii : Ascii c := (h c hc).1
  rw [Utf8.utf8EncodeChar_of_lt hascii] at hb
  obtain rfl := List.mem_singleton.mp hb
  have hall : ∀ n < 0x80, HostChar (Char.ofNat n) →
      let b := UInt8.ofNat (Char.ofNat n).toNat
      (b == 9 || (0x20 ≤ b && b != 0x7F)) = true := by decide +kernel
  exact forall_ascii (p := fun c => HostChar c → let b := UInt8.ofNat c.toNat
    (b == 9 || (0x20 ≤ b && b != 0x7F)) = true) hall c hascii (h c hc)

theorem Route.valid_authority {p b : Text} {route : Route} (h : ofParts p b = .ok route) :
    HeaderValue.valid (Utf8.encode route.authority) = true :=
  HeaderValue.valid_encode fun _ => (backend_proper h).hostChar_of_mem_authority

theorem RouteTable.Built.head?_path {t : RouteTable} {route : Route} {target : Target} {u : Text}
    (ht : t.Built) (hroute : t.find? (Utf8.decodeLossy target.decodedPath) = some route)
    (hu : Target.parse? u = some target) : target.path.head? = some '/' := by
  rcases (Target.reads_of_parse? hu).2.path_cases with hp | hp | hp
  · have hempty : Utf8.decodeLossy target.decodedPath = [] := by
      rw [Target.decodedPath, hp]
      decide
    rw [hempty, ht.find?_nil] at hroute
    cases hroute
  · have hstar : Utf8.decodeLossy target.decodedPath = ['*'] := by
      rw [Target.decodedPath, hp]
      decide
    rw [hstar] at hroute
    obtain ⟨q, hq⟩ := ht.pathPrefix_eq route (List.mem_of_find?_eq_some hroute)
    have hcovers := List.find?_some hroute
    rw [Route.covers, hq] at hcovers
    exact absurd hcovers (by simp [List.isPrefixOf])
  · exact hp

namespace Tunnel
variable {route : Route} {r : Request} {hs : Headers} {n : HeaderName} {x : Text}

/-! ### The target -/

theorem target_of_written (hs : r.target.scheme.isSome = r.target.authority.isSome)
    (hp : r.path.head? = some '/') (hw : r.target.rawPath ≠ [] ∨ r.target.query = none) :
    target r = .ok (r.path ++ r.target.queryText) := by
  unfold target
  split
  next hscheme hauthority => simp [hscheme, hauthority] at hs
  next =>
    by_cases hraw : r.target.rawPath = []
    · have hquery := Target.queryText_of_none (hw.resolve_left (not_not_intro hraw))
      have hpath : r.path = ['/'] := by
        rw [Request.path, Target.path, hraw] at hp ⊢
        split at hp
        next h => rw [if_pos h]
        next => cases hp
      simp [hraw, hquery, hpath]
    · have hpath : r.path = r.target.rawPath := Target.path_of_ne_nil hraw
      rw [hpath] at hp ⊢
      obtain ⟨rest, hrest⟩ := List.head?_eq_some_iff.mp hp
      simp [hrest]

theorem target_of_unwritten (hs : r.target.scheme.isSome = r.target.authority.isSome)
    (hraw : r.target.rawPath = []) (hq : r.target.query = some x) :
    target r = .error (.request (queryFault ('?' :: x))) := by
  unfold target
  split
  next hscheme hauthority => simp [hscheme, hauthority] at hs
  next => simp [hraw, Target.queryText_of_some hq]

/-! ### The fields -/

/-- The client's fields with those of the tunnel in their place. -/
def askingHeaders (route : Route) (hs : Headers) : Headers :=
  ((hs.insert "host".toList (Utf8.encode route.authority)).insert "connection".toList
    (Utf8.encode "Upgrade".toList)).insert "upgrade".toList (Utf8.encode "websocket".toList)

theorem rebuild_eq_map : rebuild route r = (target r).map fun target =>
    ⟨r.method, target, r.version, askingHeaders route r.headers⟩ := by
  rw [rebuild]
  cases target r <;> rfl

theorem values_askingHeaders : (askingHeaders route hs).values n =
    if n = "upgrade".toList then [Utf8.encode "websocket".toList]
    else if n = "connection".toList then [Utf8.encode "Upgrade".toList]
    else if n = "host".toList then [Utf8.encode route.authority]
    else hs.values n := by
  simp only [askingHeaders, Headers.values_insert]

/-- What a backend is asked for, told by what the client asked for. The new target is read as path
and query, and the new host passes for a value. -/
structure Rebuilt (route : Route) (r : Request) (q : UpgradeRequest) : Prop where
  method : q.method = r.method
  version : q.version = r.version
  target : q.target = r.path ++ r.target.queryText
  origin : Target.parse? q.target = some ⟨none, none, r.path, r.target.query⟩
  host : q.headers.values "host".toList = [Utf8.encode route.authority]
  sendable : HeaderValue.valid (Utf8.encode route.authority) = true
  connection : q.headers.values "connection".toList = [Utf8.encode "Upgrade".toList]
  upgrade : q.headers.values "upgrade".toList = [Utf8.encode "websocket".toList]
  others : ∀ n, n ≠ "host".toList → n ≠ "connection".toList → n ≠ "upgrade".toList →
    q.headers.values n = r.headers.values n

/-- A request that found its route is rebuilt for the backend as it was, unless it is for a whole
URL with a query and no path. -/
theorem rebuild_iff {t : RouteTable} {u : Text} (ht : t.Built)
    (hroute : t.find? (Utf8.decodeLossy r.target.decodedPath) = some route)
    (hu : Target.parse? u = some r.target) :
    ((∃ q, rebuild route r = .ok q ∧ Rebuilt route r q) ↔
        (r.target.rawPath ≠ [] ∨ r.target.query = none)) ∧
      ∀ x, r.target.rawPath = [] → r.target.query = some x →
        rebuild route r = .error (.request (queryFault ('?' :: x))) := by
  have hp := ht.head?_path hroute hu
  have hs := ((Target.reads_of_parse? hu).2.parts hp).2.2.2
  have hrefused (x : Text) (hraw : r.target.rawPath = []) (hq : r.target.query = some x) :
      rebuild route r = .error (.request (queryFault ('?' :: x))) := by
    rw [rebuild_eq_map, target_of_unwritten hs hraw hq]
    rfl
  refine ⟨⟨?_, fun hw => ?_⟩, hrefused⟩
  · rintro ⟨q, hq, -⟩
    by_contra hw
    rw [not_or, not_not] at hw
    obtain ⟨x, hx⟩ := Option.ne_none_iff_exists'.mp hw.2
    rw [hrefused x hw.1 hx] at hq
    cases hq
  · obtain ⟨p, b, hb⟩ := ht.exists_ofParts route (List.mem_of_find?_eq_some hroute)
    refine ⟨_, by rw [rebuild_eq_map, target_of_written hs hp hw]; rfl, rfl, rfl, rfl,
      Target.parse?_origin hu hp, ?_, Route.valid_authority hb, ?_, ?_, fun n hh hc hu => ?_⟩
    all_goals rw [values_askingHeaders]
    · simp
    · simp
    · simp
    · rw [if_neg hu, if_neg hc, if_neg hh]

/-- The route that is written `/=http://user@[::1]:8080/base`. -/
def chatRoute : Route where
  pathPrefix := ['/']
  backend :=
    { scheme := "http".toList, username := "user".toList, password := [],
      host := some (.ipv6 [0, 0, 0, 0, 0, 0, 0, 1]), port := some 8080,
      path := .segments ["base".toList], query := none, fragment := none }

theorem built_chatRoute : RouteTable.Built ⟨[chatRoute]⟩ :=
  .ofPair (p := ['/']) (b := "http://user@[::1]:8080/base".toList)
    (Except.toOption_eq_some_iff.mp (by rfl))

/-- A request for a WebSocket at `h` with two fields of one name. -/
def chatRequest (path : Text) : Request :=
  ⟨"GET".toList, ⟨some "http".toList, some ['h'], path, some "x=1".toList⟩, .http11,
    [Headers.field "host" "h", Headers.field "accept" "a",
      Headers.field "connection" "keep-alive, Upgrade", Headers.field "upgrade" "websocket",
      Headers.field "accept" "b"], [], none⟩

theorem rebuild_iff_chat :
    let r := chatRequest "/a%20b".toList
    RouteTable.find? ⟨[chatRoute]⟩ (Utf8.decodeLossy r.target.decodedPath) = some chatRoute ∧
      Target.parse? "http://h/a%20b?x=1".toList = some r.target ∧
      ∃ q, rebuild chatRoute r = .ok q ∧ q.target = "/a%20b?x=1".toList ∧
        q.headers.values "host".toList = [Utf8.encode "[::1]:8080".toList] ∧
        q.headers.values "accept".toList = ["a", "b"].map fun v => Utf8.encode v.toList := by
  intro r
  have hroute : RouteTable.find? ⟨[chatRoute]⟩ (Utf8.decodeLossy r.target.decodedPath) =
      some chatRoute := by rfl
  have hu : Target.parse? "http://h/a%20b?x=1".toList = some r.target := by rfl
  obtain ⟨q, hq, hbuilt⟩ := (rebuild_iff built_chatRoute hroute hu).1.mpr (.inl (by decide))
  refine ⟨hroute, hu, q, hq, hbuilt.target, ?_, ?_⟩
  · rw [hbuilt.host]
    rfl
  · rw [hbuilt.others _ (by decide) (by decide) (by decide)]
    rfl

/-- Not every request that found its route is rebuilt: `http://h?x=1` is not. -/
theorem not_forall_rebuilt :
    ¬ ∀ (t : RouteTable) (route : Route) (r : Request) (u : Text), t.Built →
      t.find? (Utf8.decodeLossy r.target.decodedPath) = some route →
      Target.parse? u = some r.target → ∃ q, rebuild route r = .ok q ∧ Rebuilt route r q := by
  intro h
  obtain ⟨q, hq, -⟩ := h _ chatRoute (chatRequest []) "http://h?x=1".toList built_chatRoute
    (by rfl) (by rfl)
  rw [rebuild_eq_map, target_of_unwritten rfl rfl rfl] at hq
  cases hq

end Tunnel

end SiteGateway
