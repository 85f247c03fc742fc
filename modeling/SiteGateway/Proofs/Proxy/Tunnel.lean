import SiteGateway.Proxy.Offline
import SiteGateway.Server.Reply

/-!
# What a tunnel comes to

A tunnel can fail at five points, and each leaves behind a list of acts of its own
(`Tunnel.Course`). The order of the acts, the states, the answer and what is left untouched are read
off the course.

An aborted answer stays aborted in every layer that finishes answers, so that a client whose
connection was claimed for a handshake that failed gets nothing (`ServerConfiguration.written?_eq`).
-/

namespace SiteGateway

/-! ### Layers -/

namespace Response

variable (r : Response) (method : Text) (p : Protocol)

theorem aborted_withoutConnectBody : (r.withoutConnectBody method).aborted = r.aborted := by
  rw [withoutConnectBody]
  split <;> rfl

theorem aborted_withServer : r.withServer.aborted = r.aborted := by
  rw [withServer]
  split <;> rfl

theorem aborted_withProtocol : (r.withProtocol p).aborted = r.aborted := by
  rw [withProtocol]
  split <;> rfl

theorem aborted_withLength : (r.withLength method).aborted = r.aborted := by
  rw [withLength]
  split
  · rfl
  · dsimp only
    split <;> split <;> rfl

theorem aborted_layer {layer : Response → Response} (h : layer ∈ layers method p) :
    (layer r).aborted = r.aborted := by
  simp only [layers, List.mem_cons, List.not_mem_nil, or_false] at h
  rcases h with rfl | rfl | rfl | rfl
  · exact aborted_withoutConnectBody r method
  · exact aborted_withServer r
  · exact aborted_withProtocol r p
  · exact aborted_withLength r method

theorem aborted_foldl {fs : List (Response → Response)}
    (h : ∀ f ∈ fs, ∀ x, Response.aborted (f x) = x.aborted) :
    (fs.foldl (fun x f => f x) r).aborted = r.aborted := by
  induction fs generalizing r with
  | nil => rfl
  | cons f fs ih =>
    rw [List.foldl_cons, ih _ fun g hg => h g (List.mem_cons_of_mem f hg)]
    exact h f List.mem_cons_self r

theorem aborted_finish : (r.finish method p).aborted = r.aborted :=
  aborted_foldl r fun _ hl x => aborted_layer x method p hl

theorem headers_withoutConnectBody : (r.withoutConnectBody method).headers = r.headers := by
  rw [withoutConnectBody]
  split <;> rfl

theorem headers_prefix_withServer : r.headers <+: r.withServer.headers := by
  rw [withServer]
  split
  · exact List.prefix_rfl
  · exact List.prefix_append ..

theorem headers_prefix_withLength : r.headers <+: (r.withLength method).headers := by
  rw [withLength]
  split
  · exact List.prefix_rfl
  · dsimp only
    split <;> split <;> first | exact List.prefix_rfl | exact List.prefix_append ..

theorem status_withServer : r.withServer.status = r.status := by
  rw [withServer]
  split <;> rfl

theorem status_withoutConnectBody : (r.withoutConnectBody method).status = r.status := by
  rw [withoutConnectBody]
  split <;> rfl

theorem headers_prefix_finish (h : r.status = 101) :
    r.headers <+: (r.finish method p).headers := by
  have hp : ((r.withoutConnectBody method).withServer).withProtocol p =
      (r.withoutConnectBody method).withServer := by
    rw [withProtocol, if_neg]
    rintro ⟨-, hs⟩
    exact hs (by rw [status_withServer, status_withoutConnectBody, h])
  change _ <+:
    ((((r.withoutConnectBody method).withServer).withProtocol p).withLength method).headers
  rw [hp]
  refine List.IsPrefix.trans ?_ (headers_prefix_withLength ..)
  rw [← headers_withoutConnectBody r method]
  exact headers_prefix_withServer _

end Response

/-- What the client is sent depends on the answer alone, and nothing is if it is aborted. -/
theorem ServerConfiguration.written?_eq (c : ServerConfiguration) (w : World) (r : Request) :
    c.written? w r =
      if (c.dispatch.answer w r).response.aborted then none
      else some ((c.dispatch.answer w r).response.finish r.method c.protocol) := by
  rw [written?]
  change (if (Response.finish ..).aborted = true then none else some (Response.finish ..)) = _
  rw [Response.aborted_finish]

/-! ### Order -/

/-- There is an `a` before every `b`. -/
def TunnelAct.Precedes (a b : TunnelAct) (acts : List TunnelAct) : Prop :=
  ∀ before after, acts = before ++ b :: after → a ∈ before

@[simp] theorem TunnelAct.precedes_nil {a b : TunnelAct} : Precedes a b [] :=
  fun _ _ h => nomatch List.append_eq_nil_iff.mp h.symm

@[simp] theorem TunnelAct.precedes_cons {a b x : TunnelAct} {acts : List TunnelAct} :
    Precedes a b (x :: acts) ↔ x ≠ b ∧ (x = a ∨ Precedes a b acts) := by
  constructor
  · intro h
    refine ⟨?_, ?_⟩
    · rintro rfl
      exact nomatch h [] acts rfl
    · by_cases hx : x = a
      · exact .inl hx
      · refine .inr fun before after ha => ?_
        exact (List.mem_cons.mp (h (x :: before) after (by rw [ha]; rfl))).resolve_left
          fun he => hx he.symm
  · rintro ⟨hb, ha⟩ before after h
    cases before with
    | nil => exact absurd (List.cons.inj h).1 hb
    | cons y before =>
      obtain ⟨rfl, hacts⟩ := List.cons.inj h
      rcases ha with rfl | ha
      · exact List.mem_cons_self
      · exact List.mem_cons_of_mem _ (ha before after hacts)

namespace Tunnel

variable {network : Network} {route : Route} {takeover : Bool} {r : Request} {t : TunnelRun}

/-- The ways a tunnel can go. -/
inductive Course (network : Network) (route : Route) (takeover : Bool) (r : Request) :
    TunnelRun → Prop
  | unbuilt {e : TunnelError} (hb : rebuild route r = .error e) :
      Course network route takeover r
        ⟨[.answered (.badGateway ("Bad Gateway: ".toList ++ e.message))],
          .badGateway ("Bad Gateway: ".toList ++ e.message)⟩
  | unreachable {q : UpgradeRequest} {e : TunnelError} (hb : rebuild route r = .ok q)
      (hd : dial network route = .error e) :
      Course network route takeover r
        (.closing [.entered .dialing]
          (.badGateway "Bad Gateway: failed to connect to backend".toList))
  | unclaimed {q : UpgradeRequest} (hb : rebuild route r = .ok q) (hd : dial network route = .ok ())
      (ht : takeover = false) :
      Course network route takeover r
        (.closing [.entered .dialing, .connected]
          (.plain 500 TunnelError.takeoverUnsupported.message))
  | failed {q : UpgradeRequest} {e : TunnelError} (hb : rebuild route r = .ok q)
      (hd : dial network route = .ok ()) (ht : takeover = true)
      (hh : network.handshake route q = .error e) :
      Course network route takeover r (.closing (claimed q) .abort)
  | declined {q : UpgradeRequest} {i : Incoming} (hb : rebuild route r = .ok q)
      (hd : dial network route = .ok ()) (ht : takeover = true)
      (hh : network.handshake route q = .ok i) (hi : i.status ≠ 101) :
      Course network route takeover r (.closing (claimed q ++ [.heard i]) (Tunnel.declined i))
  | switched {q : UpgradeRequest} {i : Incoming} (hb : rebuild route r = .ok q)
      (hd : dial network route = .ok ()) (ht : takeover = true)
      (hh : network.handshake route q = .ok i) (hi : i.status = 101) :
      Course network route takeover r
        ⟨claimed q ++ .heard i :: .answered (.bare 101 i.headers) :: afterSwitch network route,
          .bare 101 i.headers⟩

theorem course_run : Course network route takeover r (run network route takeover r) := by
  rw [run]
  cases hb : rebuild route r with
  | error e => exact .unbuilt hb
  | ok q =>
    dsimp only
    cases hd : dial network route with
    | error e => exact .unreachable hb hd
    | ok u =>
      cases ht : takeover with
      | false => exact .unclaimed hb hd rfl
      | true =>
        rw [if_neg (by decide)]
        cases hh : network.handshake route q with
        | error e => exact .failed hb hd rfl hh
        | ok i =>
          by_cases hi : i.status = 101
          · dsimp only
            rw [if_neg (not_not_intro hi)]
            exact .switched hb hd rfl hh hi
          · dsimp only
            rw [if_pos hi]
            exact .declined hb hd rfl hh hi

/-! ### What every course keeps to -/

/-- A tunnel goes through its states in one of three ways and is closed once, at the end, unless its
request could not even be rebuilt. -/
structure Traced (route : Route) (r : Request) (t : TunnelRun) : Prop where
  empty : t.states = [] ↔ ∃ e, rebuild route r = .error e
  trace : t.states = [] ∨ t.states = [.dialing, .closed] ∨
    t.states = [.dialing, .handshaking, .closed] ∨
    t.states = [.dialing, .handshaking, .relaying, .closed]
  closed : t.states ≠ [] → t.states.count .closed = 1 ∧ t.states.getLast? = some .closed

/-- The backend is dialled, then the client's connection is claimed, then the backend is asked, then
the client is answered, and only then bytes are relayed. -/
structure InOrder (t : TunnelRun) : Prop where
  connected : (TunnelAct.entered .dialing).Precedes .connected t.acts
  tookOver : TunnelAct.connected.Precedes .tookOver t.acts
  asked : ∀ q, TunnelAct.tookOver.Precedes (.asked q) t.acts
  handshaking : ∀ q, (TunnelAct.entered .handshaking).Precedes (.asked q) t.acts
  heard : ∀ i, .heard i ∈ t.acts → ∃ q, (TunnelAct.asked q).Precedes (.heard i) t.acts
  answered : ∀ i, .heard i ∈ t.acts → (TunnelAct.heard i).Precedes (.answered t.response) t.acts
  clientUpgraded : (TunnelAct.answered t.response).Precedes .clientUpgraded t.acts
  relaying : ∀ a ∈ [.answered t.response, .clientUpgraded, .backendUpgraded],
    TunnelAct.Precedes a (.entered .relaying) t.acts

/-- The gateway itself answers with this status. -/
def Refuses (t : TunnelRun) (status : Nat) : Prop :=
  t.response.status = status ∧ t.response.aborted = false ∧ ∀ i, .heard i ∉ t.acts

/-- A refusal says what went wrong, and comes before anything is claimed or asked. -/
structure Refused (network : Network) (route : Route) (takeover : Bool) (r : Request)
    (t : TunnelRun) : Prop where
  badGateway : Refuses t 502 ↔ (∃ e, rebuild route r = .error e) ∨
    (∃ q, rebuild route r = .ok q) ∧ ∃ e, dial network route = .error e
  unclaimed : Refuses t 500 ↔
    (∃ q, rebuild route r = .ok q) ∧ dial network route = .ok () ∧ takeover = false
  untouched : ∀ status, Refuses t status → .tookOver ∉ t.acts ∧ ∀ q, .asked q ∉ t.acts

/-- A handshake that fails once the client's connection is claimed leaves an aborted answer, which
no layer revives and no server writes. -/
structure Abandoned (network : Network) (route : Route) (takeover : Bool) (r : Request)
    (t : TunnelRun) : Prop where
  aborted : ∀ q e, rebuild route r = .ok q → dial network route = .ok () → takeover = true →
    network.handshake route q = .error e → .tookOver ∈ t.acts ∧ t.response.aborted = true
  layers : ∀ method p, ∀ layer ∈ Response.layers method p, ∀ x, (layer x).aborted = x.aborted
  silent : ∀ (c : ServerConfiguration) w r', c.dispatch.answer w r' = ⟨t.response, t.states⟩ →
    (c.written? w r' = none ↔ .tookOver ∈ t.acts ∧ ∀ i, .heard i ∉ t.acts)

/-- What the backend answers is passed on, and relayed are only connections that were switched. -/
structure PassedOn (network : Network) (route : Route) (takeover : Bool) (r : Request)
    (t : TunnelRun) : Prop where
  heard : ∀ i, .heard i ∈ t.acts ↔ ∃ q, rebuild route r = .ok q ∧ dial network route = .ok () ∧
    takeover = true ∧ network.handshake route q = .ok i
  declined : ∀ i, .heard i ∈ t.acts → i.status ≠ 101 →
    t.response = ⟨i.status, i.headers, .stream i.chunks i.broken, false⟩ ∧ .relaying ∉ t.states
  switched : ∀ i, .heard i ∈ t.acts → i.status = 101 →
    t.response.status = 101 ∧ t.response.headers = i.headers ∧
      ∀ method p, i.headers <+: (t.response.finish method p).headers
  relaying : .relaying ∈ t.states ↔ (∃ i, .heard i ∈ t.acts ∧ i.status = 101) ∧
    network.clientUpgraded route = true ∧ network.backendUpgraded route = true

theorem states_afterSwitch : (afterSwitch network route).filterMap TunnelAct.state? =
    if network.clientUpgraded route = true ∧ network.backendUpgraded route = true then
      [.relaying, .closed] else [.closed] := by
  rw [afterSwitch]
  cases network.clientUpgraded route <;> cases network.backendUpgraded route <;> rfl

theorem states_switched {q : UpgradeRequest} {i : Incoming} {x : Response} :
    TunnelRun.states ⟨claimed q ++ .heard i :: .answered x :: afterSwitch network route, x⟩ =
      .dialing :: .handshaking ::
        if network.clientUpgraded route = true ∧ network.backendUpgraded route = true then
          [.relaying, .closed] else [.closed] := by
  rw [← states_afterSwitch]
  rfl

theorem heard_not_mem_afterSwitch {i : Incoming} : .heard i ∉ afterSwitch network route := by
  simp [afterSwitch]

theorem precedes_afterSwitch {a : TunnelAct} (ha : a = .clientUpgraded ∨ a = .backendUpgraded) :
    a.Precedes (.entered .relaying) (afterSwitch network route) := by
  rw [afterSwitch]
  rcases ha with rfl | rfl <;> cases network.clientUpgraded route <;>
    cases network.backendUpgraded route <;> simp

namespace Course

theorem tookOver_iff (h : Course network route takeover r t) :
    .tookOver ∈ t.acts ↔ (∃ q, rebuild route r = .ok q) ∧ dial network route = .ok () ∧
      takeover = true := by
  cases h <;> simp [TunnelRun.closing, claimed, *]

theorem asked_iff (h : Course network route takeover r t) {q : UpgradeRequest} :
    .asked q ∈ t.acts ↔ rebuild route r = .ok q ∧ dial network route = .ok () ∧
      takeover = true := by
  cases h with
  | unbuilt | unreachable | unclaimed => simp [TunnelRun.closing, *]
  | failed | declined | switched =>
    simp [TunnelRun.closing, claimed, afterSwitch, *]
    exact eq_comm

theorem heard_iff (h : Course network route takeover r t) {i : Incoming} :
    .heard i ∈ t.acts ↔ ∃ q, rebuild route r = .ok q ∧ dial network route = .ok () ∧
      takeover = true ∧ network.handshake route q = .ok i := by
  cases h with
  | unbuilt | unreachable | unclaimed | failed => simp [TunnelRun.closing, claimed, *]
  | declined | switched =>
    simp [TunnelRun.closing, claimed, afterSwitch, *]
    exact eq_comm

theorem aborted_iff (h : Course network route takeover r t) :
    t.response.aborted = true ↔ .tookOver ∈ t.acts ∧ ∀ i, .heard i ∉ t.acts := by
  simp only [h.heard_iff, h.tookOver_iff]
  cases h with
  | failed hb hd ht hh => exact iff_of_true rfl ⟨⟨⟨_, hb⟩, hd, ht⟩, by simp [hb, hh]⟩
  | unbuilt hb => exact iff_of_false nofun (by simp [hb])
  | unreachable hb hd => exact iff_of_false nofun (by simp [hd])
  | unclaimed hb hd ht => exact iff_of_false nofun (by simp [ht])
  | declined hb hd ht hh | switched hb hd ht hh =>
    exact iff_of_false nofun fun ⟨_, hn⟩ => hn _ ⟨_, hb, hd, ht, hh⟩

theorem refuses_iff (h : Course network route takeover r t) {status : Nat} :
    Refuses t status ↔
      status = 502 ∧ ((∃ e, rebuild route r = .error e) ∨
        (∃ q, rebuild route r = .ok q) ∧ ∃ e, dial network route = .error e) ∨
      status = 500 ∧ (∃ q, rebuild route r = .ok q) ∧ dial network route = .ok () ∧
        takeover = false := by
  simp only [Refuses, h.heard_iff]
  cases h with
  | unbuilt hb | unreachable hb hd | unclaimed hb hd ht =>
    simp [TunnelRun.closing, Response.badGateway, Response.plain, Response.make, eq_comm, *]
  | failed hb hd ht hh => simp [TunnelRun.closing, Response.abort, *]
  | declined hb hd ht hh | switched hb hd ht hh => simp [*]

theorem traced (h : Course network route takeover r t) : Traced route r t := by
  cases h with
  | unbuilt hb => exact ⟨iff_of_true rfl ⟨_, hb⟩, .inl rfl, fun h => absurd rfl h⟩
  | unreachable hb | unclaimed hb =>
    exact ⟨iff_of_false nofun (by simp [hb]), .inr (.inl rfl), fun _ => ⟨rfl, rfl⟩⟩
  | failed hb | declined hb =>
    exact ⟨iff_of_false nofun (by simp [hb]), .inr (.inr (.inl rfl)), fun _ => ⟨rfl, rfl⟩⟩
  | switched hb =>
    refine ⟨iff_of_false nofun (by simp [hb]), ?_, fun _ => ?_⟩ <;> rw [states_switched] <;> split
    · exact .inr (.inr (.inr rfl))
    · exact .inr (.inr (.inl rfl))
    · exact ⟨rfl, rfl⟩
    · exact ⟨rfl, rfl⟩

theorem inOrder (h : Course network route takeover r t) : InOrder t := by
  cases h with
  | switched =>
    constructor <;> simp [claimed, precedes_afterSwitch, heard_not_mem_afterSwitch]
  | _ => constructor <;> simp [TunnelRun.closing, claimed]

theorem refused (h : Course network route takeover r t) : Refused network route takeover r t := by
  refine ⟨by simp [h.refuses_iff], by simp [h.refuses_iff], fun status hs => ?_⟩
  simp only [h.tookOver_iff, h.asked_iff]
  rcases h.refuses_iff.mp hs with ⟨-, ⟨e, hb⟩ | ⟨-, e, hd⟩⟩ | ⟨-, -, -, ht⟩
  · simp [hb]
  · simp [hd]
  · simp [ht]

theorem abandoned (h : Course network route takeover r t) :
    Abandoned network route takeover r t := by
  refine ⟨fun q e hb hd ht hh => ?_, fun method p layer hl x => x.aborted_layer method p hl,
    fun c w r' ha => ?_⟩
  · have htook := h.tookOver_iff.mpr ⟨⟨q, hb⟩, hd, ht⟩
    refine ⟨htook, h.aborted_iff.mpr ⟨htook, fun i hi => ?_⟩⟩
    obtain ⟨q', hb', -, -, hh'⟩ := h.heard_iff.mp hi
    cases hb.symm.trans hb'
    cases hh.symm.trans hh'
  · rw [ServerConfiguration.written?_eq, ha, ← h.aborted_iff]
    split
    next hab => exact iff_of_true rfl hab
    next hab => exact iff_of_false nofun hab

theorem relaying_iff (h : Course network route takeover r t) :
    .relaying ∈ t.states ↔ (∃ i, .heard i ∈ t.acts ∧ i.status = 101) ∧
      network.clientUpgraded route = true ∧ network.backendUpgraded route = true := by
  cases h with
  | @switched q i hb hd ht hh hi =>
    have hheard : ∃ j, .heard j ∈ claimed q ++ .heard i :: .answered (.bare 101 i.headers) ::
        afterSwitch network route ∧ j.status = 101 := ⟨i, by simp, hi⟩
    rw [states_switched, and_iff_right hheard]
    split <;> simp [*]
  | declined hb hd ht hh hi =>
    simp [TunnelRun.states, TunnelRun.closing, claimed, TunnelAct.state?, hi]
  | _ => simp [TunnelRun.states, TunnelRun.closing, claimed, TunnelAct.state?]

theorem passedOn (h : Course network route takeover r t) :
    PassedOn network route takeover r t := by
  refine ⟨fun i => h.heard_iff, fun i hi hs => ?_, fun i hi hs => ?_, h.relaying_iff⟩
  · cases h with
    | declined =>
      obtain rfl : i = _ := by simpa [TunnelRun.closing, claimed] using hi
      exact ⟨rfl, by simp [TunnelRun.closing, claimed, TunnelRun.states, TunnelAct.state?]⟩
    | switched =>
      obtain rfl : i = _ := by simpa [claimed, heard_not_mem_afterSwitch] using hi
      contradiction
    | _ => simp [TunnelRun.closing, claimed] at hi
  · cases h with
    | switched =>
      obtain rfl : i = _ := by simpa [claimed, heard_not_mem_afterSwitch] using hi
      exact ⟨rfl, rfl, fun method p =>
        Response.headers_prefix_finish (.bare 101 i.headers) method p rfl⟩
    | declined =>
      obtain rfl : i = _ := by simpa [TunnelRun.closing, claimed] using hi
      contradiction
    | _ => simp [TunnelRun.closing, claimed] at hi

end Course

theorem run_lawful (network : Network) (route : Route) (takeover : Bool) (r : Request) :
    Traced route r (run network route takeover r) ∧ InOrder (run network route takeover r) ∧
      Refused network route takeover r (run network route takeover r) ∧
      Abandoned network route takeover r (run network route takeover r) ∧
      PassedOn network route takeover r (run network route takeover r) :=
  have h := course_run
  ⟨h.traced, h.inOrder, h.refused, h.abandoned, h.passedOn⟩

/-- A backend that breaks the connection off in the middle of the handshake. -/
example :
    let network : Network := { Network.offline with connect := fun _ _ _ => .ok () }
    let route : Route := ⟨"/ws".toList, ⟨"http".toList, [], [], some (.domain "h".toList), none,
      .segments [[]], none, none⟩⟩
    let c : ServerConfiguration :=
      ⟨[], 0, 1, .console, .http11, none, ⟨[], false, false, false, none, ⟨[route]⟩⟩⟩
    let r : Request := ⟨"GET".toList, ⟨none, none, "/ws".toList, none⟩, .http11,
      [Headers.field "connection" "Upgrade", Headers.field "upgrade" "websocket"], [], none⟩
    (run network route true r).states = [.dialing, .handshaking, .closed] ∧
      c.written? ⟨⟨⟨[]⟩, [], []⟩, network, true⟩ r = none := by
  decide +kernel

end Tunnel

end SiteGateway
