import SiteGateway.Proofs.Percent
import SiteGateway.Proofs.Proxy.Tunnel
import SiteGateway.Proofs.Server.Permits
import SiteGateway.Proofs.Site.Policy
import SiteGateway.Proofs.Text.Utf8
import SiteGateway.Server.Service

/-!
# How many connections a server has open

A server keeps to its limit for as long as every open connection holds a permit
(`Admission.KeepsLimit`). Only an answer from a tunnel that relays leaves a connection without one
(`ServerConfiguration.leaves_ne_tunnelled`), and one route is enough for a client to get such an
answer (`Dispatch.exists_relaying`), as often as it likes (`ServerConfiguration.exists_tunnelled`).
So the limit is one for the connections that are served, and for the open ones just when there are
no routes (`ServerConfiguration.connections_within_limit`).
-/

namespace SiteGateway

/-! ### Answers without a tunnel -/

namespace Stage
variable {w : World} {r : Request} {stage : Stage} {a : Answer}

theorem states_of_orPass {o : Option Response} (h : Outcome.orPass r o = .handled a) :
    a.states = [] := by
  cases o with
  | none => cases h
  | some x =>
    cases h
    rfl

theorem states_of_run (hs : ∀ routes, stage ≠ .proxy routes) (h : stage.run w r = .handled a) :
    a.states = [] := by
  cases stage with
  | initialFile target => cases h
  | browse =>
    rw [run, runBrowse] at h
    grind [Outcome.answer, states_of_orPass]
  | markdown dis docs =>
    rw [run, runMarkdown] at h
    grind [Outcome.answer, states_of_orPass]
  | directoryGuard =>
    rw [run] at h
    grind [Outcome.answer]
  | proxy routes => exact absurd rfl (hs routes)

end Stage

theorem Pipeline.states_run {w : World} {r : Request} {stages : List Stage}
    (h : ∀ stage ∈ stages, ∀ routes, stage ≠ .proxy routes) : (run w stages r).states = [] := by
  induction stages generalizing r with
  | nil => rfl
  | cons stage stages ih =>
    rw [run]
    cases hs : stage.run w r with
    | handled a => exact Stage.states_of_run (h stage List.mem_cons_self) hs
    | passed r' => exact ih fun s hm => h s (List.mem_cons_of_mem stage hm)

namespace Dispatch
variable {d : Dispatch} {w : World} {r : Request} {x : Route}

theorem states_of_isEmpty (h : d.routes.isEmpty = true) : (d.answer w r).states = [] := by
  refine Pipeline.states_run fun stage hm routes => ?_
  rintro rfl
  rw [stages, if_pos h, List.append_nil] at hm
  grind

end Dispatch

/-! ### A request that is tunnelled -/

/-- A site without any file. -/
def Site.vacant : Site := ⟨⟨[]⟩, [], []⟩

theorem Site.isFile_vacant (f : Bytes) : vacant.isFile f = false := by
  rw [← Bool.not_eq_true]
  intro h
  obtain ⟨e, hk, he⟩ := FileTree.isFile_iff.mp h
  obtain ⟨p, -, hp⟩ := FileTree.kind_eq_ok_iff.mp hk
  cases p with
  | nil => exact he (Option.some.inj hp).symm
  | cons n ns => cases hp

theorem Site.readable_vacant : vacant.Readable := fun f h => by
  rw [isFile_vacant] at h
  cases h

/-- Every backend can be reached and switches protocols. -/
def Network.switching : Network where
  exchange _ := .error []
  connect _ _ _ := .ok ()
  handshake _ _ := .ok ⟨101, [], [], false⟩
  clientUpgraded _ := true
  backendUpgraded _ := true

/-- Nothing is served but what a backend answers. -/
def World.switching : World := ⟨.vacant, .switching, true⟩

/-- A request for a WebSocket at a path. -/
def Request.upgrade (path : Text) : Request :=
  ⟨"GET".toList, ⟨none, none, path, none⟩, .http11,
    [Headers.field "connection" "Upgrade", Headers.field "upgrade" "websocket"], [], none⟩

@[simp] theorem Request.path_upgrade (path : Text) : (upgrade path).path = path := by
  simp [upgrade, Request.path, Target.path]

theorem Request.asksForWebSocket_upgrade (path : Text) :
    (upgrade path).headers.asksForWebSocket = true := by
  change Headers.asksForWebSocket
    [Headers.field "connection" "Upgrade", Headers.field "upgrade" "websocket"] = true
  rfl

namespace Route

/-- A path below the prefix of a route, everything but slashes escaped. -/
def below (x : Route) : Text :=
  Percent.encode (· != 0x2F) (Utf8.encode (x.pathPrefix ++ ['x']))

variable (x : Route)

theorem below_eq :
    x.below = Percent.encode (· != 0x2F) (Utf8.encode x.pathPrefix) ++ ['%', '7', '8'] := by
  rw [below, Utf8.encode_append, Percent.encode, List.flatMap_append]
  rfl

theorem display_below : SiteRoot.display x.below = x.pathPrefix ++ ['x'] := by
  rw [SiteRoot.display, below, Percent.decode_encode rfl, Utf8.decodeLossy_encode]

theorem asksDirectory_below : Site.asksDirectory x.below = false := by
  rw [Site.asksDirectory, below_eq, List.getLast?_append]
  rfl

theorem head?_below_ne : x.below.head? ≠ some '?' := by
  rw [below_eq]
  cases Utf8.encode x.pathPrefix with
  | nil => decide
  | cons b bs =>
    rw [Percent.encode_cons]
    split
    next h =>
      obtain rfl : b = 0x2F := by simpa using (Bool.and_eq_true_iff.mp h).2
      exact nofun
    next => simp [Percent.escape]

theorem below_ne_nil : x.below ≠ [] := by
  rw [below_eq]
  exact List.append_ne_nil_of_right_ne_nil _ nofun

end Route

namespace Tunnel
variable {x : Route}

theorem rebuild_upgrade_below : ∃ q, rebuild x (.upgrade x.below) = .ok q := by
  have ht : target (.upgrade x.below) = .ok x.below := by
    have hs : x.below ++ [] = x.below := List.append_nil _
    change (if (x.below ++ []).isEmpty = true then _ else if (x.below ++ []).head? = some '?' then _
      else Except.ok (x.below ++ [])) = _
    rw [hs, if_neg (by simpa using x.below_ne_nil), if_neg x.head?_below_ne]
  exact ⟨_, by rw [rebuild, ht]; rfl⟩

theorem dial_switching : dial .switching x = .ok () := by
  rw [dial]
  cases serverName? x <;> rfl

theorem relaying_switching :
    .relaying ∈ (run .switching x true (.upgrade x.below)).states ∧
      (run .switching x true (.upgrade x.below)).response.aborted = false := by
  have hc : Course .switching x true (.upgrade x.below) _ := course_run
  obtain ⟨q, hq⟩ := rebuild_upgrade_below (x := x)
  have hh := hc.heard_iff.mpr ⟨q, hq, dial_switching, rfl, rfl⟩
  refine ⟨hc.relaying_iff.mpr ⟨⟨_, hh, rfl⟩, rfl, rfl⟩, ?_⟩
  rw [← Bool.not_eq_true, hc.aborted_iff]
  exact fun h => h.2 _ hh

end Tunnel

namespace Dispatch
variable {d : Dispatch} {w : World} {r : Request} {x : Route}

/-- Where there are no files, requests for files go to their routes. -/
theorem answer_of_vacant (hw : w.site = .vacant) (hp : r.path ≠ [])
    (ha : Site.asksDirectory r.path = false) (hu : r.headers.asksForWebSocket = true)
    (hx : d.routes.find? (SiteRoot.display r.path) = some x) :
    d.answer w r =
      ⟨(Tunnel.run w.network x w.takeover r).response,
        (Tunnel.run w.network x w.takeover r).states⟩ := by
  have hroot : r.path ≠ ['/'] := by
    intro h
    rw [h] at ha
    cases ha
  have hr : d.rewritten r = r := by
    rw [rewritten]
    split
    · simp [hroot]
    · rfl
  have hf (f : Bytes) : w.site.isFile f = false := by rw [hw, Site.isFile_vacant]
  have hfollows : ∀ stage ∈ d.policies, stage.Follows w r := by
    intro stage hs
    rcases List.mem_append.mp hs with hs | hs
    · split at hs
      · obtain rfl := List.mem_singleton.mp hs
        exact Stage.follows_browse hp
      · cases hs
    · exact follows_later (hw ▸ Site.readable_vacant) stage hs
  -- without files, no rule that comes before those of the routes applies
  have hrule : firstRule (d.policies.flatMap (·.rules w.site r.path)) = some (.route x) := by
    have hplain : w.site.plainFile? r.path = none := by simp [Site.plainFile?, hf]
    have hmarkdown : w.site.markdownFile? r.path = none := by simp [Site.markdownFile?, hf]
    have hdirectory : w.site.directory? r.path = none := by simp [Site.directory?, ha]
    have hbrowse : firstRule ((if d.browse then [Stage.browse] else []).flatMap
        (·.rules w.site r.path)) = none := by
      split <;> simp [Stage.rules, hplain, hdirectory]
    rw [policies, List.flatMap_append, firstRule_append, hbrowse, Option.none_or, firstRule_later]
    simp [rules, hmarkdown, Site.unindexed?, hdirectory, ha, hx]
  have hrun := Pipeline.run_of_follows hfollows
  rw [hrule, Option.getD_some, Ruling.answer?, if_pos hu] at hrun
  rw [answer_eq_run, hr]
  exact (Option.some.inj hrun).symm

theorem exists_relaying (h : d.routes.isEmpty = false) :
    ∃ w r, .relaying ∈ (d.answer w r).states ∧ (d.answer w r).response.aborted = false := by
  obtain ⟨x, xs, hxs⟩ := List.exists_cons_of_ne_nil (l := d.routes.routes) fun hn => by
    rw [RouteTable.isEmpty, hn] at h
    cases h
  have hx : d.routes.find? (SiteRoot.display (Request.upgrade x.below).path) = some x := by
    rw [Request.path_upgrade, x.display_below, RouteTable.find?, hxs]
    exact List.find?_cons_of_pos (List.isPrefixOf_iff_prefix.mpr (List.prefix_append ..))
  refine ⟨.switching, .upgrade x.below, ?_⟩
  rw [answer_of_vacant rfl (by rw [Request.path_upgrade]; exact x.below_ne_nil)
    (by rw [Request.path_upgrade]; exact x.asksDirectory_below)
    (Request.asksForWebSocket_upgrade _) hx]
  exact Tunnel.relaying_switching

end Dispatch

/-! ### The limit -/

namespace Admission

/-- No more connections are open than allowed, and each of them holds a permit. -/
structure KeepsLimit (s : Admission) (limit : Nat) : Prop where
  within : s.openCount ≤ limit
  held : ∀ x ∈ s.connections, x.phase.isOpen = true → x.permit = true

theorem KeepsLimit.of_balanced {s : Admission} (h : s.Balanced)
    (ht : ∀ x ∈ s.connections, x.phase ≠ .tunnelled) : s.KeepsLimit s.limit := by
  have hheld : ∀ x ∈ s.connections, x.phase.isOpen = true → x.permit = true := by
    intro x hx ho
    refine h.attended x hx ?_
    have := ht x hx
    cases hp : x.phase <;> simp_all [ConnectionPhase.isOpen, ConnectionPhase.isAttended]
  refine ⟨?_, hheld⟩
  have hle : s.openCount ≤ s.held := List.countP_mono_left hheld
  have := h.permits
  omega

end Admission

namespace ServerConfiguration

variable {c : ServerConfiguration} {s s' : Admission} {e : ServerEvent} {es : List ServerEvent}
  {w : World} {r : Request}

/-- Every event is a step of the admission, and a connection is handed over by an answer. -/
theorem exists_step (h : c.step? s e = some s') :
    ∃ a, Admission.Step s a s' ∧
      (a.handsOver = true → ∃ w r, (c.answer w r).leaves = .tunnelled) := by
  cases e with
  | admission a =>
    obtain ⟨ha, h⟩ := Option.ite_none_left_eq_some.mp h
    exact ⟨a, .of_step? h, fun hover => absurd hover ha⟩
  | request i w r =>
    obtain ⟨-, h⟩ := Option.ite_none_right_eq_some.mp h
    exact ⟨_, .of_step? h, fun hover => ⟨w, r, of_decide_eq_true hover⟩⟩

/-- What holds at the start and is kept by every event holds of every running server. -/
theorem run_induction {P : Admission → Prop} (h : c.run? es = some s)
    (start : P (.initial c.maxConnections))
    (event : ∀ {s e s'}, c.step? s e = some s' → P s → P s') : P s :=
  Option.foldlM_induction h start event

theorem limit_of_run? (h : c.run? es = some s) : s.limit = c.maxConnections := by
  refine run_induction (P := fun s => s.limit = c.maxConnections) h rfl fun hs hl => ?_
  obtain ⟨a, ha, -⟩ := exists_step hs
  rw [Admission.limit_step ha, hl]

theorem balanced_of_run? (h : c.run? es = some s) : s.Balanced := by
  refine run_induction h (.initial _) fun hs hb => ?_
  obtain ⟨a, ha, -⟩ := exists_step hs
  exact hb.step ha

theorem leaves_ne_tunnelled (h : c.dispatch.routes.isEmpty = true) :
    (c.answer w r).leaves ≠ .tunnelled := by
  have hs : (c.answer w r).states = [] := Dispatch.states_of_isEmpty h
  rw [Answer.leaves, hs]
  grind

theorem leaves_of_relaying (hr : .relaying ∈ (c.dispatch.answer w r).states)
    (ha : (c.dispatch.answer w r).response.aborted = false) :
    (c.answer w r).leaves = .tunnelled := by
  have hr' : .relaying ∈ (c.answer w r).states := hr
  have ha' : (c.answer w r).response.aborted = false := (Response.aborted_finish ..).trans ha
  rw [Answer.leaves, ha', if_neg Bool.false_ne_true, if_pos hr']

theorem ne_tunnelled_of_run? (hr : c.dispatch.routes.isEmpty = true) (h : c.run? es = some s) :
    ∀ x ∈ s.connections, x.phase ≠ .tunnelled := by
  refine run_induction (P := fun s => ∀ x ∈ s.connections, x.phase ≠ .tunnelled) h nofun
    fun hs ht => ?_
  obtain ⟨a, ha, htun⟩ := exists_step hs
  cases ha with
  | arrive | reserve | refuse | stop => exact ht
  | accept =>
    intro x hx
    rcases List.mem_append.mp hx with hx | hx
    · exact ht x hx
    · rw [List.mem_singleton.mp hx]
      nofun
  | @turn i x p hx hp =>
    intro y hy
    rcases Admission.mem_put hy with hy | rfl
    · exact ht y hy
    · rintro rfl
      obtain ⟨w, r, hl⟩ := htun rfl
      exact leaves_ne_tunnelled hr hl
  | @settle i x hx =>
    intro y hy
    rcases Admission.mem_put hy with hy | rfl
    · exact ht y hy
    · exact ht x (List.mem_of_getElem? hx)

/-- A client that comes while a permit is free can be tunnelled, and the permit is free again. -/
theorem exists_handedOver (ht : (c.answer w r).leaves = .tunnelled) (hl : s.listening = true)
    (hr : s.reserved = false) (hp : 0 < s.permits) :
    ∃ es : List ServerEvent, es.foldlM c.step? s =
      some { s with connections := s.connections ++ [⟨.tunnelled, false⟩] } := by
  refine ⟨[.admission .arrive, .admission .reserve, .admission .accept,
    .admission (.turn s.connections.length .served), .request s.connections.length w r,
    .admission (.settle s.connections.length)], ?_⟩
  simp [step?, AdmissionStep.handsOver, Admission.step?, Admission.put, ht, hl, hr, hp,
    ConnectionPhase.leadsTo, ConnectionPhase.isAttended]
  exact Nat.sub_add_cancel hp

/-- With a route, clients can be tunnelled one after another without end. -/
theorem exists_tunnelled (hr : c.dispatch.routes.isEmpty = false) (hm : 0 < c.maxConnections)
    (n : Nat) :
    ∃ es, c.run? es = some { Admission.initial c.maxConnections with
      connections := .replicate n ⟨.tunnelled, false⟩ } := by
  obtain ⟨w, r, ht, ha⟩ := Dispatch.exists_relaying hr
  have hl := leaves_of_relaying ht ha
  induction n with
  | zero => exact ⟨[], rfl⟩
  | succ n ih =>
    obtain ⟨es, hes⟩ := ih
    obtain ⟨es', hes'⟩ := exists_handedOver (s := { Admission.initial c.maxConnections with
      connections := .replicate n ⟨.tunnelled, false⟩ }) hl rfl rfl hm
    refine ⟨es ++ es', ?_⟩
    rw [run?, List.foldlM_append, ← run?, hes, List.replicate_succ']
    exact hes'

theorem exists_openCount_eq (hr : c.dispatch.routes.isEmpty = false) (hm : 0 < c.maxConnections)
    (n : Nat) : ∃ es s, c.run? es = some s ∧ s.openCount = n := by
  obtain ⟨es, hes⟩ := exists_tunnelled hr hm n
  refine ⟨es, _, hes, ?_⟩
  rw [Admission.openCount, List.countP_replicate]
  rfl

/-- The connections that are attended to keep to the limit. All open ones do so for sure only if no
route lets a tunnel take one over, and with a route there is no bound at all. -/
theorem connections_within_limit (c : ServerConfiguration) :
    (∀ es s, c.run? es = some s →
      s.permits + s.reserved.toNat + s.held = c.maxConnections ∧
      (∀ x ∈ s.connections, x.phase.isAttended = true → x.permit = true) ∧
      (s.openCount ≤ c.maxConnections ↔
        s.adrift ≤ s.permits + s.reserved.toNat + s.lingering)) ∧
    ((∀ es s, c.run? es = some s → s.KeepsLimit c.maxConnections) ↔
      c.dispatch.routes.isEmpty = true ∨ c.maxConnections = 0) ∧
    (c.dispatch.routes.isEmpty = false → 0 < c.maxConnections →
      ∀ n, ∃ es s, c.run? es = some s ∧ s.openCount = n) := by
  refine ⟨fun es s h => ?_, ⟨fun h => ?_, fun h es s hs => ?_⟩, exists_openCount_eq⟩
  · have hb := balanced_of_run? h
    have hl := limit_of_run? h
    exact ⟨hl ▸ hb.permits, hb.attended, hl ▸ hb.openCount_le_iff⟩
  · by_contra hn
    obtain ⟨hr, hm⟩ := not_or.mp hn
    obtain ⟨es, s, hs, ho⟩ := exists_openCount_eq (Bool.eq_false_iff.mpr hr)
      (Nat.pos_of_ne_zero hm) (c.maxConnections + 1)
    have := (h es s hs).within
    omega
  · have hb := balanced_of_run? hs
    have hl := limit_of_run? hs
    rcases h with hr | hm
    · exact hl ▸ .of_balanced hb (ne_tunnelled_of_run? hr hs)
    · have hn : s.connections = [] := by
        by_contra hne
        have := hb.allowed hne
        omega
      exact ⟨by rw [Admission.openCount, hn]; exact Nat.zero_le _,
        by rw [hn]; exact List.forall_mem_nil _⟩

/-- One connection at a time, and a route for WebSockets. -/
def single : ServerConfiguration :=
  ⟨[], 0, 1, .console, .http11, none, ⟨[], false, false, false, none,
    ⟨[⟨"/ws".toList, ⟨"http".toList, [], [], some (.domain "h".toList), none, .segments [[]], none,
      none⟩⟩]⟩⟩⟩

theorem exists_openCount_two_single :
    single.dispatch.routes.isEmpty = false ∧ 0 < single.maxConnections ∧
      ∃ es s, single.run? es = some s ∧ s.openCount = 2 :=
  ⟨rfl, by decide, (connections_within_limit single).2.2 rfl (by decide) 2⟩

/-- The limit does not hold for every server: where one connection is allowed, a second one is let
in once the first is tunnelled. -/
theorem not_forall_keepsLimit :
    ¬ ∀ (c : ServerConfiguration) (es : List ServerEvent) (s : Admission), c.run? es = some s →
      s.KeepsLimit c.maxConnections := by
  intro h
  have hrun : single.run? [.admission .arrive, .admission .arrive, .admission .reserve,
      .admission .accept, .admission (.turn 0 .served),
      .request 0 .switching (.upgrade "/ws".toList), .admission (.settle 0),
      .admission .reserve, .admission .accept, .admission (.turn 1 .served)] =
      some ⟨1, 0, 0, false, true, [⟨.tunnelled, false⟩, ⟨.served, true⟩]⟩ := by
    rfl
  exact absurd (h _ _ _ hrun).within (by decide)

end ServerConfiguration
end SiteGateway
