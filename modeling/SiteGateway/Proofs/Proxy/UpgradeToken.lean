import SiteGateway.Proofs.Proxy.HopByHop
import SiteGateway.Proofs.Proxy.Upgrade
import SiteGateway.Proofs.Server.Service
import SiteGateway.Proofs.Url.Path

/-!
# Who is handed to the tunnel

A client wants a WebSocket when its first `connection` value names the token `upgrade` and its first
`upgrade` value is `websocket` (`Headers.WantsWebSocket`). The gateway looks for the letters of the
token wherever they stand, so it also takes a longer token that holds them for a wish
(`Headers.BuriesUpgrade`); `Stage.runProxy_upgrade` says that this is the only difference.
-/

namespace SiteGateway

/-! ### Tokens in some letter case -/

theorem isTokenChar_of_toLower {c : Char} (h : isTokenChar c.toLower = true) :
    isTokenChar c = true := by
  rcases Url.toLower_eq (c := c) rfl with hc | ⟨hlo, hhi, -⟩
  · rwa [← hc] at h
  · have hall : ∀ n < 0x80, 65 ≤ n → n ≤ 90 → isTokenChar (Char.ofNat n) = true := by decide
    have := hall c.toNat (by omega) hlo hhi
    rwa [Char.ofNat_toNat] at this

theorem isToken_of_lower {t : Text} (h : isToken (Text.lower t) = true) : isToken t = true := by
  obtain ⟨hne, hall⟩ := Bool.and_eq_true_iff.mp h
  refine Bool.and_eq_true_iff.mpr ⟨?_, List.all_eq_true.mpr fun c hc => ?_⟩
  · simpa [Text.lower] using hne
  · exact isTokenChar_of_toLower (List.all_eq_true.mp hall _ (List.mem_map_of_mem hc))

theorem comma_notMem_of_isToken {t : Text} (h : isToken t = true) : ',' ∉ t := fun hc =>
  (apart_of_isTokenChar (List.all_eq_true.mp (Bool.and_eq_true_iff.mp h).2 _ hc)).2 rfl

namespace HeaderValue
variable {v : HeaderValue} {n : HeaderName} {t x y : Text}

/-- The value is the word `n` in some letter case, up to blanks around it. -/
def Spells (v : HeaderValue) (n : Text) : Prop :=
  ∃ t, readable? v = some t ∧ ∃ word x y, t = x ++ (word ++ y) ∧ Text.lower word = n ∧
    Text.Blank x ∧ Text.Blank y

/-- The letters of `n` stand in a piece of the value, after `x` and before `y`. -/
def Holds (v : HeaderValue) (n : HeaderName) (x y : Text) : Prop :=
  ∃ t, readable? v = some t ∧ ∃ word front back, t = front ++ (x ++ (word ++ y) ++ back) ∧
    Text.lower word = n ∧ ',' ∉ x ∧ ',' ∉ y ∧ (∀ c ∈ front.getLast?, c = ',') ∧
    ∀ c ∈ back.head?, c = ','

/-- No piece of the value is `n`, but one holds the letters of `n` among other characters. -/
def Buries (v : HeaderValue) (n : HeaderName) : Prop :=
  ¬ v.Names n ∧ ∃ x y, v.Holds n x y ∧ ¬ (Text.Blank x ∧ Text.Blank y)

theorem any_sameLetters_iff (hn : isToken n = true) (hl : Text.lower n = n) :
    (readable? v).any (fun t => Text.sameLetters (Text.trim t) n) = true ↔ v.Spells n := by
  rw [Option.any_eq_true, Spells]
  refine exists_congr fun t => and_congr_right fun _ => ?_
  rw [Text.sameLetters, beq_iff_eq, hl]
  constructor
  · intro h
    obtain ⟨x, y, hx, hy, hs⟩ := Text.exists_trim t
    exact ⟨Text.trim t, x, y, hs, h, hx, hy⟩
  · rintro ⟨word, x, y, rfl, hword, hx, hy⟩
    have htoken : isToken word = true := isToken_of_lower (hword ▸ hn)
    rw [Text.trim_blank_append hx, Text.trim_append_blank hy, trim_of_isToken htoken, hword]

/-- A word without commas occurs inside a piece. -/
theorem any_hasInfix_iff_holds (hn : ',' ∉ n) :
    (readable? v).any (fun t => Text.hasInfix n (Text.lower t)) = true ↔ ∃ x y, v.Holds n x y := by
  rw [Option.any_eq_true]
  constructor
  · rintro ⟨t, ht, h⟩
    obtain ⟨a, b, hab⟩ := Text.hasInfix_iff.mp h
    obtain ⟨aw, y, rfl, haw, -⟩ := List.map_eq_append_iff.mp hab.symm
    obtain ⟨a, word, rfl, -, hword⟩ := List.map_eq_append_iff.mp haw
    obtain ⟨front, x, rfl, hx, hfront⟩ := Text.exists_lastPiece ',' a
    obtain ⟨y, back, rfl, hy, hback⟩ := Text.exists_firstPiece ',' y
    exact ⟨x, y, _, ht, word, front, back, by simp, hword, hx, hy, hfront, hback⟩
  · rintro ⟨x, y, t, ht, word, front, back, rfl, rfl, -⟩
    refine ⟨_, ht, Text.hasInfix_iff.mpr ?_⟩
    exact ⟨Text.lower (front ++ x), Text.lower (y ++ back), by simp [Text.lower]⟩

theorem names_iff_holds (hn : isToken n = true) :
    v.Names n ↔ ∃ x y, v.Holds n x y ∧ Text.Blank x ∧ Text.Blank y := by
  have hcomma {x : Text} (hx : Text.Blank x) : ',' ∉ x := fun hc =>
    absurd (hx _ hc) (by decide)
  constructor
  · rintro ⟨t, ht, word, front, x, y, back, he, -, hword, hx, hy, hfront, hback⟩
    exact ⟨x, y, ⟨t, ht, word, front, back, he, hword, hcomma hx, hcomma hy, hfront, hback⟩, hx, hy⟩
  · rintro ⟨x, y, ⟨t, ht, word, front, back, he, hword, -, -, hfront, hback⟩, hx, hy⟩
    exact ⟨t, ht, word, front, x, y, back, he, isToken_of_lower (hword ▸ hn), hword, hx, hy, hfront,
      hback⟩

/-- The letters of a name are found where it is named, and where they are buried. -/
theorem any_hasInfix_iff (hn : isToken n = true) :
    (readable? v).any (fun t => Text.hasInfix n (Text.lower t)) = true ↔
      v.Names n ∨ v.Buries n := by
  rw [any_hasInfix_iff_holds (comma_notMem_of_isToken hn)]
  constructor
  · rintro ⟨x, y, hholds⟩
    by_cases hnames : v.Names n
    · exact .inl hnames
    · refine .inr ⟨hnames, x, y, hholds, fun hblank => hnames ?_⟩
      exact (names_iff_holds hn).mpr ⟨x, y, hholds, hblank⟩
  · rintro (hnames | ⟨-, x, y, hholds, -⟩)
    · obtain ⟨x, y, hholds, -⟩ := (names_iff_holds hn).mp hnames
      exact ⟨x, y, hholds⟩
    · exact ⟨x, y, hholds⟩

end HeaderValue

namespace Headers
variable {hs : Headers}

/-- The first `upgrade` value is `websocket`. -/
def UpgradesToWebSocket (hs : Headers) : Prop :=
  ∃ v, hs.get? upgradeName = some v ∧ v.Spells "websocket".toList

/-- The first `connection` value names the token `upgrade`, and the upgrade is to a WebSocket. -/
def WantsWebSocket (hs : Headers) : Prop :=
  (∃ v, hs.get? connectionName = some v ∧ v.Names upgradeName) ∧ hs.UpgradesToWebSocket

/-- The first `connection` value has the letters of `upgrade` in longer tokens only, and the upgrade
is to a WebSocket. -/
def BuriesUpgrade (hs : Headers) : Prop :=
  (∃ v, hs.get? connectionName = some v ∧ v.Buries upgradeName) ∧ hs.UpgradesToWebSocket

theorem BuriesUpgrade.not_wants (h : hs.BuriesUpgrade) : ¬ hs.WantsWebSocket := by
  obtain ⟨⟨v, hv, hnot, -⟩, -⟩ := h
  rintro ⟨⟨w, hw, hnames⟩, -⟩
  rw [hv] at hw
  cases hw
  exact hnot hnames

theorem any_text?_iff (hs : Headers) (n : HeaderName) {p : Text → Bool} {q : HeaderValue → Prop}
    (h : ∀ v, (HeaderValue.readable? v).any p = true ↔ q v) :
    (hs.text? n).any p = true ↔ ∃ v, hs.get? n = some v ∧ q v := by
  rw [text?]
  cases hs.get? n with
  | none => simp
  | some v => simp [h]

/-- The gateway takes a client to want a WebSocket when it does, and when the letters are buried. -/
theorem asksForWebSocket_iff :
    hs.asksForWebSocket = true ↔ hs.WantsWebSocket ∨ hs.BuriesUpgrade := by
  have hconnection := any_text?_iff hs connectionName
    fun v => HeaderValue.any_hasInfix_iff (v := v) (n := upgradeName) (by decide)
  have hupgrade := any_text?_iff hs upgradeName
    fun v => HeaderValue.any_sameLetters_iff (v := v) (n := "websocket".toList) (by decide)
      (by decide)
  rw [WantsWebSocket, BuriesUpgrade, ← or_and_right, ← exists_or]
  simp only [← and_or_left]
  exact Bool.and_eq_true_iff.trans (and_congr hconnection hupgrade)

end Headers

namespace Stage

/-- On a route the requests that want a WebSocket are handed to the tunnel, and so are those in
which the letters of the token are buried; all others are forwarded. The gateway and the client are
of one mind exactly where no letters are buried. -/
theorem runProxy_upgrade (w : World) (routes : RouteTable) (r : Request) :
    (∀ x, routes.find? (SiteRoot.display r.path) = some x →
      (r.headers.WantsWebSocket ∨ r.headers.BuriesUpgrade →
        runProxy w routes r = .handled ⟨(Tunnel.run w.network x w.takeover r).response,
          (Tunnel.run w.network x w.takeover r).states⟩) ∧
      (¬ r.headers.WantsWebSocket → ¬ r.headers.BuriesUpgrade →
        runProxy w routes r = .handled ⟨Forward.respond w.network x r, []⟩)) ∧
    (r.headers.asksForWebSocket = true ↔ r.headers.WantsWebSocket ∨ r.headers.BuriesUpgrade) ∧
    ((r.headers.asksForWebSocket = true ↔ r.headers.WantsWebSocket) ↔
      ¬ r.headers.BuriesUpgrade) := by
  refine ⟨fun x hx => ⟨fun h => ?_, fun hw hb => ?_⟩, Headers.asksForWebSocket_iff, ?_⟩
  · simp only [runProxy_eq, hx, if_pos (Headers.asksForWebSocket_iff.mpr h)]
  · have hasks : ¬ r.headers.asksForWebSocket = true := fun h =>
      (Headers.asksForWebSocket_iff.mp h).elim hw hb
    simp only [runProxy_eq, hx, if_neg hasks]
  · rw [Headers.asksForWebSocket_iff]
    constructor
    · exact fun h hb => hb.not_wants (h.mp (.inr hb))
    · exact fun hb => or_iff_left hb

/-- A token in a list of two is seen, and the connection is switched. -/
theorem runProxy_upgrade_chat :
    let r := Tunnel.chatRequest "/ws".toList
    RouteTable.find? ⟨[Tunnel.chatRoute]⟩ (SiteRoot.display r.path) = some Tunnel.chatRoute ∧
      r.headers.WantsWebSocket ∧ r.headers.asksForWebSocket = true ∧
      ∃ a, runProxy .switching ⟨[Tunnel.chatRoute]⟩ r = .handled a ∧ a.response.status = 101 := by
  intro r
  have hroute : RouteTable.find? ⟨[Tunnel.chatRoute]⟩ (SiteRoot.display r.path) =
      some Tunnel.chatRoute := by rfl
  have hexact := runProxy_upgrade .switching ⟨[Tunnel.chatRoute]⟩ r
  have hnames : HeaderValue.Names (Utf8.encode "keep-alive, Upgrade".toList) Headers.upgradeName :=
    (HeaderValue.names_iff (t := "keep-alive, Upgrade".toList) (by rfl)).mpr (by decide)
  have hspells : HeaderValue.Spells (Utf8.encode "websocket".toList) "websocket".toList :=
    (HeaderValue.any_sameLetters_iff (by decide) (by decide)).mp (by rfl)
  have hwants : r.headers.WantsWebSocket := ⟨⟨_, rfl, hnames⟩, _, rfl, hspells⟩
  exact ⟨hroute, hwants, hexact.2.1.mpr (.inl hwants), _, (hexact.1 _ hroute).1 (.inl hwants),
    by rfl⟩

end Stage

/-- Not only those who want a WebSocket are taken to: `upgraded` is another token. -/
theorem Headers.not_forall_wantsWebSocket :
    ¬ ∀ hs : Headers, hs.asksForWebSocket = true ↔ hs.WantsWebSocket := by
  intro h
  have hasks : asksForWebSocket [field "connection" "upgraded", field "upgrade" "websocket"] =
      true := by rfl
  obtain ⟨⟨v, hv, hnames⟩, -⟩ := (h _).mp hasks
  cases hv
  rw [HeaderValue.names_iff (t := "upgraded".toList) (by rfl)] at hnames
  revert hnames
  decide

end SiteGateway
