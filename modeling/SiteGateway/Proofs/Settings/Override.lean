import SiteGateway.Proofs.Route.Pair
import SiteGateway.Proofs.Settings.Checks
import SiteGateway.Settings.CommandLine

/-!
# What the command line decides

Every component of a configuration for which the command line has an option is decided by the option
when it is given (`CommandLine.Decides`), whatever the settings file says, with two exceptions. An
initial file of the settings file takes the place of the directory, and a single route of the
settings file takes the place of mappings that name none. `CommandLine.override_iff` says that these
are all.
-/

namespace SiteGateway

open Text (Blank)

namespace CommandLine

/-- What the command line has options for. -/
inductive Component
  | bindAddress | port | directory | protocol | tls | logFormat | routes
deriving DecidableEq, Repr

/-- The positional argument is a port. -/
def NamesPort (a : CommandLine) (n : Nat) : Prop :=
  ∃ t, a.target = some t ∧ Text.boundedNat? 65536 (Text.trim t) = some n ∧ n ≠ 0

/-- The positional argument is an initial file. -/
def NamesFile (a : CommandLine) (file : Text) : Prop :=
  (∀ n, ¬ a.NamesPort n) ∧ ∃ t, a.target = some t ∧ Text.trim t = file ∧ file ≠ []

/-- The options of the component are given. An initial file is given with its own directory. -/
def Gives (a : CommandLine) : Component → Prop
  | .bindAddress => a.bind ≠ none
  | .port => (∃ n, a.NamesPort n) ∨ a.port ≠ none
  | .directory => a.directory ≠ none ∧ ∀ file, ¬ a.NamesFile file
  | .protocol => a.protocol ≠ none
  | .tls => a.tlsCert ≠ none ∧ a.tlsKey ≠ none
  | .logFormat => a.logFormat ≠ none
  | .routes => a.proxy ≠ []

/-- The component is what the options alone make of it. -/
def Decides (t : FileTree) (base : Place) (a : CommandLine) (c : ServerConfiguration) :
    Component → Prop
  | .bindAddress => ∃ b, a.bind = some b ∧ c.bindAddress = Text.trim b
  | .port => a.NamesPort c.port ∨ (∀ n, ¬ a.NamesPort n) ∧ a.port = some c.port
  | .directory => ∃ d, a.directory = some d ∧
      Settings.resolveDirectory t base (Utf8.encode d) = .ok c.dispatch.directory
  | .protocol => ∃ p, a.protocol = some p ∧ Protocol.parse p = .ok c.protocol
  | .tls => ∃ cert key, a.tlsCert = some cert ∧ a.tlsKey = some key ∧ c.tls = some ⟨cert, key⟩
  | .logFormat => a.logFormat = some c.logFormat
  | .routes => Settings.resolveRoutes a.proxy (a.proxyPath.getD []) (a.proxyBackend.getD []) =
      .ok c.dispatch.routes

/-- The component is the same in both configurations. -/
def Same (c₁ c₂ : ServerConfiguration) : Component → Prop
  | .bindAddress => c₁.bindAddress = c₂.bindAddress
  | .port => c₁.port = c₂.port
  | .directory => c₁.dispatch.directory = c₂.dispatch.directory
  | .protocol => c₁.protocol = c₂.protocol
  | .tls => c₁.tls = c₂.tls
  | .logFormat => c₁.logFormat = c₂.logFormat
  | .routes => c₁.dispatch.routes = c₂.dispatch.routes

/-- The settings file has no say: it has no initial file in another directory, and no half of a
route that the options leave out when their mappings name none. -/
def LeavesTo (t : FileTree) (base : Place) (a : CommandLine) (s : Settings) : Component → Prop
  | .directory => ∀ d file path, a.directory = some d → s.Gives file →
      Settings.Parent (Settings.absolutePath base file) path →
      Settings.resolveDirectory t base path = Settings.resolveDirectory t base (Utf8.encode d)
  | .routes => RouteTable.mappings a.proxy = [] →
      (a.proxyPath = none → Blank s.proxyPath) ∧ (a.proxyBackend = none → Blank s.proxyBackend)
  | _ => True

variable {t : FileTree} {base : Place} {a : CommandLine} {s s₁ s₂ : Settings}
  {c c₁ c₂ : ServerConfiguration} {k : Component}

/-! ### Settings with the command line on top -/

theorem NamesPort.unique {n m : Nat} (hn : a.NamesPort n) (hm : a.NamesPort m) : n = m := by
  obtain ⟨t, ht, hn, -⟩ := hn
  obtain ⟨t', ht', hm, -⟩ := hm
  rw [ht] at ht'
  cases ht'
  exact Option.some.inj (hn.symm.trans hm)

/-- What the options say stands in the settings, and the rest is left as it was. -/
theorem exists_apply (a : CommandLine) (s : Settings) :
    ∃ port initialFile, a.apply s =
      { bindAddress := a.bind.getD s.bindAddress
        port := port
        directory := a.directory.getD s.directory
        protocol := a.protocol.getD s.protocol
        tlsCert := a.tlsCert.or s.tlsCert
        tlsKey := a.tlsKey.or s.tlsKey
        markdown := s.markdown && !a.noMarkdown
        browse := s.browse || a.browse
        disableListing := s.disableListing || a.disableListing
        logFormat := a.logFormat.getD s.logFormat
        initialFile := initialFile
        proxy := if a.proxy.isEmpty then s.proxy else a.proxy
        proxyPath := a.proxyPath.getD s.proxyPath
        proxyBackend := a.proxyBackend.getD s.proxyBackend
        maxConnections := s.maxConnections } ∧
      (a.NamesPort port ∨ (∀ n, ¬ a.NamesPort n) ∧ port = a.port.getD s.port) ∧
      ((∃ file, a.NamesFile file ∧ initialFile = some file) ∨
        (∀ file, ¬ a.NamesFile file) ∧ initialFile = s.initialFile) := by
  cases htarget : a.target with
  | none =>
    have hport : ∀ n, ¬ a.NamesPort n := by
      rintro n ⟨t, ht, -⟩
      rw [htarget] at ht
      cases ht
    have hfile : ∀ file, ¬ a.NamesFile file := by
      rintro file ⟨-, t, ht, -⟩
      rw [htarget] at ht
      cases ht
    exact ⟨_, _, by rw [apply, htarget], .inr ⟨hport, rfl⟩, .inr ⟨hfile, rfl⟩⟩
  | some target =>
    rw [apply, htarget]
    dsimp only [applyTarget]
    split
    next n hn =>
      -- a number is a port, and then there is no file
      have hport : a.NamesPort (n + 1) := ⟨target, htarget, hn, Nat.succ_ne_zero n⟩
      exact ⟨_, _, rfl, .inl hport, .inr ⟨fun file hf => hf.1 _ hport, rfl⟩⟩
    next hnone =>
      have hport : ∀ n, ¬ a.NamesPort n := by
        rintro n ⟨t, ht, hn, hpos⟩
        rw [htarget] at ht
        cases ht
        obtain ⟨m, rfl⟩ := Nat.exists_eq_succ_of_ne_zero hpos
        exact hnone m hn
      split
      next hempty =>
        refine ⟨_, _, rfl, .inr ⟨hport, rfl⟩, .inr ⟨?_, rfl⟩⟩
        rintro file ⟨-, t, ht, rfl, hne⟩
        rw [htarget] at ht
        cases ht
        exact hne (List.isEmpty_iff.mp hempty)
      next hne =>
        refine ⟨_, _, rfl, .inr ⟨hport, rfl⟩, .inl ⟨_, ⟨hport, target, htarget, rfl, ?_⟩, rfl⟩⟩
        simpa using hne

/-! ### One run -/

theorem decides_directory_iff {d : Text} {path : Bytes} (hd : a.directory = some d)
    (hdirectory : (a.apply s).directory = d) (hfile : (a.apply s).initialFile = s.initialFile)
    (hserves : (a.apply s).Serves base path)
    (hres : Settings.resolveDirectory t base path = .ok c.dispatch.directory) :
    Decides t base a c .directory ↔ LeavesTo t base a s .directory := by
  have hgives {file : Text} : (a.apply s).Gives file ↔ s.Gives file := by
    rw [Settings.Gives, Settings.Gives, hfile]
  constructor
  · rintro ⟨d', hd', hown⟩ d'' file parent hd'' hf hp
    rw [hd] at hd' hd''
    cases hd'
    cases hd''
    have hparent : (a.apply s).Serves base parent := .ofFile (hgives.mpr hf) hp
    rw [Settings.serves_iff] at hparent hserves
    rw [hparent, ← hserves, hres, hown]
  · intro hleaves
    refine ⟨d, hd, ?_⟩
    cases hserves with
    | ofFile hf hp => rw [← hleaves d _ path hd (hgives.mp hf) hp, hres]
    | ofDirectory => rwa [hdirectory] at hres

theorem decides_routes_iff
    (hres : Settings.resolveRoutes a.proxy (a.proxyPath.getD s.proxyPath)
      (a.proxyBackend.getD s.proxyBackend) = .ok c.dispatch.routes) :
    Decides t base a c .routes ↔ LeavesTo t base a s .routes := by
  -- where a half is given it is the same, and where it is not the own half is blank
  have hhalf {x : Option Text} {y : Text} (h : x = none → Blank y) :
      Text.trim (x.getD []) = Text.trim (x.getD y) := by
    cases x with
    | none => exact (Text.trim_eq_nil_iff.mpr (h rfl)).symm
    | some x => rfl
  have hnil : Blank ([] : Text) := nofun
  by_cases hm : RouteTable.mappings a.proxy = []
  · constructor
    · intro hown _
      obtain ⟨hp, hb⟩ := RouteTable.blank_iff_of_resolveRoutes hm hres
      obtain ⟨hp₀, hb₀⟩ := RouteTable.blank_iff_of_resolveRoutes hm hown
      refine ⟨fun hnone => ?_, fun hnone => ?_⟩
      · rw [hnone] at hp hp₀
        exact hp.mpr (hp₀.mp hnil)
      · rw [hnone] at hb hb₀
        exact hb.mpr (hb₀.mp hnil)
    · intro hleaves
      obtain ⟨hp, hb⟩ := hleaves hm
      rw [Decides, RouteTable.resolveRoutes_congr_trim (hhalf hp) (hhalf hb), hres]
  · refine iff_of_true ?_ fun h => absurd h hm
    obtain ⟨hp, hb⟩ := RouteTable.blank_of_resolveRoutes hm hres
    have hp' : a.proxyPath = none → Blank s.proxyPath := fun h => by rwa [h] at hp
    have hb' : a.proxyBackend = none → Blank s.proxyBackend := fun h => by rwa [h] at hb
    rw [Decides, RouteTable.resolveRoutes_congr_trim (hhalf hp') (hhalf hb'), hres]

/-- The options that are given decide their component, unless the settings file has a say. -/
theorem decides_iff (h : Settings.resolve t base (a.apply s) = .ok c) (hk : a.Gives k) :
    Decides t base a c k ↔ LeavesTo t base a s k := by
  obtain ⟨path, hres⟩ := Settings.exists_resolved h
  have hserves : (a.apply s).Serves base path :=
    Settings.serves_iff.mpr (Settings.resolveSource_path hres.source)
  obtain ⟨port, file, happly, hport, hfile⟩ := exists_apply a s
  cases k with
  | bindAddress =>
    obtain ⟨b, hb⟩ := Option.ne_none_iff_exists'.mp hk
    refine iff_of_true ⟨b, hb, ?_⟩ trivial
    rw [hres.bindAddress, happly, hb]
    rfl
  | port =>
    have hc : c.port = port := by rw [hres.port.2, happly]
    refine iff_of_true ?_ trivial
    rcases hport with hport | ⟨hnone, hport⟩
    · exact .inl (hc ▸ hport)
    · obtain ⟨n, hn⟩ := Option.ne_none_iff_exists'.mp (hk.resolve_left fun ⟨n, hn⟩ => hnone n hn)
      refine .inr ⟨hnone, ?_⟩
      rw [hc, hport, hn]
      rfl
  | directory =>
    obtain ⟨d, hd⟩ := Option.ne_none_iff_exists'.mp hk.1
    -- the positional argument names no file, so the one of the settings file is left
    have hsame : file = s.initialFile := by
      rcases hfile with ⟨f, hf, -⟩ | ⟨-, hfile⟩
      · exact absurd hf (hk.2 f)
      · exact hfile
    exact decides_directory_iff hd (by rw [happly, hd]; rfl) (by rw [happly, hsame]) hserves
      hres.directory
  | protocol =>
    obtain ⟨p, hp⟩ := Option.ne_none_iff_exists'.mp hk
    have hprotocol := hres.protocol
    rw [happly, hp] at hprotocol
    exact iff_of_true ⟨p, hp, hprotocol⟩ trivial
  | tls =>
    obtain ⟨cert, hcert⟩ := Option.ne_none_iff_exists'.mp hk.1
    obtain ⟨key, hkey⟩ := Option.ne_none_iff_exists'.mp hk.2
    have htls := hres.tls
    rw [happly, hcert, hkey] at htls
    exact iff_of_true ⟨cert, key, hcert, hkey, Settings.eq_of_resolveTls_both htls⟩ trivial
  | logFormat =>
    obtain ⟨f, hf⟩ := Option.ne_none_iff_exists'.mp hk
    refine iff_of_true ?_ trivial
    rw [Decides, hres.logFormat, happly, hf]
    rfl
  | routes =>
    have hroutes := hres.routes
    rw [happly] at hroutes
    dsimp only at hroutes
    have hproxy : a.proxy ≠ [] := hk
    rw [if_neg (by simpa using hproxy)] at hroutes
    exact decides_routes_iff hroutes

theorem Decides.same (h₁ : Decides t base a c₁ k) (h₂ : Decides t base a c₂ k) : Same c₁ c₂ k := by
  cases k with
  | bindAddress =>
    obtain ⟨b, hb, h₁⟩ := h₁
    obtain ⟨b', hb', h₂⟩ := h₂
    rw [hb] at hb'
    cases hb'
    exact h₁.trans h₂.symm
  | port =>
    rcases h₁ with h₁ | ⟨hnone, h₁⟩ <;> rcases h₂ with h₂ | ⟨hnone', h₂⟩
    · exact h₁.unique h₂
    · exact absurd h₁ (hnone' _)
    · exact absurd h₂ (hnone _)
    · exact Option.some.inj (h₁.symm.trans h₂)
  | directory =>
    obtain ⟨d, hd, h₁⟩ := h₁
    obtain ⟨d', hd', h₂⟩ := h₂
    rw [hd] at hd'
    cases hd'
    exact Except.ok.inj (h₁.symm.trans h₂)
  | protocol =>
    obtain ⟨p, hp, h₁⟩ := h₁
    obtain ⟨p', hp', h₂⟩ := h₂
    rw [hp] at hp'
    cases hp'
    exact Except.ok.inj (h₁.symm.trans h₂)
  | tls =>
    obtain ⟨cert, key, hcert, hkey, h₁⟩ := h₁
    obtain ⟨cert', key', hcert', hkey', h₂⟩ := h₂
    rw [hcert] at hcert'
    rw [hkey] at hkey'
    cases hcert'
    cases hkey'
    exact h₁.trans h₂.symm
  | logFormat => exact Option.some.inj (h₁.symm.trans h₂)
  | routes => exact Except.ok.inj (h₁.symm.trans h₂)

/-! ### Two runs -/

/-- What the options decide is the same whatever the settings file says, and it is what the options
alone make of it, exactly when neither settings file has a say. All components but two are decided
in any case. -/
theorem override_iff (h₁ : Settings.resolve t base (a.apply s₁) = .ok c₁)
    (h₂ : Settings.resolve t base (a.apply s₂) = .ok c₂) (hk : a.Gives k) :
    (Decides t base a c₁ k ∧ Decides t base a c₂ k ∧ Same c₁ c₂ k ↔
      LeavesTo t base a s₁ k ∧ LeavesTo t base a s₂ k) ∧
    (k ≠ .directory → k ≠ .routes → LeavesTo t base a s₁ k ∧ LeavesTo t base a s₂ k) := by
  constructor
  · rw [← decides_iff h₁ hk, ← decides_iff h₂ hk]
    exact ⟨fun h => ⟨h.1, h.2.1⟩, fun h => ⟨h.1, h.2, h.1.same h.2⟩⟩
  · intro hd hr
    cases k with
    | directory => exact absurd rfl hd
    | routes => exact absurd rfl hr
    | _ => exact ⟨trivial, trivial⟩

/-- Two directories, with a page in the first. -/
def siteTree : FileTree :=
  ⟨[([Utf8.encode ['a']], .directory), ([Utf8.encode ['b']], .directory),
    ([Utf8.encode ['a'], Utf8.encode "x.html".toList], .file [] ⟨0, 0⟩)]⟩

/-- The second directory, as the command line names it. -/
def ofDirectory : CommandLine := { empty with directory := some "/b".toList }

theorem gives_ofDirectory : ofDirectory.Gives .directory := by
  refine ⟨nofun, ?_⟩
  rintro file ⟨-, t, ht, -⟩
  cases ht

/-- The second directory is served, whichever of the two the settings file names. -/
theorem override_iff_directory :
    ∃ c₁ c₂, Settings.resolve siteTree [] (ofDirectory.apply Settings.default) = .ok c₁ ∧
      Settings.resolve siteTree []
        (ofDirectory.apply { Settings.default with directory := "/a".toList }) = .ok c₂ ∧
      Decides siteTree [] ofDirectory c₁ .directory ∧ Same c₁ c₂ .directory ∧
      c₁.dispatch.directory = Utf8.encode "/b".toList := by
  obtain ⟨c₁, h₁, hdir⟩ : ∃ c₁,
      Settings.resolve siteTree [] (ofDirectory.apply Settings.default) = .ok c₁ ∧
      c₁.dispatch.directory = Utf8.encode "/b".toList := ⟨_, by rfl, by rfl⟩
  obtain ⟨c₂, h₂⟩ : ∃ c₂, Settings.resolve siteTree []
      (ofDirectory.apply { Settings.default with directory := "/a".toList }) = .ok c₂ :=
    ⟨_, by rfl⟩
  -- neither has an initial file
  have hleaves {s : Settings} (hs : s.initialFile = none) :
      LeavesTo siteTree [] ofDirectory s .directory := by
    rintro d file path - ⟨-, -, x, y, hfile, -⟩
    rw [hs] at hfile
    cases hfile
  obtain ⟨hown, -, hsame⟩ :=
    (override_iff h₁ h₂ gives_ofDirectory).1.mpr ⟨hleaves rfl, hleaves rfl⟩
  exact ⟨c₁, c₂, h₁, h₂, hown, hsame, hdir⟩

/-- With the page of the first directory as the initial file of the settings file, the first
directory is served. -/
theorem not_forall_decides :
    ¬ ∀ t base a s₁ s₂ c₁ c₂ k, Settings.resolve t base (a.apply s₁) = .ok c₁ →
      Settings.resolve t base (a.apply s₂) = .ok c₂ → Gives a k →
        Decides t base a c₁ k ∧ Decides t base a c₂ k ∧ Same c₁ c₂ k := by
  intro hall
  obtain ⟨c₁, h₁, hdir₁⟩ : ∃ c₁, Settings.resolve siteTree []
      (ofDirectory.apply { Settings.default with initialFile := some "/a/x.html".toList }) =
        .ok c₁ ∧ c₁.dispatch.directory = Utf8.encode "/a".toList := ⟨_, by rfl, by rfl⟩
  obtain ⟨c₂, h₂, hdir₂⟩ : ∃ c₂,
      Settings.resolve siteTree [] (ofDirectory.apply Settings.default) = .ok c₂ ∧
      c₂.dispatch.directory = Utf8.encode "/b".toList := ⟨_, by rfl, by rfl⟩
  have hsame : c₁.dispatch.directory = c₂.dispatch.directory :=
    (hall _ _ _ _ _ _ _ .directory h₁ h₂ gives_ofDirectory).2.2
  rw [hdir₁, hdir₂] at hsame
  cases hsame

end CommandLine

end SiteGateway
