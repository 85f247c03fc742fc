import SiteGateway.Proofs.Route.Backend
import SiteGateway.Proofs.Route.Selection
import SiteGateway.Proofs.Settings.Written

/-!
# The checks of the settings

Settings are resolved by seven checks, each of which accepts or rejects them by itself
(`Settings.Accepts`, `Settings.Rejects`). Resolving makes the checks one after the other
(`outcome_resolve`), so settings are resolved exactly when all checks accept them, and else the
first check that rejects them says why (`resolve_exact`).
-/

namespace SiteGateway

open FileTree (pathOf)

namespace Settings

/-- What is checked. -/
inductive Check
  | initialFile | directory | protocol | port | maxConnections | tls | routes
deriving DecidableEq, Repr

/-- The checks in the order in which they are made. -/
def Check.order : List Check :=
  [.initialFile, .directory, .protocol, .port, .maxConnections, .tls, .routes]

theorem Check.mem_order (k : Check) : k ∈ order := by cases k <;> decide

/-- The path leads to something. -/
def Found (t : FileTree) (base : Place) (path : Bytes) : Prop :=
  ∃ q e, t.locate base path = .ok q ∧ t.entry? q = some e

/-- The last name of the path has the extension. -/
def PathExtension (path extension : Bytes) : Prop :=
  ∃ front n, path = front ++ 0x2F :: n ∧ 0x2F ∉ n ∧ FileName.Extension n extension

/-- What a check asks for. -/
def Accepts (t : FileTree) (base : Place) (s : Settings) : Check → Prop
  | .initialFile => ∀ file, s.Gives file → ∃ q e extension,
      t.locate base (absolutePath base file) = .ok q ∧ t.entry? q = some e ∧ e ≠ .directory ∧
      PathExtension (absolutePath base file) extension ∧
      Text.lower (Utf8.decodeLossy extension) ∈ initialExtensions
  | .directory => ∃ path p, s.Serves base path ∧ t.locate base path = .ok p ∧
      t.entry? p = some .directory
  | .protocol => ∃ p : Protocol, Text.upper (Text.trim s.protocol) = p.text.toList
  | .port => s.port ≠ 0
  | .maxConnections => s.maxConnections ≠ 0
  | .tls => (s.tlsCert = none ∧ s.tlsKey = none) ∨ ∃ cert key, s.tlsCert = some cert ∧
      s.tlsKey = some key ∧ Found t base (Utf8.encode cert) ∧ Found t base (Utf8.encode key)
  | .routes => ∃ table, resolveRoutes s.proxy s.proxyPath s.proxyBackend = .ok table

/-- Why a check fails. -/
inductive Rejects (t : FileTree) (base : Place) (s : Settings) : Check → ConfigError → Prop
  | noFile {file : Text} {fault : FileFault} (hf : s.Gives file)
      (h : t.kind base (absolutePath base file) = .error fault) :
      Rejects t base s .initialFile (.io (Utf8.decodeLossy (absolutePath base file)) fault)
  | isDirectory {file : Text} (hf : s.Gives file)
      (h : t.kind base (absolutePath base file) = .ok .directory) :
      Rejects t base s .initialFile (.invalid
        ("initial file is a directory: ".toList ++ Utf8.decodeLossy (absolutePath base file)))
  | extension {file : Text} {e : FileEntry} {extension : Bytes} (hf : s.Gives file)
      (h : t.kind base (absolutePath base file) = .ok e) (he : e ≠ .directory)
      (hx : PathExtension (absolutePath base file) extension)
      (hn : Text.lower (Utf8.decodeLossy extension) ∉ initialExtensions) :
      Rejects t base s .initialFile (.invalid
        ("unsupported initial file extension .".toList ++ Text.lower (Utf8.decodeLossy extension)))
  | noDirectory {path : Bytes} {fault : FileFault} (hp : s.Serves base path)
      (h : t.locate base path = .error fault) :
      Rejects t base s .directory (.io (Utf8.decodeLossy path) fault)
  | notDirectory {path : Bytes} {p : Place} (hp : s.Serves base path)
      (h : t.locate base path = .ok p) (hd : t.entry? p ≠ some .directory) :
      Rejects t base s .directory
        (.invalid ("path is not a directory: ".toList ++ Utf8.decodeLossy (pathOf p)))
  | protocol (h : ∀ p : Protocol, Text.upper (Text.trim s.protocol) ≠ p.text.toList) :
      Rejects t base s .protocol
        (.invalid ("unsupported protocol ".toList ++ Text.upper (Text.trim s.protocol)))
  | port (h : s.port = 0) : Rejects t base s .port (.invalid "invalid port 0".toList)
  | maxConnections (h : s.maxConnections = 0) :
      Rejects t base s .maxConnections (.invalid "max_connections must be at least 1".toList)
  | oneOfTwo (h : s.tlsCert.isSome ≠ s.tlsKey.isSome) :
      Rejects t base s .tls (.invalid "tls certificate and key must be provided together".toList)
  | noCert {cert key : Text} {fault : FileFault} (hc : s.tlsCert = some cert)
      (hk : s.tlsKey = some key) (h : t.kind base (Utf8.encode cert) = .error fault) :
      Rejects t base s .tls (.io cert fault)
  | noKey {cert key : Text} {fault : FileFault} (hc : s.tlsCert = some cert)
      (hk : s.tlsKey = some key) (hf : Found t base (Utf8.encode cert))
      (h : t.kind base (Utf8.encode key) = .error fault) : Rejects t base s .tls (.io key fault)
  | routes {e : ConfigError} (h : resolveRoutes s.proxy s.proxyPath s.proxyBackend = .error e) :
      Rejects t base s .routes e

variable {t : FileTree} {base : Place} {s : Settings} {c : ServerConfiguration} {e : ConfigError}
  {file : Text} {path extension : Bytes}

theorem found_iff : Found t base path ↔ ∃ e, t.kind base path = .ok e := by
  simp only [Found, FileTree.kind_eq_ok_iff]
  exact exists_comm

/-- What one check says. -/
def verdict (t : FileTree) (base : Place) (s : Settings) : Check → Except ConfigError Unit
  | .initialFile => (resolveSource t base s).outcome
  | .directory => (resolveDirectory t base (servedPath base s)).outcome
  | .protocol => ((Protocol.parse s.protocol).mapError fun up =>
      ConfigError.invalid (Protocol.unknownMessage up)).outcome
  | .port => if s.port = 0 then .error (.invalid "invalid port 0".toList) else .ok ()
  | .maxConnections =>
    if s.maxConnections = 0 then .error (.invalid "max_connections must be at least 1".toList)
    else .ok ()
  | .tls => (resolveTls t base s.tlsCert s.tlsKey).outcome
  | .routes => (resolveRoutes s.proxy s.proxyPath s.proxyBackend).outcome

/-! ### The initial file -/

/-- A path that leads to a file ends in a name, and the extension is that of the name. -/
theorem pathExtension_iff {entry : FileEntry}
    (hbase : ∀ e, t.kind base (pathOf base) = .ok e → e = .directory)
    (h : t.kind base (absolutePath base file) = .ok entry) (he : entry ≠ .directory) :
    PathExtension (absolutePath base file) extension ↔ extension =
      ((FileName.ofPath? (absolutePath base file)).bind FileName.extension?).getD [] := by
  obtain ⟨front, n, h₀, h₁, hslash, hpath⟩ := exists_name_of_kind hbase h he
  have hnoSlash : 0x2F ∉ Utf8.encode n := noSlash_encode hslash
  have hname : PathExtension (absolutePath base file) extension ↔
      FileName.Extension (Utf8.encode n) extension := by
    rw [hpath]
    constructor
    · rintro ⟨front', n', hpath', hn', hx⟩
      rwa [(FileTree.append_slash_inj hnoSlash hn' hpath').2]
    · exact fun hx => ⟨front, _, rfl, hnoSlash, hx⟩
  have hne : Utf8.encode n ≠ [] := fun h => h₀ (Utf8.encode_inj (t := []) |>.mp h)
  have hdot : Utf8.encode n ≠ [0x2E] := fun h => h₁ (Utf8.encode_inj (t := ['.']) |>.mp h)
  rw [hname, FileName.extension_iff, hpath, FileName.ofPath?_append_slash front hnoSlash hne hdot]
  split
  next hdots => rw [hdots]; rfl
  next => rfl

/-- The extension of a path that leads to a file decides. -/
theorem resolveInitialFile_of_kind {entry : FileEntry}
    (hbase : ∀ e, t.kind base (pathOf base) = .ok e → e = .directory)
    (h : t.kind base (absolutePath base file) = .ok entry) (he : entry ≠ .directory)
    (hx : PathExtension (absolutePath base file) extension) :
    (resolveInitialFile t base file).outcome =
      if Text.lower (Utf8.decodeLossy extension) ∈ initialExtensions then .ok ()
      else .error (.invalid ("unsupported initial file extension .".toList ++
        Text.lower (Utf8.decodeLossy extension))) := by
  obtain rfl := (pathExtension_iff hbase h he).mp hx
  rw [resolveInitialFile]
  simp only [h, List.contains_iff_mem]
  split <;> rfl

theorem verdict_initialFile (hf : s.Gives file) :
    verdict t base s .initialFile = (resolveInitialFile t base file).outcome := by
  rw [verdict, resolveSource, givenInitialFile_eq_some_iff.mpr hf]
  exact Except.outcome_map _

/-! ### Certificate and key -/

theorem resolveTls_both (cert key : Text) :
    resolveTls t base (some cert) (some key) =
      match t.kind base (Utf8.encode cert), t.kind base (Utf8.encode key) with
      | .error fault, _ => .error (.io cert fault)
      | .ok _, .error fault => .error (.io key fault)
      | .ok _, .ok _ => .ok (some ⟨cert, key⟩) := by
  cases hc : t.kind base (Utf8.encode cert) with
  | error fault => simp [resolveTls, hc]; rfl
  | ok e =>
    cases hk : t.kind base (Utf8.encode key) with
    | error fault => simp [resolveTls, hc, hk]; rfl
    | ok e' => simp [resolveTls, hc, hk]; rfl

theorem eq_of_resolveTls_both {cert key : Text} {tls : Option TlsPaths}
    (h : resolveTls t base (some cert) (some key) = .ok tls) : tls = some ⟨cert, key⟩ := by
  rw [resolveTls_both] at h
  split at h
  · cases h
  · cases h
  · exact (Except.ok.inj h).symm

/-! ### One check at a time -/

theorem accepts_or_rejects_initialFile
    (hbase : ∀ e, t.kind base (pathOf base) = .ok e → e = .directory) :
    Accepts t base s .initialFile ∨ ∃ e, Rejects t base s .initialFile e := by
  cases hgiven : s.givenInitialFile with
  | none =>
    refine .inl fun file hf => ?_
    rw [← givenInitialFile_eq_some_iff, hgiven] at hf
    cases hf
  | some file =>
    have hf := givenInitialFile_eq_some_iff.mp hgiven
    cases hkind : t.kind base (absolutePath base file) with
    | error fault => exact .inr ⟨_, .noFile hf hkind⟩
    | ok entry =>
      by_cases he : entry = .directory
      · subst he
        exact .inr ⟨_, .isDirectory hf hkind⟩
      have hx := (pathExtension_iff hbase hkind he).mpr rfl
      by_cases hn : Text.lower (Utf8.decodeLossy (((FileName.ofPath? (absolutePath base file)).bind
          FileName.extension?).getD [])) ∈ initialExtensions
      · refine .inl fun file' hf' => ?_
        rw [← givenInitialFile_eq_some_iff, hgiven] at hf'
        cases hf'
        obtain ⟨q, hq, hqe⟩ := FileTree.kind_eq_ok_iff.mp hkind
        exact ⟨q, entry, _, hq, hqe, he, hx, hn⟩
      · exact .inr ⟨_, .extension hf hkind he hx hn⟩

theorem accepts_or_rejects_tls (t : FileTree) (base : Place) (s : Settings) :
    Accepts t base s .tls ∨ ∃ e, Rejects t base s .tls e := by
  cases hc : s.tlsCert with
  | none =>
    cases hk : s.tlsKey with
    | none => exact .inl (.inl ⟨hc, hk⟩)
    | some key => exact .inr ⟨_, .oneOfTwo (by simp [hc, hk])⟩
  | some cert =>
    cases hk : s.tlsKey with
    | none => exact .inr ⟨_, .oneOfTwo (by simp [hc, hk])⟩
    | some key =>
      cases hcert : t.kind base (Utf8.encode cert) with
      | error fault => exact .inr ⟨_, .noCert hc hk hcert⟩
      | ok e =>
        have hfound : Found t base (Utf8.encode cert) := found_iff.mpr ⟨e, hcert⟩
        cases hkey : t.kind base (Utf8.encode key) with
        | error fault => exact .inr ⟨_, .noKey hc hk hfound hkey⟩
        | ok e' => exact .inl (.inr ⟨cert, key, hc, hk, hfound, found_iff.mpr ⟨e', hkey⟩⟩)

theorem accepts_or_rejects (hbase : ∀ e, t.kind base (pathOf base) = .ok e → e = .directory)
    (k : Check) : Accepts t base s k ∨ ∃ e, Rejects t base s k e := by
  cases k with
  | initialFile => exact accepts_or_rejects_initialFile hbase
  | directory =>
    have hserves : s.Serves base (servedPath base s) := serves_iff.mpr rfl
    cases hlocate : t.locate base (servedPath base s) with
    | error fault => exact .inr ⟨_, .noDirectory hserves hlocate⟩
    | ok p =>
      by_cases hd : t.entry? p = some .directory
      · exact .inl ⟨_, p, hserves, hlocate, hd⟩
      · exact .inr ⟨_, .notDirectory hserves hlocate hd⟩
  | protocol =>
    by_cases h : ∃ p : Protocol, Text.upper (Text.trim s.protocol) = p.text.toList
    · exact .inl h
    · exact .inr ⟨_, .protocol fun p hp => h ⟨p, hp⟩⟩
  | port =>
    by_cases h : s.port = 0
    · exact .inr ⟨_, .port h⟩
    · exact .inl h
  | maxConnections =>
    by_cases h : s.maxConnections = 0
    · exact .inr ⟨_, .maxConnections h⟩
    · exact .inl h
  | tls => exact accepts_or_rejects_tls t base s
  | routes =>
    cases h : resolveRoutes s.proxy s.proxyPath s.proxyBackend with
    | error e => exact .inr ⟨e, .routes h⟩
    | ok table => exact .inl ⟨table, h⟩

theorem verdict_of_accepts (hbase : ∀ e, t.kind base (pathOf base) = .ok e → e = .directory)
    {k : Check} (h : Accepts t base s k) : verdict t base s k = .ok () := by
  cases k with
  | initialFile =>
    cases hgiven : s.givenInitialFile with
    | none =>
      rw [verdict, resolveSource, hgiven]
      rfl
    | some file =>
      have hf := givenInitialFile_eq_some_iff.mp hgiven
      obtain ⟨q, e, x, hq, hqe, he, hx, hmem⟩ := h file hf
      have hkind := FileTree.kind_eq_ok_iff.mpr ⟨q, hq, hqe⟩
      rw [verdict_initialFile hf, resolveInitialFile_of_kind hbase hkind he hx, if_pos hmem]
  | directory =>
    obtain ⟨path, p, hserves, hp, hd⟩ := h
    obtain rfl := serves_iff.mp hserves
    rw [verdict, resolveDirectory, hp]
    dsimp only
    rw [if_pos hd]
    rfl
  | protocol =>
    obtain ⟨p, hp⟩ := h
    rw [verdict, Protocol.parse, hp]
    cases p <;> rfl
  | port => exact if_neg h
  | maxConnections => exact if_neg h
  | tls =>
    rcases h with ⟨hc, hk⟩ | ⟨cert, key, hc, hk, hcert, hkey⟩
    · rw [verdict, hc, hk]
      rfl
    · obtain ⟨e, he⟩ := found_iff.mp hcert
      obtain ⟨e', he'⟩ := found_iff.mp hkey
      rw [verdict, hc, hk, resolveTls_both, he, he']
      rfl
  | routes =>
    obtain ⟨table, htable⟩ := h
    rw [verdict, htable]
    rfl

theorem verdict_of_rejects (hbase : ∀ e, t.kind base (pathOf base) = .ok e → e = .directory)
    {k : Check} (h : Rejects t base s k e) : verdict t base s k = .error e := by
  cases h with
  | noFile hf h =>
    rw [verdict_initialFile hf, resolveInitialFile, h]
    rfl
  | isDirectory hf h =>
    rw [verdict_initialFile hf, resolveInitialFile, h]
    rfl
  | extension hf h he hx hn =>
    rw [verdict_initialFile hf, resolveInitialFile_of_kind hbase h he hx, if_neg hn]
  | noDirectory hp h =>
    obtain rfl := serves_iff.mp hp
    rw [verdict, resolveDirectory, h]
    rfl
  | notDirectory hp h hd =>
    obtain rfl := serves_iff.mp hp
    rw [verdict, resolveDirectory, h]
    dsimp only
    rw [if_neg hd]
    rfl
  | protocol h =>
    have hparse : Protocol.parse s.protocol = .error (Text.upper (Text.trim s.protocol)) := by
      unfold Protocol.parse
      exact (if_neg (h .http10)).trans (if_neg (h .http11))
    rw [verdict, hparse]
    rfl
  | port h => exact if_pos h
  | maxConnections h => exact if_pos h
  | oneOfTwo h =>
    rw [verdict]
    cases hc : s.tlsCert <;> cases hk : s.tlsKey <;> rw [hc, hk] at h
    · exact absurd rfl h
    · rfl
    · rfl
    · exact absurd rfl h
  | noCert hc hk h =>
    rw [verdict, hc, hk, resolveTls_both, h]
    rfl
  | noKey hc hk hf h =>
    obtain ⟨e, he⟩ := found_iff.mp hf
    rw [verdict, hc, hk, resolveTls_both, he, h]
    rfl
  | routes h =>
    rw [verdict, h]
    rfl

theorem verdict_eq_ok_iff (hbase : ∀ e, t.kind base (pathOf base) = .ok e → e = .directory)
    {k : Check} : verdict t base s k = .ok () ↔ Accepts t base s k := by
  refine ⟨fun h => ?_, verdict_of_accepts hbase⟩
  rcases accepts_or_rejects (s := s) hbase k with ha | ⟨e, hr⟩
  · exact ha
  · rw [verdict_of_rejects hbase hr] at h
    cases h

theorem verdict_eq_error_iff (hbase : ∀ e, t.kind base (pathOf base) = .ok e → e = .directory)
    {k : Check} : verdict t base s k = .error e ↔ Rejects t base s k e := by
  refine ⟨fun h => ?_, verdict_of_rejects hbase⟩
  rcases accepts_or_rejects (s := s) hbase k with ha | ⟨e', hr⟩
  · rw [verdict_of_accepts hbase ha] at h
    cases h
  · rw [verdict_of_rejects hbase hr] at h
    cases h
    exact hr

/-! ### All checks -/

/-- Resolving makes the checks in their order. -/
theorem outcome_resolve (t : FileTree) (base : Place) (s : Settings) :
    (resolve t base s).outcome = (Check.order.mapM (verdict t base s)).outcome := by
  unfold resolve
  simp only [Check.order, Except.outcome_mapM_cons]
  refine Except.outcome_bind rfl fun ⟨path, name⟩ hsource => ?_
  obtain rfl := resolveSource_path hsource
  refine Except.outcome_bind rfl fun directory _ => ?_
  refine Except.outcome_bind rfl fun protocol _ => ?_
  dsimp only [verdict]
  by_cases hport : s.port = 0
  · rw [if_pos hport, if_pos hport]
    rfl
  rw [if_neg hport, if_neg hport]
  by_cases hmax : s.maxConnections = 0
  · rw [if_pos hmax, if_pos hmax]
    rfl
  rw [if_neg hmax, if_neg hmax]
  change _ = (verdict t base s .tls).bind fun _ => (verdict t base s .routes).bind fun _ => .ok ()
  refine Except.outcome_bind rfl fun tls _ => ?_
  exact Except.outcome_bind rfl fun routes _ => rfl

/-- What every later component relies on. -/
structure Sound (t : FileTree) (base : Place) (s : Settings) (c : ServerConfiguration) : Prop where
  directory : ∃ path p, s.Serves base path ∧ t.locate base path = .ok p ∧ t.Canonical p ∧
    t.entry? p = some .directory ∧ c.dispatch.directory = pathOf p
  noInitialFile : (∀ file, ¬ s.Gives file) → c.dispatch.initialFile = none
  initialFile : ∀ file, s.Gives file → ∃ name p q, c.dispatch.initialFile = some name ∧
    ProperName name ∧ c.dispatch.directory = pathOf p ∧ t.Leads p (Utf8.encode name) q ∧
    t.locate base (absolutePath base file) = .ok q ∧
    (∀ q', t.locate base (Utf8.encode file) = .ok q' → q' = q) ∧
    ∀ base', FileTree.Openable (SiteRoot.join c.dispatch.directory (Utf8.encode name)) →
      t.locate base' (SiteRoot.join c.dispatch.directory (Utf8.encode name)) = .ok q
  listing : ¬ (c.dispatch.disableListing = true ∧ c.dispatch.browse = true)
  routes : c.dispatch.routes.Ordered
  route : ∀ r ∈ c.dispatch.routes.routes, r.pathPrefix.head? = some '/' ∧
    (r.backend.scheme = "http".toList ∨ r.backend.scheme = "https".toList) ∧
    ∃ host, r.backend.host = some host ∧ host.text ≠ []

theorem directory_of_kind_pathOf (hb : t.Canonical base) (hd : t.entry? base = some .directory) :
    ∀ e, t.kind base (pathOf base) = .ok e → e = .directory := by
  intro e h
  obtain ⟨q, hq, he⟩ := FileTree.kind_eq_ok_iff.mp h
  rw [hb.eq_of_locate_pathOf hq, hd] at he
  exact (Option.some.inj he).symm

theorem sound_of_resolve (hb : t.Canonical base) (hd : t.entry? base = some .directory)
    (h : resolve t base s = .ok c) : Sound t base s c := by
  obtain ⟨path, hres⟩ := exists_resolved h
  obtain ⟨p, hp, hpd, hdir⟩ := resolveDirectory_eq_ok hres.directory
  have hbuilt := RouteTable.Built.of_resolveRoutes hres.routes
  constructor
  · exact ⟨path, p, serves_iff.mpr (resolveSource_path hres.source), hp, hb.of_locate hp, hpd, hdir⟩
  · intro hnone
    have hgiven : s.givenInitialFile = none :=
      Option.eq_none_iff_forall_ne_some.mpr fun file hf =>
        hnone file (givenInitialFile_eq_some_iff.mp hf)
    have hsource := hres.source
    rw [resolveSource, hgiven] at hsource
    exact (Prod.mk.inj (Except.ok.inj hsource)).2.symm
  · intro file hf
    obtain ⟨name, hname, hfile⟩ := hres.initialFile (givenInitialFile_eq_some_iff.mpr hf)
    obtain ⟨hproper, p', q, -, hq, -, -, hleads, hp'⟩ :=
      of_resolveInitialFile (directory_of_kind_pathOf hb hd) hfile
    obtain rfl : p' = p := Except.ok.inj (hp'.symm.trans hp)
    refine ⟨name, p', q, hname, hproper, hdir, hleads, hq, fun q' hq' =>
      locate_absolutePath hb hq hq', fun base' ho => ?_⟩
    rw [hdir] at ho ⊢
    exact hleads.locate_join (noSlash_encode hproper.noSlash) ho
  · rw [hres.disableListing, hres.browse, Bool.and_eq_true, Bool.not_eq_true']
    rintro ⟨⟨-, hbrowse⟩, hbrowse'⟩
    rw [hbrowse] at hbrowse'
    cases hbrowse'
  · exact hbuilt.ordered
  · intro r hr
    obtain ⟨q, hq⟩ := hbuilt.pathPrefix_eq r hr
    obtain ⟨_, _, hparts⟩ := hbuilt.exists_ofParts r hr
    obtain ⟨host, hhost, hnormal⟩ := (Route.backend_proper hparts).host
    exact ⟨by rw [hq]; rfl, Route.backend_scheme hparts, host, hhost, hnormal.text_ne_nil⟩

/-- Settings are resolved exactly when every check accepts them; else the first check that rejects
them, in the order of the checks, gives the error. What they are resolved to is sound. -/
theorem resolve_exact (hb : t.Canonical base) (hd : t.entry? base = some .directory) :
    ((∃ c, resolve t base s = .ok c) ↔ ∀ k, Accepts t base s k) ∧
    (∀ e, resolve t base s = .error e ↔ ∃ front k back, Check.order = front ++ k :: back ∧
      (∀ j ∈ front, Accepts t base s j) ∧ Rejects t base s k e) ∧
    ∀ c, resolve t base s = .ok c → Sound t base s c := by
  have hbase := directory_of_kind_pathOf hb hd
  have houtcome := outcome_resolve t base s
  have hunit {k : Check} : (∃ u, verdict t base s k = .ok u) ↔ Accepts t base s k :=
    (exists_const Unit).trans (verdict_eq_ok_iff hbase)
  refine ⟨?_, fun e => ?_, fun c => sound_of_resolve hb hd⟩
  · rw [← Except.outcome_eq_ok_iff, houtcome, Except.outcome_eq_ok_iff,
      Except.exists_mapM_eq_ok_iff]
    simp only [hunit, Check.mem_order, true_imp_iff]
  · rw [← Except.outcome_eq_error_iff, houtcome, Except.outcome_eq_error_iff,
      Except.mapM_eq_error_iff]
    simp only [hunit, verdict_eq_error_iff hbase]

/-- The directory in which the page stands. -/
def pagePlace : Place := [Utf8.encode "srv".toList]

/-- A directory with one page. -/
def pageTree : FileTree :=
  ⟨[(pagePlace, .directory), (pagePlace ++ [Utf8.encode "a.HTML".toList], .file [] ⟨0, 0⟩)]⟩

/-- The page as the initial file, a route, and listings both banned and asked for. -/
def pageSettings : Settings :=
  { default with
    initialFile := some " ./a.HTML ".toList
    proxy := ["/api=http://h".toList]
    browse := true
    disableListing := true }

theorem canonical_pagePlace : pageTree.Canonical pagePlace :=
  FileTree.Canonical.top.concat
    ⟨rfl, ⟨by decide, by decide, by decide, by decide⟩, .directory, rfl, nofun⟩ (by decide)

/-- Every check accepts the page, and it is found by its name in its directory. -/
theorem resolve_exact_page :
    pageTree.Canonical pagePlace ∧ pageTree.entry? pagePlace = some .directory ∧
      (∀ k, Accepts pageTree pagePlace pageSettings k) ∧
      ∃ c, resolve pageTree pagePlace pageSettings = .ok c ∧
        Sound pageTree pagePlace pageSettings c ∧
        c.dispatch.initialFile = some "a.HTML".toList ∧ c.dispatch.disableListing = false := by
  have hexact := resolve_exact (s := pageSettings) canonical_pagePlace rfl
  obtain ⟨c, hc, hname, hlisting⟩ : ∃ c, resolve pageTree pagePlace pageSettings = .ok c ∧
      c.dispatch.initialFile = some "a.HTML".toList ∧ c.dispatch.disableListing = false :=
    ⟨_, by rfl, by rfl, by rfl⟩
  exact ⟨canonical_pagePlace, rfl, hexact.1.mp ⟨c, hc⟩, c, hc, hexact.2.2 c hc, hname, hlisting⟩

end Settings

end SiteGateway
