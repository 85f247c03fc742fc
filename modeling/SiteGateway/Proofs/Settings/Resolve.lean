import SiteGateway.Proofs.Except
import SiteGateway.Settings.Resolve

/-!
# What a resolved configuration went through

`Settings.exists_resolved` takes a successful resolution apart into its checks, all of which the
settings have passed.
-/

namespace SiteGateway

namespace Settings
variable {t : FileTree} {base : Place} {s : Settings} {c : ServerConfiguration}

/-- The settings have passed every check, and the configuration holds what the checks gave. -/
structure Resolved (t : FileTree) (base : Place) (s : Settings) (directory : Bytes)
    (c : ServerConfiguration) : Prop where
  source : resolveSource t base s = .ok (directory, c.dispatch.initialFile)
  directory : resolveDirectory t base directory = .ok c.dispatch.directory
  protocol : Protocol.parse s.protocol = .ok c.protocol
  bindAddress : c.bindAddress = Text.trim s.bindAddress
  port : s.port ≠ 0 ∧ c.port = s.port
  maxConnections : s.maxConnections ≠ 0 ∧ c.maxConnections = s.maxConnections
  tls : resolveTls t base s.tlsCert s.tlsKey = .ok c.tls
  routes : resolveRoutes s.proxy s.proxyPath s.proxyBackend = .ok c.dispatch.routes
  markdown : c.dispatch.markdown = s.markdown
  browse : c.dispatch.browse = s.browse
  disableListing : c.dispatch.disableListing = (s.disableListing && !s.browse)
  logFormat : c.logFormat = s.logFormat

theorem exists_resolved (h : resolve t base s = .ok c) :
    ∃ directory, Resolved t base s directory c := by
  unfold resolve at h
  obtain ⟨⟨directory₀, initialFile⟩, hsource, h⟩ := Except.bind_eq_ok_iff.mp h
  obtain ⟨directory, hdir, h⟩ := Except.bind_eq_ok_iff.mp h
  obtain ⟨protocol, hp, h⟩ := Except.bind_eq_ok_iff.mp h
  dsimp only at h
  split at h
  · cases h
  · rename_i hport
    split at h
    · cases h
    · rename_i hmax
      obtain ⟨tls, htls, h⟩ := Except.bind_eq_ok_iff.mp h
      obtain ⟨routes, hroutes, h⟩ := Except.bind_eq_ok_iff.mp h
      cases h
      exact ⟨directory₀, hsource, hdir, Except.mapError_eq_ok_iff.mp hp, rfl, ⟨hport, rfl⟩,
        ⟨hmax, rfl⟩, htls, hroutes, rfl, rfl, rfl, rfl⟩

theorem resolveDirectory_eq_ok {path directory : Bytes}
    (h : resolveDirectory t base path = .ok directory) :
    ∃ p, t.locate base path = .ok p ∧ t.entry? p = some .directory ∧
      directory = FileTree.pathOf p := by
  unfold resolveDirectory at h
  split at h
  · cases h
  · rename_i p hp
    dsimp only at h
    split at h
    · rename_i hd
      cases h
      exact ⟨p, hp, hd, rfl⟩
    · cases h

/-- The file that a configuration's initial file was given by. -/
theorem Resolved.initialFile {directory : Bytes} {file : Text} (h : Resolved t base s directory c)
    (hf : s.givenInitialFile = some file) :
    ∃ name, c.dispatch.initialFile = some name ∧
      resolveInitialFile t base file = .ok (directory, name) := by
  have hsource := h.source
  rw [resolveSource, hf] at hsource
  obtain ⟨⟨directory, name⟩, hfile, he⟩ := Except.map_eq_ok_iff.mp hsource
  obtain ⟨rfl, hname⟩ := Prod.mk.inj he
  exact ⟨name, hname.symm, hfile⟩

end Settings

end SiteGateway
