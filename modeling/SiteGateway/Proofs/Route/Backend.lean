import SiteGateway.Proofs.Route.Built
import SiteGateway.Proofs.Text.Trim
import SiteGateway.Proofs.Url.Authority
import SiteGateway.Proxy.Tunnel

/-!
# The backend of a route

A backend that is accepted is a URL with scheme `http` or `https` in the form in which it is read
(`Route.backend_proper`). Its authority after its scheme is accepted in turn, and everything but
scheme, host and port is lost on the way (`Route.ofParts_authority`). So whatever stands around the
authority of a mapping has no part in where a tunnel leads, and the address that is dialled names
the host that the authority shows (`Route.dial_authority`).
-/

namespace SiteGateway

namespace Route
variable {p b : Text} {u : Url} {route : Route}

theorem schemeKind_eq (h : u.scheme = "http".toList ∨ u.scheme = "https".toList) :
    Url.schemeKind u.scheme = .network := by
  rcases h with hs | hs <;> rw [hs] <;> decide

/-- No host holds a slash, so that it is never refused for two of them. -/
theorem hasInfix_hostText (hu : Url.parse? b = some u)
    (hs : u.scheme = "http".toList ∨ u.scheme = "https".toList) :
    Text.hasInfix "//".toList u.hostText = false := by
  rw [Bool.eq_false_iff, ne_eq, Text.hasInfix_iff]
  intro hslashes
  have hmem : '/' ∈ u.authority := List.mem_append_left _ (hslashes.subset (by decide))
  have hchar := (Url.proper_of_parse? hu (schemeKind_eq hs)).hostChar_of_mem_authority hmem
  exact absurd hchar (by decide)

theorem readBackend_eq_ok_iff : readBackend b = .ok u ↔
    Text.trim b ≠ [] ∧ (∃ x, writtenAuthority? b = some x ∧ x ≠ [] ∧ x.getLast? ≠ some ':') ∧
      Url.parse? b = some u ∧ (u.scheme = "http".toList ∨ u.scheme = "https".toList) ∧
      u.hostText ≠ [] := by
  unfold readBackend
  constructor
  · intro h
    split at h
    · cases h
    rename_i hb
    split at h
    · cases h
    rename_i x hx
    split at h
    · cases h
    rename_i hne
    split at h
    · cases h
    rename_i hlast
    split at h
    · cases h
    rename_i hu
    split at h
    · cases h
    rename_i hs
    split at h
    · cases h
    rename_i hhost
    cases h
    rw [List.isEmpty_iff] at hb hne
    rw [Bool.or_eq_true, List.isEmpty_iff] at hhost
    exact ⟨hb, ⟨x, hx, hne, hlast⟩, hu, by tauto, fun hnil => hhost (.inl hnil)⟩
  · rintro ⟨hb, ⟨x, hx, hne, hlast⟩, hu, hs, hhost⟩
    have hs' : ¬ (u.scheme ≠ "http".toList ∧ u.scheme ≠ "https".toList) := by tauto
    simp only [hx, hu, List.isEmpty_iff, Bool.or_eq_true, hasInfix_hostText hu hs, if_neg hb,
      if_neg hne, if_neg hlast, if_neg hs', if_neg hhost, Bool.false_eq_true, or_false]

theorem backend_scheme (h : ofParts p b = .ok route) :
    route.backend.scheme = "http".toList ∨ route.backend.scheme = "https".toList :=
  (readBackend_eq_ok_iff.mp (of_ofParts h).2.2).2.2.2.1

theorem backend_schemeKind (h : ofParts p b = .ok route) :
    Url.schemeKind route.backend.scheme = .network := schemeKind_eq (backend_scheme h)

theorem backend_proper (h : ofParts p b = .ok route) : route.backend.Proper :=
  Url.proper_of_parse? (readBackend_eq_ok_iff.mp (of_ofParts h).2.2).2.2.1 (backend_schemeKind h)

theorem backend_path (h : ofParts p b = .ok route) :
    Url.schemeKind route.backend.scheme = .network ∧
      ∃ ss, route.backend.path = .segments ss ∧ ∀ s ∈ ss, Url.Normal s :=
  ⟨backend_schemeKind h, (backend_proper h).path⟩

theorem writtenAuthority?_authority (h : ofParts p b = .ok route) :
    writtenAuthority? (route.backend.scheme ++ ("://".toList ++ route.authority)) =
      some route.authority := by
  have hcolon : ':' ∉ route.backend.scheme := by
    rcases backend_scheme h with hs | hs <;> rw [hs] <;> decide
  have hchars : ∀ c ∈ route.authority, (!(c == '/' || c == '?' || c == '#')) = true := by
    intro c hc
    have := ((backend_proper h).hostChar_of_mem_authority hc).2.2.2
    simp only [List.mem_cons, not_or] at this
    simp [this]
  rw [writtenAuthority?, Text.cutAt?_append rfl hcolon]
  exact congrArg some (List.takeWhile_eq_self_iff.mpr hchars)

/-- Scheme and authority of a backend are a backend. -/
theorem readBackend_authority (h : ofParts p b = .ok route) :
    readBackend (route.backend.scheme ++ ("://".toList ++ route.authority)) =
      .ok route.backend.origin := by
  have hu := backend_proper h
  obtain ⟨host, hhost, hh⟩ := hu.host
  refine readBackend_eq_ok_iff.mpr ⟨?_,
    ⟨_, writtenAuthority?_authority h, hu.authority_ne_nil, hu.getLast?_authority⟩,
    hu.parse?_authority (backend_scheme h), backend_scheme h, ?_⟩
  · -- no colon is blank
    rw [ne_eq, Text.trim_eq_nil_iff]
    intro hblank
    exact absurd (hblank ':' (by simp)) (by decide)
  · rw [Url.hostText, Url.origin, hhost]
    exact hh.text_ne_nil

theorem ofParts_authority (h : ofParts p b = .ok route) :
    ofParts p (route.backend.scheme ++ ("://".toList ++ route.authority)) =
      .ok ⟨p, route.backend.origin⟩ := by
  obtain ⟨-, ⟨q, rfl⟩, -⟩ := of_ofParts h
  rw [ofParts, check, readBackend_authority h]
  rfl

theorem exists_portOrDefault? (h : ofParts p b = .ok route) :
    ∃ port, route.backend.portOrDefault? = some port := by
  rw [← Option.isSome_iff_exists, Url.portOrDefault?, Option.isSome_or, Bool.or_eq_true]
  rcases backend_scheme h with hs | hs <;> rw [hs] <;> exact .inr rfl

/-- Scheme and authority of a backend are read as its scheme, host and port and nothing else. As a
mapping they lead to the same place. A tunnel connects to that host and that port, and over TLS asks
for that host by name; the address that it uses names no other host. -/
theorem dial_authority (h : ofParts p b = .ok route) :
    Url.parse? (route.backend.scheme ++ ("://".toList ++ route.authority)) =
        some route.backend.origin ∧
      (∃ bare, ofParts p (route.backend.scheme ++ ("://".toList ++ route.authority)) = .ok bare ∧
        bare.authority = route.authority ∧ bare.usesTls = route.usesTls ∧
        Tunnel.endpoint bare = Tunnel.endpoint route ∧
        Tunnel.serverName? bare = Tunnel.serverName? route) ∧
      ∃ host port, route.backend.host = some host ∧ route.backend.portOrDefault? = some port ∧
        Host.named? host.address = some host ∧
        ∀ network : Network, Tunnel.dial network route =
          (network.connect route host.address port).bind fun _ =>
            if route.usesTls then network.secure route host.address else .ok () := by
  have hu := backend_proper h
  obtain ⟨host, hhost, hh⟩ := hu.host
  obtain ⟨port, hport⟩ := exists_portOrDefault? h
  refine ⟨hu.parse?_authority (backend_scheme h), ⟨_, ofParts_authority h, rfl, rfl, rfl, rfl⟩,
    host, port, hhost, hport, hh.named?_address, fun network => ?_⟩
  have hend : Tunnel.endpoint route = (host.address, port) := by
    rw [Tunnel.endpoint, hhost, hport]
    rfl
  rw [Tunnel.dial, Tunnel.serverName?, hend]
  cases route.usesTls <;> rfl

/-- The route that is written `/ws=https://user:pw@[::ffff:1.2.3.4]:443/base?q`. -/
def mapped : Route where
  pathPrefix := "/ws".toList
  backend :=
    { scheme := "https".toList, username := "user".toList, password := "pw".toList,
      host := some (.ipv6 [0, 0, 0, 0, 0, 0xFFFF, 0x102, 0x304]), port := none,
      path := .segments ["base".toList], query := some "q".toList, fragment := none }

theorem ofParts_mapped :
    ofParts "/ws".toList "https://user:pw@[::ffff:1.2.3.4]:443/base?q".toList = .ok mapped :=
  Except.toOption_eq_some_iff.mp (by rfl)

/-- The authority shows the host in hexadecimal and leaves the port out; what is dialled has
neither brackets nor hexadecimal digits. -/
theorem dial_authority_mapped :
    ofParts "/ws".toList "https://user:pw@[::ffff:1.2.3.4]:443/base?q".toList = .ok mapped ∧
      Url.parse? "https://[::ffff:102:304]".toList = some mapped.backend.origin ∧
      ∀ network : Network, Tunnel.dial network mapped =
        (network.connect mapped "::ffff:1.2.3.4".toList 443).bind fun _ =>
          network.secure mapped "::ffff:1.2.3.4".toList := by
  obtain ⟨hparse, -, host, port, hhost, hport, -, hdial⟩ := dial_authority ofParts_mapped
  have hshown : mapped.backend.scheme ++ ("://".toList ++ mapped.authority) =
      "https://[::ffff:102:304]".toList := by rfl
  rw [hshown] at hparse
  cases hhost
  cases hport
  refine ⟨ofParts_mapped, hparse, fun network => ?_⟩
  have haddress : (Host.ipv6 [0, 0, 0, 0, 0, 0xFFFF, 0x102, 0x304]).address =
      "::ffff:1.2.3.4".toList := by rfl
  rw [hdial, haddress]
  rfl

end Route

end SiteGateway
