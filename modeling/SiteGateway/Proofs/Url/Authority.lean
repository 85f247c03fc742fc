import Mathlib.Data.List.TakeWhile
import SiteGateway.Proofs.Url.Host
import SiteGateway.Proofs.Url.Path

/-!
# URLs of network schemes

A URL with a well-known scheme other than `file` has a host, a port that need not be written, and
segments, each in the form in which it is read (`Url.Proper`). So its scheme and its authority are
enough to find the same host and port again, and nothing else of it (`Url.Proper.parse?_authority`).
-/

namespace SiteGateway

namespace Url
variable {t : Text} {u : Url} {scheme : Text} {more : Bool}

/-- What a URL with a network scheme is read to. -/
structure Proper (u : Url) : Prop where
  host : ∃ host, u.host = some host ∧ host.Normal
  port : ∀ p, u.port = some p → p < 65536 ∧ defaultPort? u.scheme ≠ some p
  path : ∃ ss, u.path = .segments ss ∧ ∀ s ∈ ss, Normal s

/-! ### Reading -/

theorem port?_eq_some {p : Nat} (h : port? scheme t = some (some p)) :
    p < 65536 ∧ defaultPort? scheme ≠ some p := by
  rw [port?] at h
  split at h
  · cases h
  · obtain ⟨n, -, h⟩ := Option.bind_eq_some_iff.mp h
    obtain ⟨hn, h⟩ := Option.ite_none_right_eq_some.mp h
    obtain ⟨hd, h⟩ := Option.ite_none_left_eq_some.mp (Option.some.inj h)
    cases h
    exact ⟨hn, hd⟩

theorem readPath_network (x : Text) :
    ∃ ss, readPath .network x = .segments ss ∧ ∀ s ∈ ss, Normal s :=
  ⟨readSegments .network x, by simp [readPath, SchemeKind.special],
    normal_of_mem_resolveSegments (by simp) fun _ hs c hc => (Text.of_mem_splitBy hs c hc).1⟩

theorem readAuthority?_scheme (h : readAuthority? scheme more t = some u) : u.scheme = scheme := by
  simp only [readAuthority?, Option.bind_eq_bind, Option.pure_def] at h
  split at h
  · cases h
  · split at h
    all_goals
      obtain ⟨host, -, h⟩ := Option.bind_eq_some_iff.mp h
      split at h
      · cases h
      · obtain ⟨port, -, h⟩ := Option.bind_eq_some_iff.mp h
        cases h
        rfl

theorem proper_of_readAuthority? (hk : schemeKind scheme = .network)
    (h : readAuthority? scheme more t = some u) : u.Proper := by
  simp only [readAuthority?, Option.bind_eq_bind, Option.pure_def, hk] at h
  split at h
  · cases h
  · rw [if_pos (show SchemeKind.network.special = true from rfl)] at h
    obtain ⟨host, hhost, h⟩ := Option.bind_eq_some_iff.mp h
    split at h
    · cases h
    · obtain ⟨port, hport, h⟩ := Option.bind_eq_some_iff.mp h
      cases h
      exact ⟨⟨host, rfl, .of_parse? hhost⟩, fun p hp => port?_eq_some (hport.trans (congrArg _ hp)),
        readPath_network _⟩

theorem readFile?_scheme (h : readFile? t = some u) : u.scheme = "file".toList := by
  simp only [readFile?, Option.bind_eq_bind, Option.pure_def] at h
  split at h
  · split at h
    · split at h
      · cases h; rfl
      · split at h
        · cases h; rfl
        · obtain ⟨host, -, h⟩ := Option.bind_eq_some_iff.mp h
          cases h; rfl
    · cases h; rfl
  · cases h; rfl

theorem proper_of_parse? (h : parse? t = some u) (hk : schemeKind u.scheme = .network) :
    u.Proper := by
  simp only [parse?, Option.bind_eq_bind, Option.pure_def] at h
  obtain ⟨⟨scheme, rest⟩, -, h⟩ := Option.bind_eq_some_iff.mp h
  cases hs : schemeKind scheme with
  | file =>
    simp only [hs] at h
    obtain ⟨u₀, hu, h⟩ := Option.bind_eq_some_iff.mp h
    cases h
    rw [readFile?_scheme hu] at hk
    cases hk
  | network =>
    simp only [hs] at h
    obtain ⟨u₀, hu, h⟩ := Option.bind_eq_some_iff.mp h
    cases h
    have hproper := proper_of_readAuthority? hs hu
    exact ⟨hproper.host, hproper.port, hproper.path⟩
  | foreign =>
    simp only [hs] at h
    have hne : u.scheme ≠ scheme := by
      intro he
      rw [he, hs] at hk
      cases hk
    -- every way of reading keeps the scheme, whose kind is another one here
    refine absurd ?_ hne
    split at h
    · obtain ⟨u₀, hu, h⟩ := Option.bind_eq_some_iff.mp h
      cases h
      exact readAuthority?_scheme (u := u₀) hu
    · cases h; rfl
    · cases h; rfl

/-! ### Writing the authority and reading it -/

theorem cutHost_of_free {x y : Text} (hx : ∀ c ∈ x, c ∉ [':', '[', ']'])
    (hy : y = [] ∨ ∃ r, y = ':' :: r) : cutHost false (x ++ y) = (x, y) := by
  induction x with
  | nil =>
    rcases hy with rfl | ⟨r, rfl⟩
    · rfl
    · rfl
  | cons c x ih =>
    have hc : c ≠ ':' ∧ c ≠ '[' ∧ c ≠ ']' := by simpa using hx c List.mem_cons_self
    rw [List.cons_append, cutHost]
    simp [hc, ih fun c hc => hx c (List.mem_cons_of_mem _ hc)]

theorem cutHost_inside {x y : Text} (hx : ∀ c ∈ x, c ≠ '[' ∧ c ≠ ']')
    (hy : y = [] ∨ ∃ r, y = ':' :: r) : cutHost true (x ++ ']' :: y) = (x ++ [']'], y) := by
  induction x with
  | nil =>
    have := cutHost_of_free (x := []) (by simp) hy
    rw [List.nil_append] at this
    rw [List.nil_append, cutHost]
    simp [this]
  | cons c x ih =>
    have hc := hx c List.mem_cons_self
    rw [List.cons_append, cutHost]
    simp [hc, ih fun c hc => hx c (List.mem_cons_of_mem _ hc)]

theorem cutHost_text {host : Host} {y : Text} (hh : host.Normal)
    (hy : y = [] ∨ ∃ r, y = ':' :: r) : cutHost false (host.text ++ y) = (host.text, y) := by
  cases hh with
  | domain hn => exact cutHost_of_free (fun c hc => (hn c hc).hostChar.2) hy
  | ipv4 a b d e =>
    exact cutHost_of_free (fun c hc => (Host.nameChar_of_mem_dotted hc).hostChar.2) hy
  | @ipv6 ps =>
    have hinner : ∀ c ∈ Host.compressed ps, c ≠ '[' ∧ c ≠ ']' := by
      have hdigit : ∀ d < 16, Nat.digitChar d ≠ '[' ∧ Nat.digitChar d ≠ ']' := by decide
      intro c hc
      rcases Host.of_mem_compressed hc with rfl | ⟨d, hd, rfl⟩
      · decide
      · exact hdigit d hd
    have hcut := cutHost_inside hinner hy
    simp only [Host.text, List.cons_append, List.append_assoc, List.nil_append]
    rw [cutHost]
    simp [hcut]

theorem trimBy_eq_self {p : Char → Bool} (h : ∀ c ∈ t, p c = false) : Text.trimBy p t = t := by
  have hdrop {x : Text} (hx : ∀ c ∈ x, p c = false) : x.dropWhile p = x := by
    cases x with
    | nil => rfl
    | cons c x => rw [List.dropWhile_cons_of_neg (by simp [hx c List.mem_cons_self])]
  rw [Text.trimBy, hdrop h, hdrop fun c hc => h c (List.mem_reverse.mp hc), List.reverse_reverse]

theorem withoutLineBreaks_eq_self (h : ∀ c ∈ t, c ≠ '\t' ∧ c ≠ '\n' ∧ c ≠ '\r') :
    withoutLineBreaks t = t := by
  rw [withoutLineBreaks, List.filter_eq_self]
  intro c hc
  simpa [and_assoc] using h c hc

theorem cutMark_of_notMem {mark : Char} (h : mark ∉ t) : cutMark mark t = (t, none) := by
  rw [cutMark, Text.cut?_eq_none h]

/-- Scheme, host and port alone. -/
def origin (u : Url) : Url :=
  { u with username := [], password := [], path := .segments [[]], query := none, fragment := none }

namespace Proper

theorem hostChar_of_mem_authority (hu : u.Proper) {c : Char} (hc : c ∈ u.authority) :
    HostChar c := by
  obtain ⟨host, hhost, hh⟩ := hu.host
  rw [authority, hostText, hhost] at hc
  have hdigit : ∀ d < 10, HostChar (Nat.digitChar d) := by decide
  rcases List.mem_append.mp hc with hc | hc
  · exact hh.hostChar_of_mem_text hc
  · split at hc
    · rcases List.mem_cons.mp hc with rfl | hc
      · decide
      · obtain ⟨d, hd, rfl⟩ := Text.exists_of_mem_toDigits (by decide) hc
        exact hdigit d hd
    · cases hc

theorem not_isSlash (hu : u.Proper) {c : Char} (hc : c ∈ u.authority) :
    isSlash .network c = false := by
  have := (hu.hostChar_of_mem_authority hc).2.2.2
  simp only [List.mem_cons, List.not_mem_nil, or_false, not_or] at this
  simp [isSlash, this]

theorem exists_portText (hu : u.Proper) {host : Host} (hhost : u.host = some host) :
    ∃ y, u.authority = host.text ++ y ∧ (y = [] ∨ ∃ r, y = ':' :: r) ∧ '\\' ∉ y ∧
      port? u.scheme y.tail = some u.port := by
  rw [authority, hostText, hhost]
  refine ⟨_, rfl, ?_⟩
  cases hp : u.port with
  | none => exact ⟨.inl rfl, List.not_mem_nil, rfl⟩
  | some p =>
    obtain ⟨hlt, hdefault⟩ := hu.port p hp
    have hmem : '\\' ∉ Text.ofNat p := Host.notMem_ofNat rfl
    refine ⟨.inr ⟨_, rfl⟩, by simpa using hmem, ?_⟩
    have hne : (Text.ofNat p).isEmpty = false := by simp [Text.ofNat, Nat.toDigits_ne_nil]
    change port? u.scheme (Text.ofNat p) = _
    rw [port?, hne, if_neg Bool.false_ne_true, Text.nat?_ofNat]
    simp [hlt, hdefault]

theorem readAuthority?_authority (hu : u.Proper) (hk : schemeKind u.scheme = .network) :
    readAuthority? u.scheme false u.authority = some u.origin := by
  obtain ⟨host, hhost, hh⟩ := hu.host
  obtain ⟨y, hy, hmark, hbackslash, hport⟩ := hu.exists_portText hhost
  have hslash : ∀ c ∈ u.authority, (!isSlash .network c) = true := by
    intro c hc
    rw [hu.not_isSlash hc]
    rfl
  have htake : u.authority.takeWhile (!isSlash .network ·) = u.authority :=
    List.takeWhile_eq_self_iff.mpr hslash
  have hdrop : u.authority.dropWhile (!isSlash .network ·) = [] :=
    List.dropWhile_eq_nil_iff.mpr hslash
  have hcredentials : cutCredentials u.authority = (none, u.authority) := by
    have hat : '@' ∉ u.authority.reverse := fun hat =>
      absurd (hu.hostChar_of_mem_authority (List.mem_reverse.mp hat)) (by decide)
    rw [cutCredentials, Text.cut?_eq_none hat]
  have hcut : cutHost false u.authority = (host.text, y) := by rw [hy, cutHost_text hh hmark]
  have hport' : ∀ c ∈ y.tail, (c != '\\') = true := by
    intro c hc
    have hne : c ≠ '\\' := by
      rintro rfl
      exact hbackslash (List.mem_of_mem_tail hc)
    simpa using hne
  have hempty : host.text.isEmpty = false := by simpa using hh.text_ne_nil
  have hroot : readPath .network [] = .segments [[]] := rfl
  have hnone : readCredentials [] = ([], []) := rfl
  simp [readAuthority?, hk, htake, hdrop, hcredentials, hcut, hempty, SchemeKind.special,
    hh.parse?_text, List.takeWhile_eq_self_iff.mpr hport', List.dropWhile_eq_nil_iff.mpr hport',
    hport, origin, hhost, hroot, hnone]

theorem authority_ne_nil (hu : u.Proper) : u.authority ≠ [] := by
  obtain ⟨host, hhost, hh⟩ := hu.host
  obtain ⟨y, hy, -⟩ := hu.exists_portText hhost
  rw [hy]
  exact List.append_ne_nil_of_left_ne_nil hh.text_ne_nil y

theorem getLast?_authority (hu : u.Proper) : u.authority.getLast? ≠ some ':' := by
  obtain ⟨host, hhost, hh⟩ := hu.host
  rw [authority, hostText, hhost]
  intro hlast
  split at hlast
  next p hp =>
    have hne : Text.ofNat p ≠ [] := Nat.toDigits_ne_nil
    rw [List.append_cons, List.getLast?_append_of_ne_nil _ hne] at hlast
    exact Host.notMem_ofNat rfl (List.mem_of_getLast? hlast)
  next =>
    rw [List.append_nil] at hlast
    cases hh with
    | domain hn => exact absurd (hn _ (List.mem_of_getLast? hlast)).hostChar.2 (by decide)
    | ipv4 a b d e =>
      have hmem := Host.nameChar_of_mem_dotted (List.mem_of_getLast? hlast)
      exact absurd hmem.hostChar.2 (by decide)
    | ipv6 =>
      change ('[' :: (Host.compressed _ ++ [']'])).getLast? = _ at hlast
      rw [← List.cons_append, List.getLast?_concat] at hlast
      cases hlast

/-- What is read when the authority stands after its scheme. -/
theorem scheme?_authority (hs : u.scheme = "http".toList ∨ u.scheme = "https".toList) :
    scheme? (u.scheme ++ ("://".toList ++ u.authority)) =
      some (u.scheme, "//".toList ++ u.authority) := by
  have hcolon : ':' ∉ u.scheme := by rcases hs with hs | hs <;> rw [hs] <;> decide
  have hword : Text.cut? ':' (u.scheme ++ ("://".toList ++ u.authority)) =
      some (u.scheme, "//".toList ++ u.authority) := Text.cut?_append_cons hcolon
  have hok : (u.scheme.head?.any Char.isAlpha &&
      u.scheme.all fun c => c.isAlphanum || c == '+' || c == '-' || c == '.') = true ∧
      Text.lower u.scheme = u.scheme := by
    rcases hs with hs | hs <;> rw [hs] <;> decide
  rw [scheme?, hword]
  simp only [Option.bind_eq_bind, Option.bind_some, hok]
  rfl

theorem mem_schemeText (hu : u.Proper)
    (hs : u.scheme = "http".toList ∨ u.scheme = "https".toList) {c : Char}
    (hc : c ∈ u.scheme ++ ("://".toList ++ u.authority)) : c = '/' ∨ HostChar c := by
  rcases List.mem_append.mp hc with hc | hc
  · have hscheme : ∀ c ∈ u.scheme, HostChar c := by
      rcases hs with hs | hs <;> rw [hs] <;> exact forall_mem_text (by decide)
    exact .inr (hscheme c hc)
  · rcases List.mem_append.mp hc with hc | hc
    · have hall : ∀ c ∈ "://".toList, c = '/' ∨ HostChar c := forall_mem_text (by decide)
      exact hall c hc
    · exact .inr (hu.hostChar_of_mem_authority hc)

theorem dropWhile_slashes (hu : u.Proper) :
    ("//".toList ++ u.authority).dropWhile (isSlash .network) = u.authority := by
  obtain ⟨c, x, hx⟩ := List.exists_cons_of_ne_nil hu.authority_ne_nil
  have hslash : ¬ isSlash .network c = true := by
    simpa using hu.not_isSlash (c := c) (by simp [hx])
  rw [hx]
  exact List.dropWhile_cons_of_neg hslash

/-- Scheme and authority lead to the same host and port, and to nothing else. -/
theorem parse?_authority (hu : u.Proper)
    (hs : u.scheme = "http".toList ∨ u.scheme = "https".toList) :
    parse? (u.scheme ++ ("://".toList ++ u.authority)) = some u.origin := by
  have hk : schemeKind u.scheme = .network := by rcases hs with hs | hs <;> rw [hs] <;> decide
  have hvisible : ∀ c ∈ u.scheme ++ ("://".toList ++ u.authority), 0x20 < c.toNat := by
    intro c hc
    rcases hu.mem_schemeText hs hc with rfl | hc
    · decide
    · exact hc.2.1
  have htrim : Text.trimBy (·.toNat ≤ 0x20) (u.scheme ++ ("://".toList ++ u.authority)) =
      u.scheme ++ ("://".toList ++ u.authority) :=
    trimBy_eq_self fun c hc => decide_eq_false (Nat.not_le.mpr (hvisible c hc))
  have hlines : withoutLineBreaks (u.scheme ++ ("://".toList ++ u.authority)) =
      u.scheme ++ ("://".toList ++ u.authority) := by
    refine withoutLineBreaks_eq_self fun c hc => ?_
    have := hvisible c hc
    refine ⟨?_, ?_, ?_⟩ <;> rintro rfl <;> exact absurd this (by decide)
  -- neither a query nor a fragment can begin in an authority
  have hmark (mark : Char) (hm : mark ≠ '/') (hh : ¬ HostChar mark) :
      cutMark mark ("//".toList ++ u.authority) = ("//".toList ++ u.authority, none) := by
    refine cutMark_of_notMem fun hc => ?_
    have hmem : mark ∈ u.scheme ++ ("://".toList ++ u.authority) := by
      simp at hc ⊢
      tauto
    rcases hu.mem_schemeText hs hmem with h | h
    · exact hm h
    · exact hh h
  simp only [parse?, htrim, hlines, scheme?_authority hs, Option.bind_eq_bind, Option.bind_some,
    hmark '#' (by decide) (by decide), hmark '?' (by decide) (by decide), hk, hu.dropWhile_slashes,
    Option.isSome_none, Bool.or_self, hu.readAuthority?_authority hk]
  rfl

end Proper

end Url

end SiteGateway
