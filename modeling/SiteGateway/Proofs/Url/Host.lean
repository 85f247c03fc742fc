import SiteGateway.Proofs.Percent
import SiteGateway.Proofs.Url.Address
import SiteGateway.Proofs.Url.Domain

/-!
# Hosts are read back

The text of a host that was read is read as the same host (`Host.Normal.parse?_text`), and so is the
address that the network shows (`Host.Normal.named?_address`). Nothing in the text is taken for a
mark of the URL around it (`HostChar`).
-/

namespace SiteGateway

/-- Visible ASCII that marks no other part of a URL. -/
def HostChar (c : Char) : Prop :=
  Ascii c ∧ 0x20 < c.toNat ∧ c ≠ '\x7F' ∧ c ∉ ['/', '\\', '?', '#', '@', '%']

instance (c : Char) : Decidable (HostChar c) := inferInstanceAs (Decidable (_ ∧ _))

theorem NameChar.hostChar {c : Char} (h : NameChar c) : HostChar c ∧ c ∉ [':', '[', ']'] := by
  have hall : ∀ n < 0x80, NameChar (Char.ofNat n) →
      HostChar (Char.ofNat n) ∧ Char.ofNat n ∉ [':', '[', ']'] := by decide +kernel
  exact forall_ascii (p := fun c => NameChar c → HostChar c ∧ c ∉ [':', '[', ']']) hall c h.ascii h

namespace Host
variable {h : Host} {t name : Text} {c : Char}

theorem parse?_of_nameChar (hn : ∀ c ∈ name, NameChar c) (hne : name ≠ [])
    (hd : domainToAscii? (Utf8.encode name) = some name) :
    parse? name = if endsInNumber name then parseIpv4? name else some (domain name) := by
  have hbracket : bracketed? name = none := by
    unfold bracketed?
    split
    next inner => exact absurd (hn '[' List.mem_cons_self).hostChar.2 (by decide)
    next => rfl
  have hdecode : Percent.decode (Utf8.encode name) = Utf8.encode name := by
    rw [Percent.decode_eq_self_iff]
    intro front rest he
    have hmem : '%' ∈ name := Utf8.mem_of_mem_encode (b := 0x25) (by decide) (by simp [he])
    exact absurd (hn _ hmem).hostChar.1 (by decide)
  rw [parse?, hbracket]
  simp only [hdecode, hd, Option.bind_eq_bind, Option.bind_some]
  rw [if_neg (by simpa using hne)]
  rfl

theorem nameChar_of_mem_dotted {a b d e : UInt8} (hc : c ∈ dotted a b d e) : NameChar c := by
  have hdigit : ∀ d < 10, NameChar (Nat.digitChar d) := by decide
  rcases Text.of_mem_join hc with hc | ⟨t, ht, hc⟩
  · obtain rfl := List.mem_singleton.mp hc
    decide
  · obtain ⟨n, -, rfl⟩ := List.mem_map.mp ht
    obtain ⟨d, hd, rfl⟩ := Text.exists_of_mem_toDigits (by decide) hc
    exact hdigit d hd

theorem parse?_dotted (a b d e : UInt8) : parse? (dotted a b d e) = some (ipv4 a b d e) := by
  have hplain : domainToAscii? (Utf8.encode (dotted a b d e)) = some (dotted a b d e) := by
    refine domainToAscii?_of_plain (fun c => nameChar_of_mem_dotted) fun part hp => ?_
    have hx : 'x' ∉ part := fun hx =>
      notMem_dotted rfl (by decide) (Text.of_mem_splitBy hp _ hx).2
    rw [← Option.not_isSome_iff_eq_none, Option.isSome_iff_exists]
    rintro ⟨code, hcode⟩
    rw [Text.after?_eq_some_iff.mp hcode] at hx
    exact hx (by simp [DomainLabel.mark])
  have hne : dotted a b d e ≠ [] :=
    List.ne_nil_of_mem (a := '.') (by simp [dotted, Text.join])
  rw [parse?_of_nameChar (fun c => nameChar_of_mem_dotted) hne hplain, endsInNumber_dotted,
    if_pos rfl, parseIpv4?_dotted]

/-- A host in the form in which it is read. -/
inductive Normal : Host → Prop
  | domain {name : Text} (hn : ∀ c ∈ name, NameChar c) (hne : name ≠ [])
      (hd : domainToAscii? (Utf8.encode name) = some name) (hnumber : endsInNumber name = false) :
      Normal (.domain name)
  | ipv4 (a b d e : UInt8) : Normal (.ipv4 a b d e)
  | ipv6 {ps : List UInt16} (h : ps.length = 8) : Normal (.ipv6 ps)

theorem Normal.of_parse? (hp : parse? t = some h) : Normal h := by
  rw [parse?] at hp
  split at hp
  next inner =>
    obtain ⟨x, -, hp⟩ := Option.bind_eq_some_iff.mp hp
    obtain ⟨ps, rfl, hlen⟩ := exists_of_parseIpv6? hp
    exact .ipv6 hlen
  next =>
    obtain ⟨name, hname, hp⟩ := Option.bind_eq_some_iff.mp hp
    obtain ⟨hidem, hchars⟩ := domainToAscii?_idem hname
    split at hp
    next => cases hp
    next hne =>
      split at hp
      next =>
        obtain ⟨numbers, -, hp⟩ := Option.bind_eq_some_iff.mp hp
        obtain ⟨last, -, hp⟩ := Option.bind_eq_some_iff.mp hp
        obtain ⟨-, hp⟩ := Option.ite_none_left_eq_some.mp hp
        obtain rfl := Option.some.inj hp
        exact .ipv4 ..
      next hnumber =>
        obtain rfl := Option.some.inj hp
        exact .domain hchars (by simpa using hne) hidem (by simpa using hnumber)

/-- The host that an address names; an IPv6 address stands without brackets. -/
def named? (t : Text) : Option Host := (parseIpv6? t).or (parse? t)

namespace Normal

theorem parse?_text (hh : Normal h) : parse? h.text = some h := by
  cases hh with
  | domain hn hne hd hnumber =>
    rw [text, parse?_of_nameChar hn hne hd, hnumber, if_neg Bool.false_ne_true]
  | ipv4 a b d e => exact parse?_dotted a b d e
  | @ipv6 ps hlen =>
    have hbracket : bracketed? (Host.ipv6 ps).text = some (some (compressed ps)) := by
      simp [text, bracketed?]
    rw [parse?, hbracket]
    exact parseIpv6?_compressed hlen

theorem text_ne_nil (hh : Normal h) : h.text ≠ [] := by
  intro hnil
  have hnone : parse? [] = none := by decide +kernel
  have := hh.parse?_text
  rw [hnil, hnone] at this
  cases this

theorem hostChar_of_mem_text (hh : Normal h) (hc : c ∈ h.text) : HostChar c := by
  cases hh with
  | domain hn => exact (hn c hc).hostChar.1
  | ipv4 a b d e => exact (nameChar_of_mem_dotted hc).hostChar.1
  | ipv6 =>
    have hdigit : ∀ d < 16, HostChar (Nat.digitChar d) := by decide
    rcases List.mem_cons.mp hc with rfl | hc
    · decide
    · rcases List.mem_append.mp hc with hc | hc
      · rcases of_mem_compressed hc with rfl | ⟨d, hd, rfl⟩
        · decide
        · exact hdigit d hd
      · obtain rfl := List.mem_singleton.mp hc
        decide

/-- The address that the network shows names the host. -/
theorem named?_address (hh : Normal h) : named? h.address = some h := by
  have hnamed {name : Text} (hn : ∀ c ∈ name, NameChar c) : named? name = parse? name := by
    rw [named?, parseIpv6?_of_notMem fun hmem => absurd (hn _ hmem).hostChar.2 (by decide),
      Option.none_or]
  have htext := hh.parse?_text
  cases hh with
  | domain hn => exact (hnamed hn).trans htext
  | ipv4 a b d e => exact (hnamed fun c => nameChar_of_mem_dotted).trans htext
  | ipv6 hlen => rw [named?, address, parseIpv6?_shown hlen, Option.some_or]

end Normal

end Host

end SiteGateway
