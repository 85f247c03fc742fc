import SiteGateway.Proofs.Except
import SiteGateway.Proofs.Text.Ascii
import SiteGateway.Proofs.Text.Digits
import SiteGateway.Proofs.Text.Split
import SiteGateway.Url.Host

/-!
# Addresses are read back

`Host.parseIpv6?_compressed`: eight numbers are what their compressed form writes, wherever the
zeros that are left out have stood (`longestZeros_spec`). `Host.parseIpv4?_dotted`: so are the four
bytes of an IPv4 address.
-/

namespace SiteGateway

namespace Host
variable {p : UInt16} {ps : List UInt16} {c : Char} {t : Text} {n : Nat} {a b d e : UInt8}

/-! ### Numbers of an IPv6 address -/

theorem apart_of_hexDigit : ∀ d < 16, Nat.digitChar d ≠ ':' ∧ Nat.digitChar d ≠ '.' := by decide

theorem hex_ne_nil (n : Nat) : Text.hex n ≠ [] := Nat.toDigits_ne_nil

theorem notMem_hex (n : Nat) : ':' ∉ Text.hex n ∧ '.' ∉ Text.hex n := by
  refine ⟨fun h => ?_, fun h => ?_⟩
  all_goals obtain ⟨d, hd, hc⟩ := Text.exists_of_mem_toDigits (by decide) h
  · exact (apart_of_hexDigit d hd).1 hc.symm
  · exact (apart_of_hexDigit d hd).2 hc.symm

theorem piece?_hex (p : UInt16) : piece? (Text.hex p.toNat) = some p := by
  have hlen : (Text.hex p.toNat).length ≤ 4 :=
    (Nat.length_toDigits_le_iff (by decide) (by decide)).mpr p.toNat_lt
  have hne : (Text.hex p.toNat).isEmpty = false := by simp [hex_ne_nil]
  have hcond : ¬ ((Text.hex p.toNat).isEmpty || decide ((Text.hex p.toNat).length > 4)) = true := by
    simp [hne, hlen]
  rw [piece?, if_neg hcond, Text.hex, Text.ofDigits?_toDigits (by decide) (by decide)]
  simp

theorem mapM_piece?_hex (ps : List UInt16) :
    (ps.map fun p => Text.hex p.toNat).mapM piece? = some ps := by
  rw [Option.mapM_eq_some_iff, List.forall₂_map_left_iff, List.forall₂_same]
  exact fun p _ => piece?_hex p

theorem split_colons (h : ps ≠ []) :
    Text.split ':' (colons ps) = ps.map fun p => Text.hex p.toNat := by
  refine Text.split_join (by simpa using h) fun t ht => ?_
  obtain ⟨p, -, rfl⟩ := List.mem_map.mp ht
  exact (notMem_hex _).1

theorem colons_cons_cons (p q : UInt16) (ps : List UInt16) :
    colons (p :: q :: ps) = Text.hex p.toNat ++ ':' :: colons (q :: ps) := by
  simp [colons, Text.join_cons_cons]

theorem head?_colons (p : UInt16) (ps : List UInt16) (t : Text) :
    (colons (p :: ps) ++ t).head? = (Text.hex p.toNat).head? := by
  obtain ⟨c, x, hx⟩ := List.exists_cons_of_ne_nil (hex_ne_nil p.toNat)
  cases ps with
  | nil => simp [colons, Text.join, hx]
  | cons q ps => simp [colons_cons_cons, hx]

theorem side?_colons (dots : Bool) (ps : List UInt16) : side? dots (colons ps) = some ps := by
  rcases List.eq_nil_or_concat ps with rfl | ⟨front, p, rfl⟩
  · rfl
  · rw [List.concat_eq_append]
    have hne : front ++ [p] ≠ [] := by simp
    have hempty : (colons (front ++ [p])).isEmpty = false := by
      obtain ⟨q, qs, hq⟩ := List.exists_cons_of_ne_nil hne
      have := head?_colons q qs []
      rw [List.append_nil] at this
      rw [hq, List.isEmpty_eq_false_iff]
      intro hnil
      rw [hnil] at this
      exact hex_ne_nil _ (List.head?_eq_none_iff.mp this.symm)
    have hlast : ((front ++ [p]).map fun p => Text.hex p.toNat).getLast? =
        some (Text.hex p.toNat) := by simp
    have hdots : ¬ (dots && (Text.hex p.toNat).contains '.') = true := by
      simp [(notMem_hex p.toNat).2]
    rw [side?, hempty, if_neg Bool.false_ne_true, split_colons hne]
    simp only [hlast, if_neg hdots]
    exact mapM_piece?_hex _

theorem cutAt?_colons (ps : List UInt16) (hps : ps ≠ []) (t : Text) :
    Text.cutAt? [':', ':'] (colons ps ++ t) =
      (Text.cutAt? [':', ':'] t).map fun (before, after) => (colons ps ++ before, after) := by
  induction ps with
  | nil => exact absurd rfl hps
  | cons p ps ih =>
    cases ps with
    | nil => exact Text.cutAt?_append_of_notMem rfl (notMem_hex _).1 t
    | cons q ps =>
      have hhead : (colons (q :: ps) ++ t).head? ≠ some ':' := by
        rw [head?_colons]
        intro h
        exact (notMem_hex _).1 (List.mem_of_head? h)
      have hcolon : Text.cutAt? [':', ':'] (':' :: (colons (q :: ps) ++ t)) =
          (Text.cutAt? [':', ':'] (colons (q :: ps) ++ t)).map
            fun (before, after) => (':' :: before, after) := by
        have hpre : ¬ [':', ':'].isPrefixOf (':' :: (colons (q :: ps) ++ t)) = true := by
          cases h : colons (q :: ps) ++ t with
          | nil => simp
          | cons c x =>
            have hc : c ≠ ':' := by simpa [h] using hhead
            simp [List.isPrefixOf, hc.symm]
        rw [Text.cutAt?, if_neg hpre]
      rw [colons_cons_cons, List.append_assoc, List.cons_append,
        Text.cutAt?_append_of_notMem rfl (notMem_hex _).1, hcolon, ih (by simp)]
      simp [Function.comp_def]

/-! ### The zeros that are left out -/

theorem zeros_spec (ps : List UInt16) : ps = List.replicate (zeros ps) 0 ++ ps.drop (zeros ps) := by
  induction ps with
  | nil => rfl
  | cons p ps ih =>
    by_cases hp : p = 0
    · subst hp
      rw [zeros, List.replicate_succ, List.cons_append, List.drop_succ_cons, ← ih]
    · have hzeros : zeros (p :: ps) = 0 := by
        rw [zeros]
        exact fun _ h => hp (List.cons.inj h).1
      rw [hzeros]
      rfl

theorem longestZeros_spec (ps : List UInt16) :
    ps = ps.take (longestZeros ps).1 ++ (List.replicate (longestZeros ps).2 0 ++
      ps.drop ((longestZeros ps).1 + (longestZeros ps).2)) := by
  induction ps with
  | nil => rfl
  | cons p ps ih =>
    rw [longestZeros]
    split
    next at' best h =>
      rw [h] at ih
      split
      · rw [List.take_zero, List.nil_append, Nat.zero_add]
        exact zeros_spec (p :: ps)
      · rw [List.take_succ_cons, Nat.add_right_comm, List.drop_succ_cons, List.cons_append, ← ih]

/-- Eight numbers are read back from their compressed form. -/
theorem parseIpv6?_compressed (h : ps.length = 8) :
    parseIpv6? (compressed ps) = some (ipv6 ps) := by
  have hne : ps ≠ [] := by
    rintro rfl
    cases h
  have hspec := longestZeros_spec ps
  rw [compressed]
  split
  next at' n hn =>
  rw [hn] at hspec
  dsimp only at hspec
  split
  next =>
    have hcut : Text.cutAt? [':', ':'] (colons ps) = none := by
      have := cutAt?_colons ps hne []
      rwa [List.append_nil] at this
    rw [parseIpv6?, hcut]
    simp [side?_colons, h]
  next hlong =>
    -- numbers never hold two colons in a row, so the first two are those in place of the zeros
    have hcut : Text.cutAt? [':', ':'] (colons (ps.take at') ++ [':', ':'] ++
        colons (ps.drop (at' + n))) =
          some (colons (ps.take at'), colons (ps.drop (at' + n))) := by
      have hstart (t : Text) : Text.cutAt? [':', ':'] ([':', ':'] ++ t) = some ([], t) :=
        Text.cutAt?_append (x := []) rfl (by simp) t
      rw [List.append_assoc]
      by_cases hfront : ps.take at' = []
      · rw [hfront]
        exact hstart _
      · rw [cutAt?_colons _ hfront, hstart]
        simp
    have hlen := congrArg List.length hspec
    rw [List.length_append, List.length_append, List.length_replicate, h] at hlen
    rw [parseIpv6?, hcut]
    simp only [side?_colons, Option.bind_eq_bind, Option.bind_some]
    rw [if_pos (by omega), show 8 - (ps.take at').length - (ps.drop (at' + n)).length = n by omega,
      List.append_assoc, ← hspec]

theorem of_mem_colons (h : c ∈ colons ps) : c = ':' ∨ ∃ d < 16, c = d.digitChar := by
  rcases Text.of_mem_join h with h | ⟨t, ht, h⟩
  · exact .inl (List.mem_singleton.mp h)
  · obtain ⟨p, -, rfl⟩ := List.mem_map.mp ht
    exact .inr (Text.exists_of_mem_toDigits (by decide) h)

theorem of_mem_compressed (h : c ∈ compressed ps) : c = ':' ∨ ∃ d < 16, c = d.digitChar := by
  rw [compressed] at h
  split at h
  split at h
  · exact of_mem_colons h
  · rcases List.mem_append.mp h with h | h
    · rcases List.mem_append.mp h with h | h
      · exact of_mem_colons h
      · exact .inl (by simpa using h)
    · exact of_mem_colons h

/-- Without a colon there are not enough numbers. -/
theorem parseIpv6?_of_notMem (h : ':' ∉ t) : parseIpv6? t = none := by
  have hcut : Text.cutAt? [':', ':'] t = none := by
    have := Text.cutAt?_append_of_notMem (w := [':', ':']) rfl h []
    rwa [List.append_nil] at this
  have hsplit : Text.split ':' t = [t] :=
    Text.splitBy_of_free fun c hc => beq_eq_false_iff_ne.mpr fun he => h (he ▸ hc)
  rw [parseIpv6?, hcut]
  refine Option.bind_eq_none_iff.mpr fun ps hps => if_neg fun hlen => ?_
  rw [side?, hsplit] at hps
  split at hps
  · cases hps
    cases hlen
  · simp only [List.getLast?_singleton, List.dropLast_singleton] at hps
    split at hps
    · obtain ⟨front, hfront, hps⟩ := Option.bind_eq_some_iff.mp hps
      obtain ⟨bytes, -, hps⟩ := Option.bind_eq_some_iff.mp hps
      obtain rfl : [] = front := by simpa using hfront
      split at hps
      · cases hps
        cases hlen
      · cases hps
    · have := (Option.mapM_eq_some_iff.mp hps).length_eq
      rw [hlen] at this
      cases this

theorem exists_of_parseIpv6? {h : Host} (hp : parseIpv6? t = some h) :
    ∃ ps, h = ipv6 ps ∧ ps.length = 8 := by
  rw [parseIpv6?] at hp
  split at hp
  next =>
    obtain ⟨ps, -, hp⟩ := Option.bind_eq_some_iff.mp hp
    obtain ⟨hlen, rfl⟩ := by simpa using hp
    exact ⟨ps, rfl, hlen⟩
  next =>
    obtain ⟨l, -, hp⟩ := Option.bind_eq_some_iff.mp hp
    obtain ⟨r, -, hp⟩ := Option.bind_eq_some_iff.mp hp
    obtain ⟨hlen, rfl⟩ := by simpa using hp
    refine ⟨_, rfl, ?_⟩
    simp only [List.length_append, List.length_replicate]
    omega

/-! ### IPv4 -/

theorem number?_ofNat (h : n < 256) : number? (Text.ofNat n) = some (some n) := by
  have hall : ∀ n < 256, number? (Text.ofNat n) = some (some n) := by decide +kernel
  exact hall n h

theorem octet?_ofNat (h : n < 256) : octet? (Text.ofNat n) = some n := by
  have hall : ∀ n < 256, octet? (Text.ofNat n) = some n := by decide +kernel
  exact hall n h

theorem isDigit_of_mem_ofNat (h : c ∈ Text.ofNat n) : c.isDigit = true :=
  Nat.isDigit_of_mem_toDigits (by decide) (by decide) h

theorem notMem_ofNat (h : c.isDigit = false) : c ∉ Text.ofNat n := by
  intro hc
  rw [isDigit_of_mem_ofNat hc] at h
  cases h

theorem notMem_dotted (h : c.isDigit = false) (hc : c ≠ '.') : c ∉ dotted a b d e := by
  intro hmem
  rcases Text.of_mem_join hmem with hmem | ⟨t, ht, hmem⟩
  · exact hc (List.mem_singleton.mp hmem)
  · obtain ⟨n, -, rfl⟩ := List.mem_map.mp ht
    exact notMem_ofNat h hmem

theorem split_dotted (a b d e : UInt8) : Text.split '.' (dotted a b d e) =
    [Text.ofNat a.toNat, Text.ofNat b.toNat, Text.ofNat d.toNat, Text.ofNat e.toNat] := by
  refine Text.split_join (by simp) fun t ht => ?_
  obtain ⟨n, -, rfl⟩ := List.mem_map.mp ht
  exact notMem_ofNat rfl

theorem dotPieces_dotted (a b d e : UInt8) : dotPieces (dotted a b d e) =
    [Text.ofNat a.toNat, Text.ofNat b.toNat, Text.ofNat d.toNat, Text.ofNat e.toNat] := by
  have hne : Text.ofNat e.toNat ≠ [] := Nat.toDigits_ne_nil
  rw [dotPieces, split_dotted]
  simp [hne]

theorem endsInNumber_dotted (a b d e : UInt8) : endsInNumber (dotted a b d e) = true := by
  rw [endsInNumber, dotPieces_dotted]
  simp [number?_ofNat e.toNat_lt]

theorem ofNat4_eq (a b d e : UInt8) :
    ofNat4 ((((a.toNat * 256) + b.toNat) * 256 + d.toNat) * 256 + e.toNat) = ipv4 a b d e := by
  have ha := a.toNat_lt
  have hb := b.toNat_lt
  have hd := d.toNat_lt
  have he := e.toNat_lt
  rw [ofNat4, Nat.shiftRight_eq_div_pow, Nat.shiftRight_eq_div_pow, Nat.shiftRight_eq_div_pow]
  congr 1 <;> refine UInt8.toNat_inj.mp ?_ <;> rw [UInt8.toNat_ofNat'] <;> omega

theorem parseIpv4?_dotted (a b d e : UInt8) :
    parseIpv4? (dotted a b d e) = some (ipv4 a b d e) := by
  have ha := a.toNat_lt
  have hb := b.toNat_lt
  have hd := d.toNat_lt
  have he := e.toNat_lt
  have hnumbers : [Text.ofNat a.toNat, Text.ofNat b.toNat, Text.ofNat d.toNat,
      Text.ofNat e.toNat].mapM (fun p => (number? p).join) =
      some [a.toNat, b.toNat, d.toNat, e.toNat] := by
    simp [number?_ofNat, ha, hb, hd, he]
  have hfits : ¬ ([a.toNat, b.toNat, d.toNat].length > 3 ∨
      e.toNat ≥ 1 <<< (8 * (4 - [a.toNat, b.toNat, d.toNat].length)) ∨
      [a.toNat, b.toNat, d.toNat].any (· > 255) = true) := by
    simp
    omega
  rw [parseIpv4?, dotPieces_dotted, hnumbers]
  refine (if_neg hfits).trans ?_
  rw [← ofNat4_eq]
  simp [Nat.mul_comm]

/-! ### The form that the network shows -/

theorem mapM_octet? (a b d e : UInt8) :
    [Text.ofNat a.toNat, Text.ofNat b.toNat, Text.ofNat d.toNat, Text.ofNat e.toNat].mapM octet? =
      some [a.toNat, b.toNat, d.toNat, e.toNat] := by
  simp [octet?_ofNat, a.toNat_lt, b.toNat_lt, d.toNat_lt, e.toNat_lt]

theorem ofNat_bytes (n : UInt16) :
    UInt16.ofNat (256 * (n >>> 8).toUInt8.toNat + n.toUInt8.toNat) = n := by
  have hn := n.toNat_lt
  refine UInt16.toNat_inj.mp ?_
  rw [UInt16.toNat_ofNat', UInt16.toNat_toUInt8, UInt16.toNat_toUInt8, UInt16.toNat_shiftRight]
  simp only [Nat.shiftRight_eq_div_pow, UInt16.reduceToNat, Nat.reduceMod, Nat.reducePow]
  omega

theorem parseIpv6?_shown (h : ps.length = 8) : parseIpv6? (shown ps) = some (ipv6 ps) := by
  unfold shown
  split
  next high low =>
    generalize hdotted : dotted (high >>> 8).toUInt8 high.toUInt8 (low >>> 8).toUInt8
      low.toUInt8 = quad
    have hcolon : ':' ∉ quad := by
      rw [← hdotted]
      exact notMem_dotted rfl (by decide)
    have hsplit : Text.split ':' ("ffff".toList ++ ':' :: quad) = ["ffff".toList, quad] :=
      Text.split_join (List.cons_ne_nil "ffff".toList [quad]) (by simp [hcolon])
    have hdot : quad.contains '.' = true := by
      rw [← hdotted]
      simp [dotted, Text.join]
    have hbytes : (Text.split '.' quad).mapM octet? =
        some [(high >>> 8).toUInt8.toNat, high.toUInt8.toNat, (low >>> 8).toUInt8.toNat,
          low.toUInt8.toNat] := by
      rw [← hdotted, split_dotted, mapM_octet?]
    have hside : side? true ("ffff".toList ++ ':' :: quad) = some [0xFFFF, high, low] := by
      have hpiece : ["ffff".toList].mapM piece? = some [0xFFFF] := by decide
      rw [side?, if_neg nofun, hsplit]
      simp only [List.getLast?_cons_cons, List.getLast?_singleton, hdot, Bool.and_self, if_true,
        List.dropLast_cons_cons, List.dropLast_singleton, hpiece, hbytes, Option.bind_eq_bind,
        Option.bind_some, ofNat_bytes]
      rfl
    have hcut : Text.cutAt? [':', ':'] ("::ffff:".toList ++ quad) =
        some ([], "ffff".toList ++ ':' :: quad) :=
      Text.cutAt?_append (x := []) (w := [':', ':']) rfl (by simp) _
    have hnil : side? false [] = some [] := rfl
    rw [parseIpv6?, hcut]
    simp only [hside, hnil, Option.bind_eq_bind, Option.bind_some]
    rfl
  next => exact parseIpv6?_compressed h

end Host

end SiteGateway
