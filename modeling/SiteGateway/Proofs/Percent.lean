import SiteGateway.Percent
import SiteGateway.Proofs.Text.Utf8

/-!
# Escapes read back

Decoding works from left to right: a percent sign either opens an escape that the next two bytes
complete (`Completes`), or stands for itself. An escape never reaches past a byte that is no digit
(`decode_append_cons`), and encoding leaves what decoding gives as it is, or gives the bytes back
when percent signs are escaped too.
-/

namespace SiteGateway

namespace Percent
variable {b hi lo : UInt8} {x y bs rest : Bytes} {set : UInt8 → Bool}

/-! ### Decoding -/

/-- The bytes complete an escape that a percent sign opens. -/
def Completes (bs : Bytes) : Prop := ∃ hi lo rest b, bs = hi :: lo :: rest ∧ escape? hi lo = some b

theorem decode_escape (h : escape? hi lo = some b) :
    decode (0x25 :: hi :: lo :: rest) = b :: decode rest := by
  rw [decode, h]

theorem decode_cons_of_ne (h : b ≠ 0x25) : decode (b :: rest) = b :: decode rest := by
  rw [decode]
  rintro hi lo r rfl
  exact absurd rfl h

theorem decode_percent (h : ¬ Completes rest) : decode (0x25 :: rest) = 0x25 :: decode rest := by
  rcases rest with _ | ⟨hi, _ | ⟨lo, rest⟩⟩
  · rfl
  · rfl
  · cases he : escape? hi lo with
    | none => rw [decode, he]
    | some b => exact absurd ⟨hi, lo, rest, b, rfl, he⟩ h

/-- What is shown of the four ways in which decoding goes on holds of all bytes. -/
@[elab_as_elim]
theorem decode_induction {motive : Bytes → Prop} (bs : Bytes) (nil : motive [])
    (escape : ∀ hi lo b rest, escape? hi lo = some b → motive rest →
      motive (0x25 :: hi :: lo :: rest))
    (percent : ∀ rest, ¬ Completes rest → motive rest → motive (0x25 :: rest))
    (byte : ∀ b rest, b ≠ 0x25 → motive rest → motive (b :: rest)) : motive bs := by
  fun_induction decode bs with
  | case1 hi lo rest b h ih => exact escape hi lo b rest h ih
  | case2 hi lo rest h ih =>
    refine percent _ ?_ ih
    rintro ⟨hi', lo', rest', b, he, hb⟩
    cases he
    rw [h] at hb
    cases hb
  | case3 b rest h ih =>
    by_cases hb : b = 0x25
    · subst hb
      refine percent _ ?_ ih
      rintro ⟨hi, lo, r, b, rfl, -⟩
      exact h hi lo r rfl rfl
    · exact byte b rest hb ih
  | case4 => exact nil

theorem not_completes_cons (h : hexValue? b = none) : ¬ Completes (b :: rest) := by
  rintro ⟨hi, lo, r, v, he, hv⟩
  cases he
  simp [escape?, h] at hv

theorem not_completes_cons_cons (h : hexValue? lo = none) : ¬ Completes (b :: lo :: rest) := by
  rintro ⟨hi, lo', r, v, he, hv⟩
  cases he
  simp [escape?, h] at hv

/-- A byte that is neither a digit nor a percent sign stands between what is decoded before it and
what is decoded after it. -/
theorem decode_append_cons (hd : hexValue? b = none) (hb : b ≠ 0x25) :
    decode (x ++ b :: y) = decode x ++ b :: decode y := by
  induction x using decode_induction with
  | nil => exact decode_cons_of_ne hb
  | escape hi lo c rest h ih =>
    simp only [List.cons_append]
    rw [decode_escape h, decode_escape h, ih, List.cons_append]
  | percent rest h ih =>
    have h' : ¬ Completes (rest ++ b :: y) := by
      rintro ⟨hi, lo, r, v, he, hv⟩
      rcases rest with _ | ⟨c, _ | ⟨c', rest⟩⟩
      · exact not_completes_cons hd ⟨hi, lo, r, v, he, hv⟩
      · exact not_completes_cons_cons hd ⟨hi, lo, r, v, he, hv⟩
      · cases he
        exact h ⟨hi, lo, rest, v, rfl, hv⟩
    rw [List.cons_append, decode_percent h', decode_percent h, ih, List.cons_append]
  | byte c rest hc ih =>
    rw [List.cons_append, decode_cons_of_ne hc, decode_cons_of_ne hc, ih, List.cons_append]

theorem decode_eq_nil_iff : decode bs = [] ↔ bs = [] := by
  induction bs using decode_induction with
  | nil => simp [decode]
  | escape hi lo b rest h ih => simp [decode_escape h]
  | percent rest h ih => simp [decode_percent h]
  | byte b rest hb ih => simp [decode_cons_of_ne hb]

/-- The first decoded byte was written as an escape or as itself. -/
theorem exists_of_decode_eq_cons (h : decode bs = b :: y) :
    (∃ hi lo rest, bs = 0x25 :: hi :: lo :: rest ∧ escape? hi lo = some b ∧ decode rest = y) ∨
      ∃ rest, bs = b :: rest ∧ decode rest = y := by
  induction bs using decode_induction with
  | nil => cases h
  | escape hi lo c rest hc _ =>
    rw [decode_escape hc] at h
    cases h
    exact .inl ⟨hi, lo, rest, rfl, hc, rfl⟩
  | percent rest hn _ =>
    rw [decode_percent hn] at h
    cases h
    exact .inr ⟨rest, rfl, rfl⟩
  | byte c rest hc _ =>
    rw [decode_cons_of_ne hc] at h
    cases h
    exact .inr ⟨rest, rfl, rfl⟩

/-! ### Bytes that decoding leaves alone -/

theorem length_decode_le (bs : Bytes) : (decode bs).length ≤ bs.length := by
  induction bs using decode_induction with
  | nil => exact Nat.le_refl _
  | escape hi lo b rest h ih =>
    rw [decode_escape h]
    simp only [List.length_cons]
    omega
  | percent rest h ih =>
    rw [decode_percent h]
    exact Nat.succ_le_succ ih
  | byte b rest hb ih =>
    rw [decode_cons_of_ne hb]
    exact Nat.succ_le_succ ih

theorem noEscape_cons_iff : (∀ front rest, b :: bs = front ++ 0x25 :: rest → ¬ Completes rest) ↔
    (b = 0x25 → ¬ Completes bs) ∧
      ∀ front rest, bs = front ++ 0x25 :: rest → ¬ Completes rest := by
  constructor
  · exact fun h => ⟨fun hb => h [] bs (by rw [hb, List.nil_append]),
      fun front rest he => h (b :: front) rest (by rw [he, List.cons_append])⟩
  · rintro ⟨hb, hbs⟩ (_ | ⟨c, front⟩) rest he
    · obtain ⟨hc, rfl⟩ := List.cons.inj he
      exact hb hc
    · exact hbs front rest (List.cons.inj he).2

/-- Decoding leaves the bytes alone unless some percent sign opens an escape. -/
theorem decode_eq_self_iff :
    decode bs = bs ↔ ∀ front rest, bs = front ++ 0x25 :: rest → ¬ Completes rest := by
  induction bs using decode_induction with
  | nil => exact iff_of_true rfl fun front rest he => absurd he.symm (by simp)
  | escape hi lo b rest h ih =>
    refine iff_of_false (fun he => ?_) fun hn => hn [] _ rfl ⟨hi, lo, rest, b, rfl, h⟩
    have hlen := congrArg List.length he
    rw [decode_escape h, List.length_cons, List.length_cons, List.length_cons,
      List.length_cons] at hlen
    have := length_decode_le rest
    omega
  | percent rest h ih =>
    rw [decode_percent h, List.cons.injEq, ih, noEscape_cons_iff]
    exact and_congr_left' (iff_of_true rfl fun _ => h)
  | byte b rest hb ih =>
    rw [decode_cons_of_ne hb, List.cons.injEq, ih, noEscape_cons_iff]
    exact and_congr_left' (iff_of_true rfl fun he => absurd he hb)

/-- What is not shorter has been left alone. -/
theorem decode_eq_of_length_le (h : bs.length ≤ (decode bs).length) : decode bs = bs := by
  induction bs using decode_induction with
  | nil => rfl
  | escape hi lo b rest he ih =>
    have := length_decode_le rest
    rw [decode_escape he] at h
    simp only [List.length_cons] at h
    omega
  | percent rest hn ih =>
    rw [decode_percent hn] at h ⊢
    rw [ih (Nat.le_of_succ_le_succ h)]
  | byte b rest hb ih =>
    rw [decode_cons_of_ne hb] at h ⊢
    rw [ih (Nat.le_of_succ_le_succ h)]

theorem decode_append_cons_eq_self_iff (hd : hexValue? b = none) (hb : b ≠ 0x25) :
    decode (x ++ b :: y) = x ++ b :: y ↔ decode x = x ∧ decode y = y := by
  rw [decode_append_cons hd hb]
  constructor
  · intro h
    have hlen := congrArg List.length h
    simp only [List.length_append, List.length_cons] at hlen
    have hx := length_decode_le x
    have hy := length_decode_le y
    exact ⟨decode_eq_of_length_le (by omega), decode_eq_of_length_le (by omega)⟩
  · rintro ⟨hx, hy⟩
    rw [hx, hy]

/-! ### What a text spells -/

/-- The bytes that a text spells once its escapes are undone. -/
def spelled (t : Text) : Bytes := decode (Utf8.encode t)

theorem encode_slash_cons (t : Text) : Utf8.encode ('/' :: t) = 0x2F :: Utf8.encode t := rfl

theorem spelled_slash_cons (t : Text) : spelled ('/' :: t) = 0x2F :: spelled t :=
  decode_cons_of_ne (by decide)

theorem spelled_append_slash (s t : Text) :
    spelled (s ++ '/' :: t) = spelled s ++ 0x2F :: spelled t := by
  rw [spelled, Utf8.encode_append, encode_slash_cons]
  exact decode_append_cons (by decide) (by decide)

theorem spelled_append_backslash (s t : Text) :
    spelled (s ++ '\\' :: t) = spelled s ++ 0x5C :: spelled t := by
  rw [spelled, Utf8.encode_append, show Utf8.encode ('\\' :: t) = 0x5C :: Utf8.encode t from rfl]
  exact decode_append_cons (by decide) (by decide)

/-- A path spells what its segments spell, each after a slash. -/
theorem spelled_flatMap (ss : List Text) :
    spelled (ss.flatMap ('/' :: ·)) = ss.flatMap fun s => 0x2F :: spelled s := by
  induction ss with
  | nil => rfl
  | cons s ss ih =>
    rw [List.flatMap_cons, List.flatMap_cons, ← ih, List.cons_append, spelled_slash_cons]
    cases ss with
    | nil => simp [spelled, decode]
    | cons s' ss =>
      rw [List.flatMap_cons, List.cons_append, spelled_append_slash, spelled_slash_cons]
      rfl

/-! ### Digits -/

theorem forall_byte {p : UInt8 → Prop} (h : ∀ n : Fin 256, p (UInt8.ofNat n)) (b : UInt8) :
    p b := by
  have := h ⟨b.toNat, b.toNat_lt⟩
  rwa [UInt8.ofNat_toNat] at this

theorem hexValue?_le {v : UInt8} (h : hexValue? b = some v) : v.toNat ≤ 15 ∧ b.toNat < 0x80 := by
  have hall := forall_byte
    (p := fun b => (hexValue? b).all (fun v => v.toNat ≤ 15 && b.toNat < 0x80) = true)
    (by decide +kernel) b
  simpa [h] using hall

theorem escape?_eq_dot (h : escape? hi lo = some 0x2E) : hi = 0x32 ∧ (lo = 0x45 ∨ lo = 0x65) := by
  simp only [escape?, Option.bind_eq_bind, Option.bind_eq_some_iff, Option.pure_def,
    Option.some.injEq] at h
  obtain ⟨v, hv, w, hw, h⟩ := h
  have h₁ := (hexValue?_le hv).1
  have h₂ := (hexValue?_le hw).1
  have h₃ : 16 * v.toNat + w.toNat = 46 := by
    have := congrArg UInt8.toNat h
    simp at this; omega
  have hv₂ : v = 2 := UInt8.toNat_inj.mp (by rw [show v.toNat = 2 by omega]; rfl)
  have hw₂ : w = 14 := UInt8.toNat_inj.mp (by rw [show w.toNat = 14 by omega]; rfl)
  subst hv₂ hw₂
  exact ⟨forall_byte (p := fun b => hexValue? b = some 2 → b = 0x32) (by decide +kernel) hi hv,
    forall_byte (p := fun b => hexValue? b = some 14 → b = 0x45 ∨ b = 0x65) (by decide +kernel) lo
      hw⟩

/-! ### Encoding -/

theorem encode_escape (b : UInt8) :
    ∃ hi lo, Utf8.encode (escape b) = [0x25, hi, lo] ∧ escape? hi lo = some b :=
  forall_byte
    (p := fun b => ∃ hi lo, Utf8.encode (escape b) = [0x25, hi, lo] ∧ escape? hi lo = some b)
    (fun n => ⟨UInt8.ofNat (hexDigit (n / 16)).toNat, UInt8.ofNat (hexDigit (n % 16)).toNat, by
      revert n; decide +kernel⟩) b

theorem encode_cons (set : UInt8 → Bool) (b : UInt8) (bs : Bytes) :
    encode set (b :: bs) =
      (if b < 0x80 && !set b then [Char.ofNat b.toNat] else escape b) ++ encode set bs :=
  List.flatMap_cons

/-- The byte needs no escape. -/
def Clean (set : UInt8 → Bool) (b : UInt8) : Prop := b.toNat < 0x80 ∧ set b = false

instance (set : UInt8 → Bool) (b : UInt8) : Decidable (Clean set b) :=
  inferInstanceAs (Decidable (_ ∧ _))

theorem clean_iff : Clean set b ↔ (b < 0x80 && !set b) = true := by
  simp [Clean, UInt8.lt_iff_toNat_lt]

theorem encode_cons_of_clean (h : Clean set b) :
    Utf8.encode (encode set (b :: bs)) = b :: Utf8.encode (encode set bs) := by
  have hb : b.toNat < 0x80 := h.1
  have hn : (Char.ofNat b.toNat).toNat = b.toNat := by
    rw [Char.ofNat, dif_pos (.inl (by omega))]; rfl
  rw [encode_cons, if_pos (clean_iff.mp h), List.singleton_append,
    Utf8.encode_cons_of_lt (by omega), hn, UInt8.ofNat_toNat]

theorem encode_cons_of_not_clean (bs : Bytes) (h : ¬ Clean set b) :
    ∃ hi lo, escape? hi lo = some b ∧
      Utf8.encode (encode set (b :: bs)) = 0x25 :: hi :: lo :: Utf8.encode (encode set bs) := by
  obtain ⟨hi, lo, he, hb⟩ := encode_escape b
  refine ⟨hi, lo, hb, ?_⟩
  rw [encode_cons, if_neg fun hc => h (clean_iff.mpr hc), Utf8.encode_append, he]
  rfl

/-- A byte of what is encoded comes through as it is or belongs to an escape. -/
theorem of_mem_encode (h : b ∈ Utf8.encode (encode set bs)) :
    (b ∈ bs ∧ Clean set b) ∨
      ∃ hi lo c, escape? hi lo = some c ∧ (b = 0x25 ∨ b = hi ∨ b = lo) := by
  induction bs with
  | nil => cases h
  | cons c bs ih =>
    by_cases hc : Clean set c
    · rw [encode_cons_of_clean hc] at h
      rcases List.mem_cons.mp h with rfl | h
      · exact .inl ⟨List.mem_cons_self, hc⟩
      · exact (ih h).imp_left fun ⟨hb, hclean⟩ => ⟨List.mem_cons_of_mem _ hb, hclean⟩
    · obtain ⟨hi, lo, he, hw⟩ := encode_cons_of_not_clean bs hc
      rw [hw] at h
      simp only [List.mem_cons, ← or_assoc] at h
      rcases h with h | h
      · exact .inr ⟨hi, lo, c, he, or_assoc.mp h⟩
      · exact (ih h).imp_left fun ⟨hb, hclean⟩ => ⟨List.mem_cons_of_mem _ hb, hclean⟩

/-- With percent signs escaped, decoding undoes encoding. -/
theorem decode_encode (hset : set 0x25 = true) (bs : Bytes) :
    decode (Utf8.encode (encode set bs)) = bs := by
  induction bs with
  | nil => rfl
  | cons b bs ih =>
    by_cases hc : Clean set b
    · have hb : b ≠ 0x25 := by
        rintro rfl
        exact absurd hset (by simp [hc.2])
      rw [encode_cons_of_clean hc, decode_cons_of_ne hb, ih]
    · obtain ⟨hi, lo, hb, he⟩ := encode_cons_of_not_clean bs hc
      rw [he, decode_escape hb, ih]

/-- The set leaves escapes alone. -/
structure KeepsEscapes (set : UInt8 → Bool) : Prop where
  percent : Clean set 0x25
  digit : ∀ b, (hexValue? b).isSome → Clean set b

/-- Encoded bytes complete an escape only if the bytes do. -/
theorem completes_of_encode (h : Completes (Utf8.encode (encode set bs))) : Completes bs := by
  have hp : hexValue? 0x25 = none := by decide
  rcases bs with _ | ⟨hi, bs⟩
  · obtain ⟨hi, lo, r, b, he, -⟩ := h
    cases he
  by_cases hhi : Clean set hi
  · rw [encode_cons_of_clean hhi] at h
    rcases bs with _ | ⟨lo, bs⟩
    · obtain ⟨hi, lo, r, b, he, -⟩ := h
      cases he
    by_cases hlo : Clean set lo
    · rw [encode_cons_of_clean hlo] at h
      obtain ⟨hi', lo', r, b, he, hb⟩ := h
      cases he
      exact ⟨hi, lo, bs, b, rfl, hb⟩
    · obtain ⟨_, _, -, he⟩ := encode_cons_of_not_clean bs hlo
      rw [he] at h
      exact absurd h (not_completes_cons_cons hp)
  · obtain ⟨_, _, -, he⟩ := encode_cons_of_not_clean bs hhi
    rw [he] at h
    exact absurd h (not_completes_cons hp)

namespace KeepsEscapes

theorem clean_of_escape? (hset : KeepsEscapes set) (h : escape? hi lo = some b) :
    Clean set hi ∧ Clean set lo := by
  simp only [escape?, Option.bind_eq_bind, Option.bind_eq_some_iff] at h
  obtain ⟨v, hv, w, hw, -⟩ := h
  exact ⟨hset.digit hi (by simp [hv]), hset.digit lo (by simp [hw])⟩

/-- Encoding leaves what the bytes decode to. -/
theorem decode_encode (hset : KeepsEscapes set) (bs : Bytes) :
    decode (Utf8.encode (encode set bs)) = decode bs := by
  induction bs using decode_induction with
  | nil => rfl
  | escape hi lo b rest h ih =>
    obtain ⟨hhi, hlo⟩ := hset.clean_of_escape? h
    rw [encode_cons_of_clean hset.percent, encode_cons_of_clean hhi, encode_cons_of_clean hlo,
      decode_escape h, decode_escape h, ih]
  | percent rest h ih =>
    rw [encode_cons_of_clean hset.percent, decode_percent h,
      decode_percent fun hc => h (completes_of_encode hc), ih]
  | byte b rest hb ih =>
    by_cases hc : Clean set b
    · rw [encode_cons_of_clean hc, decode_cons_of_ne hb, decode_cons_of_ne hb, ih]
    · obtain ⟨hi, lo, he, hw⟩ := encode_cons_of_not_clean rest hc
      rw [hw, decode_escape he, decode_cons_of_ne hb, ih]

theorem clean_of_mem_encode (hset : KeepsEscapes set) (h : b ∈ Utf8.encode (encode set bs)) :
    Clean set b := by
  rcases of_mem_encode h with ⟨-, hc⟩ | ⟨hi, lo, c, he, hb⟩
  · exact hc
  · obtain ⟨hhi, hlo⟩ := hset.clean_of_escape? he
    rcases hb with rfl | rfl | rfl
    · exact hset.percent
    · exact hhi
    · exact hlo

end KeepsEscapes

theorem mem_of_mem_encode (hp : b ≠ 0x25) (hd : hexValue? b = none)
    (h : b ∈ Utf8.encode (encode set bs)) : b ∈ bs := by
  rcases of_mem_encode h with ⟨hb, -⟩ | ⟨hi, lo, c, he, hb⟩
  · exact hb
  · simp only [escape?, Option.bind_eq_bind, Option.bind_eq_some_iff] at he
    obtain ⟨v, hv, u, hu, -⟩ := he
    rcases hb with rfl | rfl | rfl
    · exact absurd rfl hp
    · rw [hd] at hv; cases hv
    · rw [hd] at hu; cases hu

theorem encode_of_clean (h : ∀ b ∈ bs, Clean set b) : Utf8.encode (encode set bs) = bs := by
  induction bs with
  | nil => rfl
  | cons b bs ih =>
    rw [encode_cons_of_clean (h b (by simp)), ih fun c hc => h c (by simp [hc])]

end Percent

end SiteGateway
