import SiteGateway.Text.Utf8

/-!
# Encoded text reads back

The encoding of a character is one unit, the character itself, so decoding gives back every text
that was encoded (`decode?_encode`), and no two texts have one encoding. A unit that is a character
holds just the bytes of it, so nothing else is decoded (`decode?_eq_some_iff`), and a text starts
with another when its bytes do (`encode_prefix_iff`).
-/

namespace SiteGateway

namespace Utf8
variable {s t : Text} {c : Char} {b b₁ b₂ b₃ lo hi : UInt8} {n k v x : Nat} {rest bs : Bytes}

@[simp] theorem encode_nil : encode [] = [] := rfl

@[simp] theorem encode_append (s t : Text) : encode (s ++ t) = encode s ++ encode t :=
  List.flatMap_append

theorem encode_cons (c : Char) (t : Text) : encode (c :: t) = String.utf8EncodeChar c ++ encode t :=
  List.flatMap_cons

/-! ### The first byte of a character -/

theorem lead?_two (h : 0xC2 ≤ b.toNat) (h' : b.toNat ≤ 0xDF) : lead? b = some (1, 0x80, 0xBF) := by
  simp only [lead?, UInt8.le_iff_toNat_le]
  exact if_pos ⟨h, h'⟩

/-- Three bytes: the second may not write a character that two bytes write, nor half a pair. -/
theorem lead?_three (h : 0xE0 ≤ b.toNat) (h' : b.toNat ≤ 0xEF) :
    ∃ lo hi, lead? b = some (2, lo, hi) ∧
      lo.toNat = (if b.toNat = 0xE0 then 0xA0 else 0x80) ∧
      hi.toNat = (if b.toNat = 0xED then 0x9F else 0xBF) := by
  have h₂ : ¬ (0xC2 ≤ b ∧ b ≤ 0xDF) := by
    simp only [UInt8.le_iff_toNat_le, UInt8.reduceToNat]; omega
  rw [lead?, if_neg h₂]
  by_cases h₀ : b = 0xE0
  · subst h₀; exact ⟨0xA0, 0xBF, rfl, rfl, rfl⟩
  by_cases hd : b = 0xED
  · subst hd; exact ⟨0x80, 0x9F, rfl, rfl, rfl⟩
  have h₀' : b.toNat ≠ 0xE0 := fun h => h₀ (UInt8.toNat_inj.mp h)
  have hd' : b.toNat ≠ 0xED := fun h => hd (UInt8.toNat_inj.mp h)
  have h₁ : 0xE1 ≤ b ∧ b ≤ 0xEF := by
    simp only [UInt8.le_iff_toNat_le, UInt8.reduceToNat]; omega
  rw [if_neg h₀, if_neg hd, if_pos h₁, if_neg h₀', if_neg hd']
  exact ⟨0x80, 0xBF, rfl, rfl, rfl⟩

/-- Four bytes: the second may not write a character that three bytes write, nor one past the
last. -/
theorem lead?_four (h : 0xF0 ≤ b.toNat) (h' : b.toNat ≤ 0xF4) :
    ∃ lo hi, lead? b = some (3, lo, hi) ∧
      lo.toNat = (if b.toNat = 0xF0 then 0x90 else 0x80) ∧
      hi.toNat = (if b.toNat = 0xF4 then 0x8F else 0xBF) := by
  have h₂ : ¬ (0xC2 ≤ b ∧ b ≤ 0xDF) := by
    simp only [UInt8.le_iff_toNat_le, UInt8.reduceToNat]; omega
  have he : b ≠ 0xE0 := by rintro rfl; simp at h
  have hd : b ≠ 0xED := by rintro rfl; simp at h
  have h₁ : ¬ (0xE1 ≤ b ∧ b ≤ 0xEF) := by
    simp only [UInt8.le_iff_toNat_le, UInt8.reduceToNat]; omega
  rw [lead?, if_neg h₂, if_neg he, if_neg hd, if_neg h₁]
  by_cases h₀ : b = 0xF0
  · subst h₀; exact ⟨0x90, 0xBF, rfl, rfl, rfl⟩
  by_cases h₄ : b = 0xF4
  · subst h₄; exact ⟨0x80, 0x8F, rfl, rfl, rfl⟩
  have h₀' : b.toNat ≠ 0xF0 := fun h => h₀ (UInt8.toNat_inj.mp h)
  have h₄' : b.toNat ≠ 0xF4 := fun h => h₄ (UInt8.toNat_inj.mp h)
  have h₃ : 0xF1 ≤ b ∧ b ≤ 0xF3 := by
    simp only [UInt8.le_iff_toNat_le, UInt8.reduceToNat]; omega
  rw [if_neg h₀, if_neg h₄, if_pos h₃, if_neg h₀', if_neg h₄']
  exact ⟨0x80, 0xBF, rfl, rfl, rfl⟩

/-! ### The bytes after the first -/

theorem tails_cons (h : lo.toNat ≤ b.toNat) (h' : b.toNat ≤ hi.toNat) :
    tails (n + 1) lo hi v (b :: rest) =
      ((tails n 0x80 0xBF (64 * v + b.toNat % 64) rest).1,
        (tails n 0x80 0xBF (64 * v + b.toNat % 64) rest).2 + 1) :=
  if_pos ⟨UInt8.le_iff_toNat_le.mpr h, UInt8.le_iff_toNat_le.mpr h'⟩

theorem toNat_ofNat_of_lt {x : Nat} (h : x < 256) : (UInt8.ofNat x).toNat = x := by
  rw [UInt8.toNat_ofNat', Nat.mod_eq_of_lt h]

theorem tails_more {x : Nat} (h : 0x80 ≤ x) (h' : x ≤ 0xBF) :
    tails (n + 1) 0x80 0xBF v (UInt8.ofNat x :: rest) =
      ((tails n 0x80 0xBF (64 * v + x % 64) rest).1,
        (tails n 0x80 0xBF (64 * v + x % 64) rest).2 + 1) := by
  have hx : (UInt8.ofNat x).toNat = x := toNat_ofNat_of_lt (by omega)
  rw [tails_cons] <;> rw [hx]
  · exact h
  · exact h'

/-! ### Characters -/

theorem unit_of_lead? {k : Nat} (hb : 0x80 ≤ b.toNat) (h : lead? b = some (k, lo, hi)) :
    unit b rest =
      ((tails k lo hi (b.toNat % (1 <<< (6 - k))) rest).1.map Char.ofNat,
        (tails k lo hi (b.toNat % (1 <<< (6 - k))) rest).2) := by
  have hb' : ¬ b < 0x80 := by
    simp only [UInt8.lt_iff_toNat_lt, UInt8.reduceToNat]; omega
  rw [unit, if_neg hb', h]

theorem unit_one (h : n ≤ 0x7F) : unit (UInt8.ofNat n) rest = (some (Char.ofNat n), 0) := by
  have hn : (UInt8.ofNat n).toNat = n := toNat_ofNat_of_lt (by omega)
  have hlt : UInt8.ofNat n < 0x80 := by
    rw [UInt8.lt_iff_toNat_lt, hn]
    exact Nat.lt_of_le_of_lt h (by decide)
  rw [unit, if_pos hlt, hn]

theorem unit_two (h : 0x7F < n) (h' : n ≤ 0x7FF) :
    unit (UInt8.ofNat (n / 64 % 32 + 192)) (UInt8.ofNat (n % 64 + 128) :: rest) =
      (some (Char.ofNat n), 1) := by
  have hb : (UInt8.ofNat (n / 64 % 32 + 192)).toNat = n / 64 + 192 := by
    rw [toNat_ofNat_of_lt (by omega)]; omega
  rw [unit_of_lead? (by omega) (lead?_two (by omega) (by omega)), hb,
    tails_more (by omega) (by omega)]
  have hval : 64 * ((n / 64 + 192) % (1 <<< (6 - 1))) + (n % 64 + 128) % 64 = n := by
    simp; omega
  rw [hval]; rfl

theorem unit_three (hv : n < 0xD800 ∨ 0xDFFF < n) (h : 0x7FF < n) (h' : n ≤ 0xFFFF) :
    unit (UInt8.ofNat (n / 4096 % 16 + 224))
        (UInt8.ofNat (n / 64 % 64 + 128) :: UInt8.ofNat (n % 64 + 128) :: rest) =
      (some (Char.ofNat n), 2) := by
  have hb : (UInt8.ofNat (n / 4096 % 16 + 224)).toNat = n / 4096 + 224 := by
    rw [toNat_ofNat_of_lt (by omega)]; omega
  have hm : (UInt8.ofNat (n / 64 % 64 + 128)).toNat = n / 64 % 64 + 128 :=
    toNat_ofNat_of_lt (by omega)
  obtain ⟨lo, hi, hl, hlo, hhi⟩ :=
    lead?_three (b := UInt8.ofNat (n / 4096 % 16 + 224)) (by omega) (by omega)
  rw [hb] at hlo hhi
  rw [unit_of_lead? (by omega) hl, hb,
    tails_cons (by rw [hlo, hm]; split <;> omega) (by rw [hhi, hm]; split <;> omega), hm,
    tails_more (by omega) (by omega)]
  have hval : 64 * (64 * ((n / 4096 + 224) % (1 <<< (6 - 2))) + (n / 64 % 64 + 128) % 64) +
      (n % 64 + 128) % 64 = n := by
    simp; omega
  rw [hval]; rfl

theorem unit_four (h : 0xFFFF < n) (h' : n < 0x110000) :
    unit (UInt8.ofNat (n / 262144 % 8 + 240))
        (UInt8.ofNat (n / 4096 % 64 + 128) :: UInt8.ofNat (n / 64 % 64 + 128) ::
          UInt8.ofNat (n % 64 + 128) :: rest) =
      (some (Char.ofNat n), 3) := by
  have hb : (UInt8.ofNat (n / 262144 % 8 + 240)).toNat = n / 262144 + 240 := by
    rw [toNat_ofNat_of_lt (by omega)]; omega
  have hm : (UInt8.ofNat (n / 4096 % 64 + 128)).toNat = n / 4096 % 64 + 128 :=
    toNat_ofNat_of_lt (by omega)
  obtain ⟨lo, hi, hl, hlo, hhi⟩ :=
    lead?_four (b := UInt8.ofNat (n / 262144 % 8 + 240)) (by omega) (by omega)
  rw [hb] at hlo hhi
  rw [unit_of_lead? (by omega) hl, hb,
    tails_cons (by rw [hlo, hm]; split <;> omega) (by rw [hhi, hm]; split <;> omega), hm,
    tails_more (by omega) (by omega), tails_more (by omega) (by omega)]
  have hval : 64 * (64 * (64 * ((n / 262144 + 240) % (1 <<< (6 - 3))) +
      (n / 4096 % 64 + 128) % 64) + (n / 64 % 64 + 128) % 64) + (n % 64 + 128) % 64 = n := by
    simp; omega
  rw [hval]; rfl

/-- A character is read from its bytes, whatever follows them. -/
theorem unit_utf8EncodeChar (c : Char) (rest : Bytes) :
    ∃ b bs, String.utf8EncodeChar c = b :: bs ∧ unit b (bs ++ rest) = (some c, bs.length) := by
  have hv : c.val.toNat < 0xD800 ∨ 0xDFFF < c.val.toNat ∧ c.val.toNat < 0x110000 := c.valid
  have hc : Char.ofNat c.val.toNat = c := Char.ofNat_toNat c
  unfold String.utf8EncodeChar
  generalize c.val.toNat = n at hv hc
  by_cases h₁ : n ≤ 0x7F
  · exact ⟨_, _, if_pos h₁, by rw [← hc]; exact unit_one h₁⟩
  rw [if_neg h₁]
  by_cases h₂ : n ≤ 0x7FF
  · exact ⟨_, _, if_pos h₂, by rw [← hc]; exact unit_two (by omega) h₂⟩
  rw [if_neg h₂]
  by_cases h₃ : n ≤ 0xFFFF
  · exact ⟨_, _, if_pos h₃, by rw [← hc]; exact unit_three (by omega) (by omega) h₃⟩
  · rw [if_neg h₃]
    exact ⟨_, _, rfl, by rw [← hc]; exact unit_four (by omega) (by omega)⟩

theorem utf8EncodeChar_of_lt (h : c.toNat < 0x80) :
    String.utf8EncodeChar c = [UInt8.ofNat c.toNat] := by
  have h' : c.val.toNat ≤ 0x7F := Nat.le_of_lt_succ h
  exact if_pos h'

theorem encode_cons_of_lt (h : c.toNat < 0x80) :
    encode (c :: t) = UInt8.ofNat c.toNat :: encode t := by
  rw [encode_cons, utf8EncodeChar_of_lt h, List.singleton_append]

theorem le_of_mem_utf8EncodeChar (hc : 0x80 ≤ c.toNat) (h : b ∈ String.utf8EncodeChar c) :
    0x80 ≤ b.toNat := by
  have hc' : 0x80 ≤ c.val.toNat := hc
  have hv : c.val.toNat < 0xD800 ∨ 0xDFFF < c.val.toNat ∧ c.val.toNat < 0x110000 := c.valid
  unfold String.utf8EncodeChar at h
  generalize c.val.toNat = n at hc' hv h
  have hle (x : Nat) (hx : 0x80 ≤ x) (hx' : x < 256) (hb : b = UInt8.ofNat x) : 0x80 ≤ b.toNat := by
    rw [hb, toNat_ofNat_of_lt hx']; exact hx
  simp only at h
  split at h
  · omega
  · split at h
    · simp only [List.mem_cons, List.not_mem_nil, or_false] at h
      rcases h with h | h <;> exact hle _ (by omega) (by omega) h
    · split at h
      · simp only [List.mem_cons, List.not_mem_nil, or_false] at h
        rcases h with h | h | h <;> exact hle _ (by omega) (by omega) h
      · simp only [List.mem_cons, List.not_mem_nil, or_false] at h
        rcases h with h | h | h | h <;> exact hle _ (by omega) (by omega) h

theorem mem_of_mem_encode (hb : b.toNat < 0x80) (h : b ∈ encode t) :
    Char.ofNat b.toNat ∈ t := by
  obtain ⟨c, hc, hbc⟩ := List.mem_flatMap.mp h
  by_cases hlt : c.toNat < 0x80
  · rw [utf8EncodeChar_of_lt hlt] at hbc
    obtain rfl := List.mem_singleton.mp hbc
    rw [toNat_ofNat_of_lt (by omega)]
    rwa [Char.ofNat_toNat]
  · have := le_of_mem_utf8EncodeChar (by omega) hbc
    omega

/-- A text whose last byte is ASCII ends in the character of that byte. -/
theorem getLast?_of_getLast?_encode (hb : b.toNat < 0x80) (h : (encode t).getLast? = some b) :
    t.getLast? = some (Char.ofNat b.toNat) := by
  rcases List.eq_nil_or_concat t with rfl | ⟨x, c, rfl⟩
  · cases h
  · have hne : encode [c] ≠ [] := by
      rw [encode, List.flatMap_singleton]
      exact String.utf8EncodeChar_ne_nil
    rw [List.concat_eq_append] at h ⊢
    rw [encode_append, List.getLast?_append, List.getLast?_eq_some_getLast hne, Option.some_or,
      Option.some.injEq] at h
    obtain rfl := List.mem_singleton.mp (mem_of_mem_encode hb (h ▸ List.getLast_mem hne))
    exact List.getLast?_concat

theorem units_encode_append (s : Text) (bs : Bytes) :
    units (encode s ++ bs) = s.map some ++ units bs := by
  induction s with
  | nil => rfl
  | cons c s ih =>
    obtain ⟨b, cs, hc, hu⟩ := unit_utf8EncodeChar c (encode s ++ bs)
    rw [encode_cons, hc, List.cons_append, List.cons_append, units_cons, List.append_assoc, hu]
    simp [ih]

@[simp] theorem decode?_encode (t : Text) : decode? (encode t) = some t := by
  rw [decode?_eq_some_iff_units, ← List.append_nil (encode t), units_encode_append, units_nil,
    List.append_nil]

@[simp] theorem decodeLossy_encode (t : Text) : decodeLossy (encode t) = t :=
  decodeLossy_of_decode? (decode?_encode t)

theorem encode_inj : encode s = encode t ↔ s = t := by
  refine ⟨fun h => ?_, fun h => h ▸ rfl⟩
  have h : decode? (encode s) = decode? (encode t) := by rw [h]
  simpa using h

/-! ### Nothing else reads as text -/

theorem of_eq_ite {p q : Prop} [Decidable p] [Decidable q] {x y l u : Nat}
    (hx : x = if p then l else 0x80) (hy : y = if q then u else 0xBF) (hl : 0x80 ≤ l)
    (hu : u ≤ 0xBF) : 0x80 ≤ x ∧ y ≤ 0xBF ∧ (p → l ≤ x) ∧ (q → y ≤ u) := by
  refine ⟨?_, ?_, fun hp => ?_, fun hq => ?_⟩
  · rw [hx]
    split
    · exact hl
    · exact Nat.le_refl _
  · rw [hy]
    split
    · exact hu
    · exact Nat.le_refl _
  · exact Nat.le_of_eq (hx.trans (if_pos hp)).symm
  · exact Nat.le_of_eq (hy.trans (if_pos hq))

/-- What the first byte says about the bytes after it. -/
theorem of_lead? (h : lead? b = some (k, lo, hi)) :
    0x80 ≤ lo.toNat ∧ hi.toNat ≤ 0xBF ∧
      ((k = 1 ∧ 0xC2 ≤ b.toNat ∧ b.toNat ≤ 0xDF) ∨
        (k = 2 ∧ 0xE0 ≤ b.toNat ∧ b.toNat ≤ 0xEF ∧ (b.toNat = 0xE0 → 0xA0 ≤ lo.toNat) ∧
          (b.toNat = 0xED → hi.toNat ≤ 0x9F)) ∨
        (k = 3 ∧ 0xF0 ≤ b.toNat ∧ b.toNat ≤ 0xF4 ∧ (b.toNat = 0xF0 → 0x90 ≤ lo.toNat) ∧
          (b.toNat = 0xF4 → hi.toNat ≤ 0x8F))) := by
  by_cases h₂ : 0xC2 ≤ b.toNat ∧ b.toNat ≤ 0xDF
  · rw [lead?_two h₂.1 h₂.2] at h
    cases h
    exact ⟨by decide, by decide, .inl ⟨rfl, h₂⟩⟩
  by_cases h₃ : 0xE0 ≤ b.toNat ∧ b.toNat ≤ 0xEF
  · obtain ⟨lo', hi', hl, hlo, hhi⟩ := lead?_three h₃.1 h₃.2
    rw [hl] at h
    cases h
    obtain ⟨hlow, hhigh, hfirst, hlast⟩ := of_eq_ite hlo hhi (by decide) (by decide)
    exact ⟨hlow, hhigh, .inr (.inl ⟨rfl, h₃.1, h₃.2, hfirst, hlast⟩)⟩
  by_cases h₄ : 0xF0 ≤ b.toNat ∧ b.toNat ≤ 0xF4
  · obtain ⟨lo', hi', hl, hlo, hhi⟩ := lead?_four h₄.1 h₄.2
    rw [hl] at h
    cases h
    obtain ⟨hlow, hhigh, hfirst, hlast⟩ := of_eq_ite hlo hhi (by decide) (by decide)
    exact ⟨hlow, hhigh, .inr (.inr ⟨rfl, h₄.1, h₄.2, hfirst, hlast⟩)⟩
  · simp only [lead?, UInt8.le_iff_toNat_le, ← UInt8.toNat_inj, UInt8.reduceToNat] at h
    repeat' split at h
    all_goals first | omega | cases h

theorem of_tails_succ (h : tails (n + 1) lo hi v bs = (some x, k)) :
    ∃ c cs m, bs = c :: cs ∧ k = m + 1 ∧ lo.toNat ≤ c.toNat ∧ c.toNat ≤ hi.toNat ∧
      tails n 0x80 0xBF (64 * v + c.toNat % 64) cs = (some x, m) := by
  cases bs with
  | nil => cases h
  | cons c cs =>
    rw [tails] at h
    split at h
    · rename_i hc
      obtain ⟨hx, rfl⟩ := Prod.mk.inj h
      exact ⟨c, cs, _, rfl, rfl, UInt8.le_iff_toNat_le.mp hc.1, UInt8.le_iff_toNat_le.mp hc.2,
        Prod.ext hx rfl⟩
    · cases h

theorem ofNat_of_toNat_eq (h : b.toNat = x) : UInt8.ofNat x = b := by
  rw [← h, UInt8.ofNat_toNat]

theorem val_ofNat (h : x < 0xD800 ∨ 0xDFFF < x ∧ x < 0x110000) : (Char.ofNat x).val.toNat = x := by
  rw [Char.ofNat, dif_pos h]
  rfl

theorem utf8EncodeChar_two (h : 0xC2 ≤ b.toNat) (h' : b.toNat ≤ 0xDF) (h₁ : 0x80 ≤ b₁.toNat)
    (h₁' : b₁.toNat ≤ 0xBF) :
    String.utf8EncodeChar (Char.ofNat (64 * (b.toNat % 32) + b₁.toNat % 64)) = [b, b₁] := by
  rw [String.utf8EncodeChar, val_ofNat (by omega), if_neg (by omega), if_pos (by omega),
    ofNat_of_toNat_eq (b := b) (by omega), ofNat_of_toNat_eq (b := b₁) (by omega)]

theorem utf8EncodeChar_three (h : 0xE0 ≤ b.toNat) (h' : b.toNat ≤ 0xEF) (h₁ : 0x80 ≤ b₁.toNat)
    (h₁' : b₁.toNat ≤ 0xBF) (hlo : b.toNat = 0xE0 → 0xA0 ≤ b₁.toNat)
    (hhi : b.toNat = 0xED → b₁.toNat ≤ 0x9F) (h₂ : 0x80 ≤ b₂.toNat) (h₂' : b₂.toNat ≤ 0xBF) :
    String.utf8EncodeChar
        (Char.ofNat (64 * (64 * (b.toNat % 16) + b₁.toNat % 64) + b₂.toNat % 64)) =
      [b, b₁, b₂] := by
  have hb : b.toNat % 16 = b.toNat - 224 := by omega
  have hb₁ : b₁.toNat % 64 = b₁.toNat - 128 := by omega
  have hb₂ : b₂.toNat % 64 = b₂.toNat - 128 := by omega
  rw [hb, hb₁, hb₂, String.utf8EncodeChar, val_ofNat (by omega), if_neg (by omega),
    if_neg (by omega), if_pos (by omega), ofNat_of_toNat_eq (b := b) (by omega),
    ofNat_of_toNat_eq (b := b₁) (by omega), ofNat_of_toNat_eq (b := b₂) (by omega)]

theorem utf8EncodeChar_four (h : 0xF0 ≤ b.toNat) (h' : b.toNat ≤ 0xF4) (h₁ : 0x80 ≤ b₁.toNat)
    (h₁' : b₁.toNat ≤ 0xBF) (hlo : b.toNat = 0xF0 → 0x90 ≤ b₁.toNat)
    (hhi : b.toNat = 0xF4 → b₁.toNat ≤ 0x8F) (h₂ : 0x80 ≤ b₂.toNat) (h₂' : b₂.toNat ≤ 0xBF)
    (h₃ : 0x80 ≤ b₃.toNat) (h₃' : b₃.toNat ≤ 0xBF) :
    String.utf8EncodeChar (Char.ofNat
        (64 * (64 * (64 * (b.toNat % 8) + b₁.toNat % 64) + b₂.toNat % 64) + b₃.toNat % 64)) =
      [b, b₁, b₂, b₃] := by
  have hb : b.toNat % 8 = b.toNat - 240 := by omega
  have hb₁ : b₁.toNat % 64 = b₁.toNat - 128 := by omega
  have hb₂ : b₂.toNat % 64 = b₂.toNat - 128 := by omega
  have hb₃ : b₃.toNat % 64 = b₃.toNat - 128 := by omega
  rw [hb, hb₁, hb₂, hb₃, String.utf8EncodeChar, val_ofNat (by omega), if_neg (by omega),
    if_neg (by omega), if_neg (by omega), ofNat_of_toNat_eq (b := b) (by omega),
    ofNat_of_toNat_eq (b := b₁) (by omega), ofNat_of_toNat_eq (b := b₂) (by omega),
    ofNat_of_toNat_eq (b := b₃) (by omega)]

theorem utf8EncodeChar_of_unit (h : unit b rest = (some c, n)) :
    String.utf8EncodeChar c = b :: rest.take n := by
  by_cases hb : b < 0x80
  · rw [unit, if_pos hb] at h
    cases h
    have hb' : b.toNat < 0x80 := UInt8.lt_iff_toNat_lt.mp hb
    have hc : (Char.ofNat b.toNat).toNat = b.toNat := val_ofNat (by omega)
    rw [utf8EncodeChar_of_lt (by omega), hc, UInt8.ofNat_toNat]
    rfl
  cases hl : lead? b with
  | none =>
    rw [unit, if_neg hb, hl] at h
    cases h
  | some l =>
    obtain ⟨k, lo, hi⟩ := l
    have hb' : 0x80 ≤ b.toNat := by
      rw [UInt8.lt_iff_toNat_lt] at hb
      exact Nat.not_lt.mp hb
    rw [unit_of_lead? hb' hl] at h
    obtain ⟨hc, hn⟩ := Prod.ext_iff.mp h
    obtain ⟨x, hx, rfl⟩ := Option.map_eq_some_iff.mp hc
    have ht : tails k lo hi (b.toNat % (1 <<< (6 - k))) rest = (some x, n) := Prod.ext hx hn
    obtain ⟨hlo, hhi, hk⟩ := of_lead? hl
    rcases hk with ⟨rfl, h₀, h₀'⟩ | ⟨rfl, h₀, h₀', hl, hh⟩ | ⟨rfl, h₀, h₀', hl, hh⟩
    · obtain ⟨b₁, _, _, rfl, rfl, h₁, h₁', ht⟩ := of_tails_succ ht
      cases ht
      exact utf8EncodeChar_two h₀ h₀' (by omega) (by omega)
    · obtain ⟨b₁, _, _, rfl, rfl, h₁, h₁', ht⟩ := of_tails_succ ht
      obtain ⟨b₂, _, _, rfl, rfl, h₂, h₂', ht⟩ := of_tails_succ ht
      cases ht
      exact utf8EncodeChar_three h₀ h₀' (by omega) (by omega) (by omega) (by omega) h₂ h₂'
    · obtain ⟨b₁, _, _, rfl, rfl, h₁, h₁', ht⟩ := of_tails_succ ht
      obtain ⟨b₂, _, _, rfl, rfl, h₂, h₂', ht⟩ := of_tails_succ ht
      obtain ⟨b₃, _, _, rfl, rfl, h₃, h₃', ht⟩ := of_tails_succ ht
      cases ht
      exact utf8EncodeChar_four h₀ h₀' (by omega) (by omega) (by omega) (by omega) h₂ h₂' h₃ h₃'

theorem eq_encode_of_units {us : List Char} (h : units bs = us.map some) : bs = encode us := by
  induction us generalizing bs with
  | nil =>
    cases bs with
    | nil => rfl
    | cons b rest => rw [units_cons] at h; cases h
  | cons c us ih =>
    cases bs with
    | nil => cases h
    | cons b rest =>
      rw [units_cons, List.map_cons] at h
      obtain ⟨hc, hus⟩ := List.cons.inj h
      have hu : unit b rest = (some c, (unit b rest).2) := Prod.ext hc rfl
      rw [encode_cons, utf8EncodeChar_of_unit hu, ← ih hus, List.cons_append,
        List.take_append_drop]

theorem decode?_eq_some_iff : decode? bs = some t ↔ bs = encode t := by
  constructor
  · intro h
    exact eq_encode_of_units (decode?_eq_some_iff_units.mp h)
  · rintro rfl
    exact decode?_encode t

/-! ### What a text starts with -/

theorem decodeLossy_encode_append (s : Text) (bs : Bytes) :
    decodeLossy (encode s ++ bs) = s ++ decodeLossy bs := by
  rw [decodeLossy, units_encode_append, List.map_append, map_getD_some]
  rfl

theorem encode_prefix_iff : encode s <+: encode t ↔ s <+: t := by
  constructor
  · rintro ⟨bs, h⟩
    have hs := congrArg decodeLossy h
    rw [decodeLossy_encode_append, decodeLossy_encode] at hs
    exact ⟨decodeLossy bs, hs⟩
  · rintro ⟨u, rfl⟩
    exact ⟨encode u, (encode_append s u).symm⟩

theorem head?_encode_eq_slash_iff {t : Text} :
    (encode t).head? = some 0x2F ↔ t.head? = some '/' := by
  constructor
  · intro h
    obtain ⟨bs, hbs⟩ := List.head?_eq_some_iff.mp h
    obtain ⟨u, rfl⟩ := encode_prefix_iff.mp (⟨bs, hbs.symm⟩ : encode ['/'] <+: _)
    rfl
  · intro h
    obtain ⟨u, rfl⟩ := List.head?_eq_some_iff.mp h
    rfl

/-- The bytes themselves start with what their text starts with, unless that stands for refused
bytes. -/
theorem encode_prefix_iff_decodeLossy (h : '\uFFFD' ∉ s) :
    encode s <+: bs ↔ s <+: decodeLossy bs := by
  constructor
  · rintro ⟨rest, rfl⟩
    rw [decodeLossy_encode_append]
    exact ⟨decodeLossy rest, rfl⟩
  · intro hs
    induction s generalizing bs with
    | nil => exact List.nil_prefix
    | cons c s ih =>
      cases bs with
      | nil =>
        obtain ⟨u, hu⟩ := hs
        cases hu
      | cons b rest =>
        rw [decodeLossy, units_cons, List.map_cons, List.cons_prefix_cons] at hs
        obtain ⟨hc, hs⟩ := hs
        cases hu : (unit b rest).1 with
        -- a refused unit is shown as U+FFFD, which is not in the text
        | none =>
          rw [hu] at hc
          exact absurd hc fun hc => h (hc ▸ List.mem_cons_self ..)
        | some c' =>
          rw [hu] at hc
          obtain rfl : c = c' := hc
          obtain ⟨tail, ht⟩ := ih (fun hm => h (List.mem_cons_of_mem _ hm)) hs
          have hunit : unit b rest = (some c, (unit b rest).2) := Prod.ext hu rfl
          refine ⟨tail, ?_⟩
          rw [encode_cons, utf8EncodeChar_of_unit hunit, List.append_assoc, ht, List.cons_append,
            List.take_append_drop]

end Utf8

end SiteGateway
