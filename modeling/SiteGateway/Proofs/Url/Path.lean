import SiteGateway.Proofs.Percent
import SiteGateway.Proofs.Text.Split
import SiteGateway.Url.Parser

/-!
# Paths of URLs

Dot segments are those that spell `.` and `..`, and reading a path removes them: every one makes
what the path spells shorter (`weight_resolveSegments`). A segment that was read once is `Normal`
and is read again as it is.
-/

namespace SiteGateway

namespace Url
open Percent (spelled spelled_slash_cons spelled_append_slash spelled_append_backslash
  spelled_flatMap)
variable {s t a : Text} {ss before pieces : List Text} {bs y : Bytes} {c : Char}

/-! ### Escaped segments -/

theorem keepsEscapes_pathSet : Percent.KeepsEscapes pathSet where
  percent := by decide +kernel
  digit := Percent.forall_byte (by decide +kernel)

theorem spelled_escaped (s : Text) : spelled (escaped pathSet s) = spelled s :=
  keepsEscapes_pathSet.decode_encode _

theorem escaped_escaped (s : Text) : escaped pathSet (escaped pathSet s) = escaped pathSet s := by
  rw [← Utf8.encode_inj]
  exact Percent.encode_of_clean fun b hb => keepsEscapes_pathSet.clean_of_mem_encode hb

/-! ### Dot segments -/

/-- The ways in which a dot is written. -/
def dots : List Text := [".".toList, "%2e".toList, "%2E".toList]

theorem decode_dot_append (ha : a ∈ dots) (y : Bytes) :
    Percent.decode (Utf8.encode a ++ y) = 0x2E :: Percent.decode y := by
  simp only [dots, List.mem_cons, List.not_mem_nil, or_false] at ha
  rcases ha with rfl | rfl | rfl
  · exact Percent.decode_cons_of_ne (by decide)
  · exact Percent.decode_escape (by decide)
  · exact Percent.decode_escape (by decide)

theorem exists_dot_of_decode (h : Percent.decode bs = 0x2E :: y) :
    ∃ a ∈ dots, ∃ rest, bs = Utf8.encode a ++ rest ∧ Percent.decode rest = y := by
  rcases Percent.exists_of_decode_eq_cons h with ⟨hi, lo, rest, rfl, he, hy⟩ | ⟨rest, rfl, hy⟩
  · obtain ⟨rfl, rfl | rfl⟩ := Percent.escape?_eq_dot he
    · exact ⟨"%2E".toList, by decide, rest, rfl, hy⟩
    · exact ⟨"%2e".toList, by decide, rest, rfl, hy⟩
  · exact ⟨".".toList, by decide, rest, rfl, hy⟩

theorem toLower_eq {c d : Char} (h : c.toLower = d) :
    c = d ∨ 65 ≤ c.toNat ∧ c.toNat ≤ 90 ∧ c.toNat + 32 = d.toNat := by
  unfold Char.toLower at h
  split at h
  · rename_i hc
    have h₁ : 65 ≤ c.val.toNat := UInt32.le_iff_toNat_le.mp hc.1
    have h₂ : c.val.toNat ≤ 90 := UInt32.le_iff_toNat_le.mp hc.2
    have h₃ : (c.val + ('a'.val - 'A'.val)).toNat = c.val.toNat + 32 := by
      rw [UInt32.toNat_add, show ('a'.val - 'A'.val).toNat = 32 from rfl]
      omega
    subst h
    exact .inr ⟨h₁, h₂, h₃.symm⟩
  · exact .inl h

theorem eq_of_toLower_eq {c d : Char} (hd : d.toNat < 97) (h : c.toLower = d) : c = d := by
  rcases toLower_eq h with h | h
  · exact h
  · omega

theorem lower_eq_dot_iff : Text.lower s = ".".toList ∨ Text.lower s = "%2e".toList ↔ s ∈ dots := by
  constructor
  · rintro (h | h)
    · obtain ⟨x, s, rfl, hx, hs⟩ := List.map_eq_cons_iff.mp h
      obtain rfl := List.map_eq_nil_iff.mp hs
      obtain rfl := eq_of_toLower_eq (by decide) hx
      decide
    · obtain ⟨x, s, rfl, hx, hs⟩ := List.map_eq_cons_iff.mp h
      obtain ⟨y, s, rfl, hy, hs⟩ := List.map_eq_cons_iff.mp hs
      obtain ⟨z, s, rfl, hz, hs⟩ := List.map_eq_cons_iff.mp hs
      obtain rfl := List.map_eq_nil_iff.mp hs
      obtain rfl := eq_of_toLower_eq (by decide) hx
      obtain rfl := eq_of_toLower_eq (by decide) hy
      rcases toLower_eq hz with rfl | ⟨-, -, hz⟩
      · decide
      · have hz : z = 'E' := Char.toNat_inj.mp (Nat.add_right_cancel hz)
        subst hz
        decide
  · intro h
    simp only [dots, List.mem_cons, List.not_mem_nil, or_false] at h
    rcases h with rfl | rfl | rfl <;> decide

theorem isDot_iff_mem : isDot s = true ↔ s ∈ dots := by
  rw [← lower_eq_dot_iff]
  simp only [isDot, Bool.or_eq_true, beq_iff_eq]

theorem isDotDot_iff_exists : isDotDot s = true ↔ ∃ a ∈ dots, ∃ b ∈ dots, s = a ++ b := by
  simp only [isDotDot, Bool.or_eq_true, beq_iff_eq, ← lower_eq_dot_iff]
  constructor
  · have hsplit {x y : Text} (h : Text.lower s = x ++ y) :
        ∃ a b, s = a ++ b ∧ Text.lower a = x ∧ Text.lower b = y := List.map_eq_append_iff.mp h
    rintro (((h | h) | h) | h)
    · obtain ⟨a, b, he, ha, hb⟩ := hsplit (x := ".".toList) (y := ".".toList) h
      exact ⟨a, .inl ha, b, .inl hb, he⟩
    · obtain ⟨a, b, he, ha, hb⟩ := hsplit (x := "%2e".toList) (y := "%2e".toList) h
      exact ⟨a, .inr ha, b, .inr hb, he⟩
    · obtain ⟨a, b, he, ha, hb⟩ := hsplit (x := "%2e".toList) (y := ".".toList) h
      exact ⟨a, .inr ha, b, .inl hb, he⟩
    · obtain ⟨a, b, he, ha, hb⟩ := hsplit (x := ".".toList) (y := "%2e".toList) h
      exact ⟨a, .inl ha, b, .inr hb, he⟩
  · rintro ⟨a, ha, b, hb, rfl⟩
    rw [show Text.lower (a ++ b) = Text.lower a ++ Text.lower b from List.map_append]
    rcases ha with ha | ha <;> rcases hb with hb | hb <;> rw [ha, hb] <;> decide

theorem isDot_iff : isDot s = true ↔ spelled s = [0x2E] := by
  rw [isDot_iff_mem]
  constructor
  · intro h
    simpa [spelled, Percent.decode] using decode_dot_append h []
  · intro h
    obtain ⟨a, ha, rest, he, hy⟩ := exists_dot_of_decode h
    obtain rfl := Percent.decode_eq_nil_iff.mp hy
    rw [List.append_nil, Utf8.encode_inj] at he
    exact he ▸ ha

theorem isDotDot_iff : isDotDot s = true ↔ spelled s = [0x2E, 0x2E] := by
  rw [isDotDot_iff_exists]
  constructor
  · rintro ⟨a, ha, b, hb, rfl⟩
    rw [spelled, Utf8.encode_append, decode_dot_append ha]
    simpa [Percent.decode] using decode_dot_append hb []
  · intro h
    obtain ⟨a, ha, rest, he, hy⟩ := exists_dot_of_decode h
    obtain ⟨b, hb, rest', rfl, hy'⟩ := exists_dot_of_decode hy
    obtain rfl := Percent.decode_eq_nil_iff.mp hy'
    rw [List.append_nil, ← Utf8.encode_append, Utf8.encode_inj] at he
    exact ⟨a, ha, b, hb, he⟩

/-! ### Segments that were read -/

/-- A segment that is read as it is. -/
structure Normal (s : Text) : Prop where
  free : ∀ c ∈ s, isSlash .network c = false
  noDot : isDot s = false
  noDotDot : isDotDot s = false
  escaped : escaped pathSet s = s

theorem normal_nil : Normal [] := ⟨by simp, rfl, rfl, rfl⟩

/-- A character of an escaped text is ASCII and needs no escape. -/
theorem clean_of_mem_escaped {set : UInt8 → Bool} (hset : Percent.KeepsEscapes set)
    (h : c ∈ escaped set s) :
    c.toNat < 0x80 ∧ Percent.Clean set (UInt8.ofNat c.toNat) := by
  have hclean (b : UInt8) (hb : b ∈ String.utf8EncodeChar c) : Percent.Clean set b :=
    hset.clean_of_mem_encode (List.mem_flatMap.mpr ⟨c, h, hb⟩)
  have hlt : c.toNat < 0x80 := by
    rcases Nat.lt_or_ge c.toNat 0x80 with hlt | hge
    · exact hlt
    · obtain ⟨b, bs, he, -⟩ := Utf8.unit_utf8EncodeChar c []
      have hb : b ∈ String.utf8EncodeChar c := by simp [he]
      exact absurd (Utf8.le_of_mem_utf8EncodeChar hge hb) (Nat.not_le_of_lt (hclean b hb).1)
  refine ⟨hlt, hclean _ ?_⟩
  rw [Utf8.utf8EncodeChar_of_lt hlt]
  simp

theorem mem_of_mem_escaped (hc : c.toNat < 0x80) (hp : UInt8.ofNat c.toNat ≠ 0x25)
    (hd : Percent.hexValue? (UInt8.ofNat c.toNat) = none) (h : c ∈ escaped pathSet s) : c ∈ s := by
  have hb : UInt8.ofNat c.toNat ∈ Utf8.encode (escaped pathSet s) :=
    List.mem_flatMap.mpr ⟨c, h, by simp [Utf8.utf8EncodeChar_of_lt hc]⟩
  have hn : (UInt8.ofNat c.toNat).toNat = c.toNat := Utf8.toNat_ofNat_of_lt (by omega)
  have hm := Utf8.mem_of_mem_encode (by omega) (Percent.mem_of_mem_encode hp hd hb)
  rwa [hn, Char.ofNat_toNat] at hm

theorem isSlash_eq_false_iff : isSlash .network c = false ↔ c ≠ '/' ∧ c ≠ '\\' := by
  simp [isSlash, SchemeKind.special]

theorem normal_escaped (hf : ∀ c ∈ s, isSlash .network c = false) (hd : isDot s = false)
    (hdd : isDotDot s = false) : Normal (Url.escaped pathSet s) where
  free := by
    intro c hc
    rw [isSlash_eq_false_iff]
    constructor
    · rintro rfl
      exact absurd (hf _ (mem_of_mem_escaped (by decide) (by decide) (by decide) hc)) (by decide)
    · rintro rfl
      exact absurd (hf _ (mem_of_mem_escaped (by decide) (by decide) (by decide) hc)) (by decide)
  noDot := by
    rw [← Bool.not_eq_true, isDot_iff, spelled_escaped, ← isDot_iff, hd]
    simp
  noDotDot := by
    rw [← Bool.not_eq_true, isDotDot_iff, spelled_escaped, ← isDotDot_iff, hdd]
    simp
  escaped := escaped_escaped s

/-! ### Reading segments -/

theorem keptSegment_network (before : List Text) (s : Text) :
    keptSegment .network before s = escaped pathSet s := if_neg (by simp)

theorem resolveSegments_cons (s : Text) (rest before : List Text) :
    resolveSegments .network before (s :: rest) =
      resolveSegments .network
        (if isDotDot s then before.dropLast ++ (if rest.isEmpty then [[]] else [])
          else if isDot s then before ++ (if rest.isEmpty then [[]] else [])
          else before ++ [escaped pathSet s]) rest := by
  rw [resolveSegments, keptSegment_network]
  cases rest <;> simp [shorten]

theorem normal_of_mem_resolveSegments (hb : ∀ s ∈ before, Normal s)
    (hp : ∀ s ∈ pieces, ∀ c ∈ s, isSlash .network c = false) :
    ∀ s ∈ resolveSegments .network before pieces, Normal s := by
  induction pieces generalizing before with
  | nil => exact hb
  | cons s rest ih =>
    rw [resolveSegments_cons]
    refine ih ?_ fun s hs => hp s (by simp [hs])
    have hclosed : ∀ s ∈ (if rest.isEmpty then [[]] else []), Normal s := by
      intro s hs
      split at hs
      · exact List.mem_singleton.mp hs ▸ normal_nil
      · cases hs
    intro x hx
    split at hx
    · rcases List.mem_append.mp hx with hx | hx
      · exact hb x ((List.dropLast_sublist before).subset hx)
      · exact hclosed x hx
    · rename_i hdd
      split at hx
      · rcases List.mem_append.mp hx with hx | hx
        · exact hb x hx
        · exact hclosed x hx
      · rename_i hd
        rcases List.mem_append.mp hx with hx | hx
        · exact hb x hx
        · obtain rfl := List.mem_singleton.mp hx
          exact normal_escaped (hp s (by simp)) (by simpa using hd) (by simpa using hdd)

/-- Segments that were read are read again as they are. -/
theorem resolveSegments_append_of_normal (h : ∀ s ∈ ss, Normal s) :
    resolveSegments .network before (ss ++ pieces) =
      resolveSegments .network (before ++ ss) pieces := by
  induction ss generalizing before with
  | nil => simp
  | cons s ss ih =>
    have hs := h s (by simp)
    rw [List.cons_append, resolveSegments_cons, hs.noDotDot, hs.noDot, hs.escaped]
    simp only [Bool.false_eq_true, if_false]
    rw [ih fun s hs => h s (by simp [hs]), List.append_assoc]
    rfl

theorem resolveSegments_of_noDots (h : ∀ s ∈ pieces, isDot s = false ∧ isDotDot s = false) :
    resolveSegments .network before pieces = before ++ pieces.map (escaped pathSet) := by
  induction pieces generalizing before with
  | nil => simp [resolveSegments]
  | cons s rest ih =>
    obtain ⟨hd, hdd⟩ := h s (by simp)
    rw [resolveSegments_cons, hd, hdd]
    simp only [Bool.false_eq_true, if_false]
    rw [ih fun s hs => h s (by simp [hs]), List.map_cons, List.append_assoc]
    rfl

/-- How many bytes the segments of a path spell. -/
def weight : List Text → Nat
  | [] => 0
  | s :: ss => 1 + (spelled s).length + weight ss

@[simp] theorem weight_append (ss pieces : List Text) :
    weight (ss ++ pieces) = weight ss + weight pieces := by
  induction ss with
  | nil => exact (Nat.zero_add _).symm
  | cons s ss ih =>
    rw [List.cons_append, weight, weight, ih]
    omega

theorem weight_cons (s : Text) (ss : List Text) :
    weight (s :: ss) = 1 + (spelled s).length + weight ss := rfl

theorem weight_dropLast_le (ss : List Text) : weight ss.dropLast ≤ weight ss := by
  rcases List.eq_nil_or_concat ss with rfl | ⟨ss, s, rfl⟩
  · simp
  · rw [List.concat_eq_append, List.dropLast_concat, weight_append]
    omega

theorem length_spelled_flatMap (ss : List Text) :
    (spelled (ss.flatMap ('/' :: ·))).length = weight ss := by
  rw [spelled_flatMap]
  induction ss with
  | nil => rfl
  | cons s ss ih =>
    rw [List.flatMap_cons, List.length_append, ih, List.length_cons, weight]
    omega

/-- Dot segments are lost from what the path spells. -/
theorem weight_resolveSegments (before pieces : List Text) :
    weight (resolveSegments .network before pieces) +
      pieces.countP (fun s => isDot s || isDotDot s) ≤ weight before + weight pieces := by
  induction pieces generalizing before with
  | nil => simp [resolveSegments, weight]
  | cons s rest ih =>
    rw [resolveSegments_cons, List.countP_cons, weight_cons]
    -- a dot segment at the end leaves an empty segment, which weighs less than the segment did
    have hclosed : weight (if rest.isEmpty then [[]] else []) ≤ 1 := by
      split <;> decide
    cases hdd : isDotDot s with
    | true =>
      have hs : (spelled s).length = 2 := by rw [isDotDot_iff.mp hdd]; rfl
      have := ih (before.dropLast ++ (if rest.isEmpty then [[]] else []))
      have := weight_dropLast_le before
      simp only [weight_append, Bool.or_true, if_true] at *
      omega
    | false =>
      cases hd : isDot s with
      | true =>
        have hs : (spelled s).length = 1 := by rw [isDot_iff.mp hd]; rfl
        have := ih (before ++ (if rest.isEmpty then [[]] else []))
        simp only [weight_append, Bool.true_or, Bool.false_eq_true, if_true, if_false] at *
        omega
      | false =>
        have := ih (before ++ [escaped pathSet s])
        have hw : weight [escaped pathSet s] = 1 + (spelled s).length := by
          simp [weight, spelled_escaped]
        simp only [weight_append, Bool.or_false, Bool.false_eq_true, if_false] at *
        omega

/-! ### What a text spells between its slashes -/

theorem spelled_of_isSlash {c : Char} (hc : isSlash .network c = true) (s t : Text) :
    ∃ b, spelled (s ++ c :: t) = spelled s ++ b :: spelled t := by
  simp only [isSlash, SchemeKind.special, Bool.true_and, Bool.or_eq_true, beq_iff_eq] at hc
  rcases hc with rfl | rfl
  · exact ⟨_, spelled_append_slash s t⟩
  · exact ⟨_, spelled_append_backslash s t⟩

theorem length_spelled_splitBy (t : Text) :
    1 + (spelled t).length = weight (Text.splitBy (isSlash .network) t) := by
  induction t using Text.splitBy_induction (isSlash .network) with
  | free x hx => simp [Text.splitBy_of_free hx, weight]
  | cut x c y hx hc ih =>
    obtain ⟨b, hb⟩ := spelled_of_isSlash hc x y
    rw [Text.splitBy_append_cons hc, Text.splitBy_of_free hx, hb, weight_append, ← ih]
    simp [weight]
    omega

end Url

end SiteGateway
