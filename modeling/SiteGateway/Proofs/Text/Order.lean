import Mathlib.Data.Char
import Mathlib.Data.List.Lex
import SiteGateway.Proofs.Text.Utf8
import SiteGateway.Proofs.Url.Path
import SiteGateway.Text.Lowercase

/-!
# The order of texts

Texts are ordered like lists of characters (`le_iff`). In ASCII, where every script's rules agree,
the full lower case is that of the letters alone (`lowercase_of_ascii`), so texts of the same
letters have one lower case.
-/

namespace SiteGateway

namespace Text
variable {s t : Text}

theorem le_iff : le s t = true ↔ s ≤ t := by
  induction s generalizing t with
  | nil => simp [le, ← not_lt]
  | cons a s ih =>
    cases t with
    | nil => simp [le, ← not_lt]
    | cons b t =>
      rw [← not_lt, List.cons_lt_cons_iff]
      rcases lt_trichotomy a b with h | rfl | h
      · simp [le, h, h.not_gt, h.ne']
      · simp [le, ih]
      · simp [le, h, h.not_gt, h.ne']

theorem le_trans (a b c : Text) (hab : le a b = true) (hbc : le b c = true) : le a c = true := by
  rw [le_iff] at hab hbc ⊢
  exact hab.trans hbc

theorem le_total (a b : Text) : (le a b || le b a) = true := by
  rw [Bool.or_eq_true, le_iff, le_iff]
  exact LinearOrder.le_total (a : List Char) b

theorem lt_of_le_of_ne (h : le s t = true) (hne : s ≠ t) : s < t := by
  rw [le_iff] at h
  exact h.lt_of_ne hne

/-! ## Lower case -/

theorem lowercase_of_ascii (h : ∀ c ∈ t, c.toNat < 0x80) : lowercase t = lower t := by
  suffices hgo : ∀ before, Lowercase.go before t = lower t from hgo []
  induction t with
  | nil => exact fun _ => rfl
  | cons c t ih =>
    intro before
    rw [Lowercase.go, ih (fun d hd => h d (by simp [hd])), Lowercase.letter, if_pos (h c (by simp))]
    rfl

/-- Only ASCII text has the letters of an ASCII text. -/
theorem ascii_of_lower_eq (hs : s.all (·.toNat < 0x80) = true) (h : lower t = s) :
    ∀ c ∈ t, c.toNat < 0x80 := by
  intro c hc
  have hlow : c.toLower.toNat < 0x80 :=
    of_decide_eq_true (List.all_eq_true.mp hs _ (h ▸ List.mem_map_of_mem hc))
  rcases Url.toLower_eq (c := c) rfl with h | h
  · rwa [← h] at hlow
  · omega

end Text

namespace Utf8
variable {bs : Bytes}

/-- Bytes are those of the text shown for them unless some are refused. -/
theorem encode_decodeLossy (h : '\uFFFD' ∉ decodeLossy bs) : encode (decodeLossy bs) = bs := by
  obtain ⟨rest, hrest⟩ := (encode_prefix_iff_decodeLossy h).mpr (List.prefix_refl _)
  have hlossy := decodeLossy_encode_append (decodeLossy bs) rest
  rw [hrest, List.self_eq_append_right] at hlossy
  cases rest with
  | nil => rwa [List.append_nil] at hrest
  | cons b rest =>
    rw [decodeLossy, units_cons] at hlossy
    cases hlossy

end Utf8

end SiteGateway
