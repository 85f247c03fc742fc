import SiteGateway.Text.Basic

/-!
# ASCII

What holds of every ASCII character is seen by trying them all (`forall_ascii`).
-/

namespace SiteGateway

/-- A character of ASCII. -/
def Ascii (c : Char) : Prop := c.toNat < 0x80

instance (c : Char) : Decidable (Ascii c) := inferInstanceAs (Decidable (c.toNat < 0x80))

/-- What holds of the first 128 characters holds of every ASCII character. -/
theorem forall_ascii {p : Char → Prop} (h : ∀ n < 0x80, p (Char.ofNat n)) (c : Char)
    (hc : Ascii c) : p c := by
  have := h c.toNat hc
  rwa [Char.ofNat_toNat] at this

/-- The characters of a written text are tried one by one, and no others. -/
theorem forall_mem_text {p : Char → Prop} [DecidablePred p] {t : Text}
    (h : t.all (fun c => decide (p c)) = true) : ∀ c ∈ t, p c :=
  fun c hc => of_decide_eq_true (List.all_eq_true.mp h c hc)

theorem Ascii.of_isAlphanum {c : Char} (h : c.isAlphanum = true) : Ascii c := by
  have hle (hi : UInt32) (hhi : hi.toNat < 0x80) (h : c.val ≤ hi) : Ascii c :=
    Nat.lt_of_le_of_lt h hhi
  rcases Bool.or_eq_true_iff.mp h with h | h
  · rcases Bool.or_eq_true_iff.mp h with h | h
    · exact hle 'Z'.val (by decide) (of_decide_eq_true h).2
    · exact hle 'z'.val (by decide) (of_decide_eq_true (Bool.and_eq_true_iff.mp h).2)
  · exact hle '9'.val (by decide) (of_decide_eq_true (Bool.and_eq_true_iff.mp h).2)

end SiteGateway
