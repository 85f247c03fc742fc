import Mathlib.Data.Nat.Digits.Defs
import Mathlib.Tactic.IntervalCases
import SiteGateway.Text.Blank

/-!
# Digits

Decimal numbers are written with zeros in front (`Text.padded`) and read back by `Text.nat?`,
whatever the width (`nat?_padded`). Without zeros in front, numbers of any base up to sixteen are
read back by `Text.ofDigits?` (`ofDigits?_toDigits`).
-/

namespace SiteGateway

namespace Text
variable {t : Text} {c : Char} {n w : Nat}

theorem digit?_of_isDigit (h : c.isDigit = true) : digit? 10 c = some (c.toNat - '0'.toNat) := by
  simp only [Char.isDigit, Bool.and_eq_true, decide_eq_true_eq] at h
  have hc : '0' ≤ c ∧ c ≤ '9' := h
  have hlt : c.toNat - '0'.toNat < 10 := by
    have hc' : c.toNat ≤ 57 := h.2
    change c.toNat - 48 < 10
    omega
  rw [digit?, if_pos hc, if_pos hlt]

theorem ofDigits?_of_isDigit (h : ∀ c ∈ t, c.isDigit = true) :
    ofDigits? 10 t = some (Nat.ofDigitChars 10 t 0) := by
  rw [ofDigits?, Nat.ofDigitChars_eq_foldl]
  generalize 0 = init
  induction t generalizing init with
  | nil => rfl
  | cons c t ih =>
    rw [List.foldlM_cons, digit?_of_isDigit (h c List.mem_cons_self)]
    exact ih (fun c hc => h c (List.mem_cons_of_mem _ hc)) _

theorem isDigit_of_mem_padded (h : c ∈ padded w n) : c.isDigit = true := by
  rcases List.mem_append.mp h with h | h
  · rw [List.eq_of_mem_replicate h]
    rfl
  · exact Nat.isDigit_of_mem_toDigits (by decide) (by decide) h

theorem length_padded (hw : 0 < w) (h : n < 10 ^ w) : (padded w n).length = w := by
  have hlen : (ofNat n).length ≤ w := Nat.toDigits_length 10 n w hw h
  simp only [padded, List.length_append, List.length_replicate]
  omega

theorem padded_ne_nil : padded w n ≠ [] :=
  fun h => Nat.toDigits_ne_nil (List.append_eq_nil_iff.mp h).2

theorem ofDigitChars_padded (w n : Nat) : Nat.ofDigitChars 10 (padded w n) 0 = n := by
  have hzeros (k : Nat) : Nat.ofDigitChars 10 (List.replicate k '0') 0 = 0 := by
    induction k with
    | zero => rfl
    | succ k ih => exact ih
  rw [padded, Nat.ofDigitChars_append, hzeros]
  exact Nat.ofDigitChars_ten_toDigits

@[simp] theorem nat?_padded (w n : Nat) : nat? (padded w n) = some n := by
  have hne : (padded w n).isEmpty = false := by simp [padded_ne_nil]
  rw [nat?, hne, ofDigits?_of_isDigit fun c => isDigit_of_mem_padded, ofDigitChars_padded]
  rfl

@[simp] theorem nat?_ofNat (n : Nat) : nat? (ofNat n) = some n := by
  have h := nat?_padded 0 n
  rwa [padded, Nat.zero_sub] at h

theorem digit?_digitChar {b d : Nat} (hb : b ≤ 16) (h : d < b) :
    digit? b d.digitChar = some d := by
  have hvalue : ∀ d < 16, digit? 16 d.digitChar = some d := by decide
  have hd := hvalue d (Nat.lt_of_lt_of_le h hb)
  unfold digit? at hd ⊢
  obtain ⟨-, hd⟩ := Option.ite_none_right_eq_some.mp hd
  rw [Option.some.inj hd, if_pos h]

theorem ofDigits?_concat {b : Nat} (t : Text) (c : Char) :
    ofDigits? b (t ++ [c]) = (ofDigits? b t).bind fun n => (digit? b c).map (b * n + ·) := by
  rw [ofDigits?, ofDigits?, List.foldlM_append]
  simp

theorem ofDigits?_toDigits {b : Nat} (hb : 1 < b) (hb' : b ≤ 16) (n : Nat) :
    ofDigits? b (Nat.toDigits b n) = some n := by
  induction n using Nat.strongRecOn with
  | ind n ih =>
    rw [Nat.toDigits_eq_if hb]
    split
    next h => simp [ofDigits?, digit?_digitChar hb' h]
    next h =>
      have hmod : n % b < b := Nat.mod_lt n (by omega)
      rw [ofDigits?_concat, ih _ (Nat.div_lt_self (by omega) hb), digit?_digitChar hb' hmod]
      simp [Nat.div_add_mod]

theorem exists_of_mem_toDigits {b : Nat} (hb : 1 < b) (h : c ∈ Nat.toDigits b n) :
    ∃ d < b, c = d.digitChar := by
  induction n using Nat.strongRecOn with
  | ind n ih =>
    rw [Nat.toDigits_eq_if hb] at h
    split at h
    next hn => exact ⟨n, hn, List.mem_singleton.mp h⟩
    next hn =>
      rcases List.mem_append.mp h with h | h
      · exact ih _ (Nat.div_lt_self (by omega) hb) h
      · exact ⟨n % b, Nat.mod_lt n (by omega), List.mem_singleton.mp h⟩

theorem isBlank_of_isDigit (h : c.isDigit = true) : isBlank c = false := by
  simp only [Char.isDigit, Bool.and_eq_true, decide_eq_true_eq] at h
  have hlow : 48 ≤ c.toNat := h.1
  have hhigh : c.toNat ≤ 57 := h.2
  unfold isBlank
  generalize c.toNat = n at hlow hhigh
  interval_cases n <;> rfl

end Text

end SiteGateway
