import Mathlib.Data.List.Perm.Basic

/-!
# Stable order

A stable sort keeps the order of elements that are equally high (`filter_mergeSort`), and that
leaves no choice: the list is sorted in one way only (`eq_of_pairwise_of_filter`). In sorted numbers
repetitions are neighbours, so that without them the numbers increase (`pairwise_lt_eraseReps`).
-/

namespace List
variable {α : Type} {le : α → α → Bool} {p : α → Bool} {l l₁ l₂ : List α}

theorem filter_mergeSort (trans : ∀ a b c, le a b = true → le b c = true → le a c = true)
    (total : ∀ a b, (le a b || le b a) = true)
    (h : ∀ a b, p a = true → p b = true → le a b = true) :
    (l.mergeSort le).filter p = l.filter p := by
  have hpairwise : (l.filter p).Pairwise fun a b => le a b = true := by
    refine pairwise_iff_forall_sublist.mpr fun {a b} hab => ?_
    exact h a b (mem_filter.mp (hab.subset (by simp))).2 (mem_filter.mp (hab.subset (by simp))).2
  have hsub : l.filter p <+ l.mergeSort le := sublist_mergeSort trans total hpairwise filter_sublist
  have hsub' := hsub.filter p
  rw [filter_filter, show (fun a => p a && p a) = p by simp] at hsub'
  exact (hsub'.eq_of_length ((mergeSort_perm l le).symm.filter p).length_eq).symm

theorem eq_of_pairwise_of_filter (refl : ∀ a, le a a = true)
    (h₁ : l₁.Pairwise fun a b => le a b = true) (h₂ : l₂.Pairwise fun a b => le a b = true)
    (h : ∀ a, l₁.filter (fun b => le a b && le b a) = l₂.filter fun b => le a b && le b a) :
    l₁ = l₂ := by
  have hmem : ∀ {l l' : List α} {a : α}, (l.filter fun b => le a b && le b a) =
      (l'.filter fun b => le a b && le b a) → a ∈ l → a ∈ l' := by
    intro l l' a heq ha
    have hf : a ∈ l.filter fun b => le a b && le b a := mem_filter.mpr ⟨ha, by simp [refl a]⟩
    exact (mem_filter.mp (heq ▸ hf)).1
  induction l₁ generalizing l₂ with
  | nil =>
    refine (eq_nil_iff_forall_not_mem.mpr fun b hb => ?_).symm
    exact not_mem_nil (hmem (h b).symm hb)
  | cons a l₁ ih =>
    cases l₂ with
    | nil => exact absurd (hmem (h a) (mem_cons_self ..)) not_mem_nil
    | cons b l₂ =>
      rw [pairwise_cons] at h₁ h₂
      -- each head is in the other list, so neither comes before the other
      have hba : le b a = true := by
        rcases mem_cons.mp (hmem (h a) (mem_cons_self ..)) with rfl | ha
        · exact refl a
        · exact h₂.1 a ha
      have hab : le a b = true := by
        rcases mem_cons.mp (hmem (h b).symm (mem_cons_self ..)) with rfl | hb
        · exact refl b
        · exact h₁.1 b hb
      have hhead := h a
      rw [filter_cons_of_pos (by simp [refl a]), filter_cons_of_pos (by simp [hab, hba])] at hhead
      obtain rfl : a = b := head_eq_of_cons_eq hhead
      refine congrArg (a :: ·) (ih h₁.2 h₂.2 fun c => ?_)
      have hc := h c
      rw [filter_cons, filter_cons] at hc
      split at hc
      · exact tail_eq_of_cons_eq hc
      · exact hc

theorem eraseRepsBy_loop_eq (r : α → α → Bool) (a : α) (l acc : List α) :
    eraseRepsBy.loop r a l acc = acc.reverse ++ eraseRepsBy.loop r a l [] := by
  induction l generalizing a acc with
  | nil => simp [eraseRepsBy.loop]
  | cons b l ih =>
    rw [eraseRepsBy.loop, eraseRepsBy.loop]
    split
    · exact ih a acc
    · rw [ih b (a :: acc), ih b [a]]
      simp

theorem eraseReps_cons_cons (a b : Nat) (l : List Nat) :
    (a :: b :: l).eraseReps = if a = b then (b :: l).eraseReps else a :: (b :: l).eraseReps := by
  change eraseRepsBy.loop _ a (b :: l) [] = _
  rw [eraseRepsBy.loop]
  split
  next h =>
    obtain rfl : a = b := by simpa using h
    rw [if_pos rfl]
    rfl
  next h =>
    rw [if_neg (by simpa using h), eraseRepsBy_loop_eq]
    rfl

theorem mem_eraseReps {n : Nat} {l : List Nat} : n ∈ l.eraseReps ↔ n ∈ l := by
  induction l with
  | nil => rfl
  | cons a l ih =>
    cases l with
    | nil => rfl
    | cons b l =>
      rw [eraseReps_cons_cons]
      split
      next h => simp [ih, h]
      next => simp [ih]

theorem pairwise_lt_eraseReps {l : List Nat} (h : l.Pairwise (· ≤ ·)) :
    l.eraseReps.Pairwise (· < ·) := by
  induction l with
  | nil => exact .nil
  | cons a l ih =>
    cases l with
    | nil => exact pairwise_singleton ..
    | cons b l =>
      obtain ⟨ha, hl⟩ := pairwise_cons.mp h
      rw [eraseReps_cons_cons]
      split
      next => exact ih hl
      next hne =>
        refine pairwise_cons.mpr ⟨fun n hn => ?_, ih hl⟩
        have hab := ha b mem_cons_self
        rcases mem_cons.mp (mem_eraseReps.mp hn) with rfl | hn
        · omega
        · have := (pairwise_cons.mp hl).1 n hn
          omega

end List
