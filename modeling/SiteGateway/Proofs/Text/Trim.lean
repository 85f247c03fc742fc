import Mathlib.Data.List.DropRight
import SiteGateway.Text.Blank

/-!
# Trimming

Trimming takes away blank texts at both ends (`trim_append_blank`, `trim_blank_append`) and leaves a
text that is trimmed (`trimmed_trim`). A character that is not blank keeps the two sides apart: each
loses its outer blanks only (`trim_append_cons`).
-/

namespace SiteGateway

namespace Text
variable {c : Char} {t x y : Text}

/-- Nothing but blank characters. -/
def Blank (t : Text) : Prop := ∀ c ∈ t, isBlank c = true

instance (t : Text) : Decidable (Blank t) :=
  List.decidableBAll (fun c => isBlank c = true) t

/-- No blank character at either end. -/
structure Trimmed (t : Text) : Prop where
  head : ∀ c ∈ t.head?, isBlank c = false
  last : ∀ c ∈ t.getLast?, isBlank c = false

theorem trim_eq_rdropWhile (t : Text) : trim t = (trimStart t).rdropWhile isBlank := rfl

/-! ### What is taken away -/

theorem Blank.trimStart_append (h : Blank x) (y : Text) : trimStart (x ++ y) = trimStart y := by
  have hx : x.dropWhile isBlank = [] := List.dropWhile_eq_nil_iff.mpr h
  rw [trimStart, List.dropWhile_append, hx]
  rfl

theorem Blank.rdropWhile_append (h : Blank y) (x : Text) :
    (x ++ y).rdropWhile isBlank = x.rdropWhile isBlank := by
  have hy : y.reverse.dropWhile isBlank = [] :=
    List.dropWhile_eq_nil_iff.mpr fun c hc => h c (List.mem_reverse.mp hc)
  rw [List.rdropWhile, List.reverse_append, List.dropWhile_append, hy]
  rfl

theorem trim_blank_append (h : Blank x) (y : Text) : trim (x ++ y) = trim y := by
  rw [trim_eq_rdropWhile, h.trimStart_append, trim_eq_rdropWhile]

theorem trim_append_blank (h : Blank y) (x : Text) : trim (x ++ y) = trim x := by
  rw [trim_eq_rdropWhile, trim_eq_rdropWhile, trimStart, trimStart, List.dropWhile_append]
  split
  next hx =>
    have hy : y.dropWhile isBlank = [] := List.dropWhile_eq_nil_iff.mpr h
    rw [hy, List.isEmpty_iff.mp hx]
  next => exact h.rdropWhile_append _

theorem trim_trimStart (t : Text) : trim (trimStart t) = trim t := by
  have h : Blank (t.takeWhile isBlank) := fun c hc => List.mem_takeWhile_imp hc
  rw [← trim_blank_append h, trimStart, List.takeWhile_append_dropWhile]

theorem trim_rdropWhile (t : Text) : trim (t.rdropWhile isBlank) = trim t := by
  have h : Blank (t.rtakeWhile isBlank) := fun c hc => List.mem_rtakeWhile_imp hc
  rw [← trim_append_blank h, List.rdropWhile_append_rtakeWhile]

theorem dropWhile_append_cons {p : Char → Bool} (hc : p c = false) (x y : Text) :
    (x ++ c :: y).dropWhile p = x.dropWhile p ++ c :: y := by
  rw [List.dropWhile_append]
  split
  next hx => rw [List.isEmpty_iff.mp hx, List.dropWhile_cons_of_neg (by simp [hc]), List.nil_append]
  next => rfl

theorem rdropWhile_append_cons {p : Char → Bool} (hc : p c = false) (x y : Text) :
    (x ++ c :: y).rdropWhile p = x ++ c :: y.rdropWhile p := by
  rw [List.rdropWhile, List.reverse_append, List.reverse_cons, List.append_assoc,
    List.singleton_append, dropWhile_append_cons hc]
  simp [List.rdropWhile]

/-- A character that stays keeps the two sides apart. -/
theorem trimBy_append_cons {p : Char → Bool} (hc : p c = false) (x y : Text) :
    trimBy p (x ++ c :: y) = x.dropWhile p ++ c :: y.rdropWhile p := by
  change ((x ++ c :: y).dropWhile p).rdropWhile p = _
  rw [dropWhile_append_cons hc, rdropWhile_append_cons hc]

theorem trim_append_cons (hc : isBlank c = false) (x y : Text) :
    trim (x ++ c :: y) = trimStart x ++ c :: y.rdropWhile isBlank :=
  trimBy_append_cons hc x y

theorem exists_trim (t : Text) : ∃ x y, Blank x ∧ Blank y ∧ t = x ++ (trim t ++ y) := by
  refine ⟨t.takeWhile isBlank, (trimStart t).rtakeWhile isBlank,
    fun c hc => List.mem_takeWhile_imp hc, fun c hc => List.mem_rtakeWhile_imp hc, ?_⟩
  rw [trim_eq_rdropWhile, List.rdropWhile_append_rtakeWhile, trimStart,
    List.takeWhile_append_dropWhile]

theorem trim_eq_nil_iff : trim t = [] ↔ Blank t := by
  constructor
  · intro h
    have hrest : Blank (trimStart t) := List.rdropWhile_eq_nil_iff.mp h
    have ht : t = t.takeWhile isBlank ++ trimStart t := List.takeWhile_append_dropWhile.symm
    intro c hc
    rw [ht] at hc
    rcases List.mem_append.mp hc with hc | hc
    · exact List.mem_takeWhile_imp hc
    · exact hrest c hc
  · intro h
    rw [← List.append_nil t, trim_blank_append h]
    rfl

/-! ### What is left -/

theorem mem_of_mem_trim (h : c ∈ trim t) : c ∈ t :=
  (List.dropWhile_suffix isBlank).subset ((List.rdropWhile_prefix isBlank _).subset h)

theorem trimmed_trim (t : Text) : Trimmed (trim t) where
  head c hc := by
    obtain ⟨rest, hrest⟩ := List.rdropWhile_prefix isBlank (trimStart t)
    have hhead : (trimStart t).head? = some c := by
      rw [← hrest, List.head?_append, ← trim_eq_rdropWhile, Option.mem_def.mp hc]
      rfl
    have := List.head?_dropWhile_not isBlank t
    rw [← trimStart, hhead] at this
    exact this
  last c hc := by
    have hne : trim t ≠ [] := List.ne_nil_of_mem (List.mem_of_getLast? hc)
    rw [Option.mem_def, List.getLast?_eq_some_getLast hne, Option.some.injEq] at hc
    exact Bool.eq_false_iff.mpr (hc ▸ List.rdropWhile_last_not isBlank _ hne)

theorem Trimmed.trim_eq (h : Trimmed t) : trim t = t := by
  have hstart : trimStart t = t := by
    cases t with
    | nil => rfl
    | cons c t => exact List.dropWhile_cons_of_neg (by simp [h.head c rfl])
  rw [trim_eq_rdropWhile, hstart, List.rdropWhile_eq_self_iff]
  exact fun hne => by simp [h.last _ (List.getLast?_eq_some_getLast hne)]

theorem trim_trim (t : Text) : trim (trim t) = trim t := (trimmed_trim t).trim_eq

end Text

end SiteGateway
