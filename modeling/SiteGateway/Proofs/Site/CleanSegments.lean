import Mathlib.Logic.Relation
import SiteGateway.Proofs.Text.Split
import SiteGateway.Site.InitialFile

/-!
# Segments without dots

Segments are resolved step by step, wherever a step applies: empty segments and dots fall away, two
dots take the name before them along, and in front of everything they take nothing (`Simplifies`).
`InitialFile.cleanSegments` reads the segments once from left to right and keeps a stack of names.
No step changes what it keeps, its own steps are among these, and names alone allow no step; so it
gives the one list in which every order of steps ends (`settlesIn_iff`).
-/

namespace SiteGateway

namespace InitialFile

/-- A segment that is neither empty nor dots. -/
def IsName (s : Text) : Prop := s ≠ [] ∧ s ≠ ['.'] ∧ s ≠ ['.', '.']

/-- One step of resolving segments without looking at any file. -/
inductive Simplifies : List Text → List Text → Prop
  | skip (front back : List Text) {s : Text} (h : s = [] ∨ s = ['.']) :
    Simplifies (front ++ s :: back) (front ++ back)
  | cancel (front back : List Text) {n : Text} (h : IsName n) :
    Simplifies (front ++ n :: ['.', '.'] :: back) (front ++ back)
  | stay (back : List Text) : Simplifies (['.', '.'] :: back) back

/-- Some steps lead to segments that allow no further one. -/
def SettlesIn (ss ns : List Text) : Prop :=
  Relation.ReflTransGen Simplifies ss ns ∧ ∀ ms, ¬ Simplifies ns ms

variable {ss ms ns kept : List Text} {s n : Text}

/-! ## The stack -/

/-- The names that are kept after one more segment. -/
def push (kept : List Text) (s : Text) : List Text :=
  if s = [] ∨ s = ['.'] then kept
  else if s = ['.', '.'] then kept.dropLast
  else kept ++ [s]

theorem cleanSegments_eq (ss : List Text) : cleanSegments ss = ss.foldl push [] := rfl

theorem push_of_skip (h : s = [] ∨ s = ['.']) : push kept s = kept := if_pos h

theorem push_dots (kept : List Text) : push kept ['.', '.'] = kept.dropLast := by
  simp [push]

theorem push_of_isName (h : IsName n) : push kept n = kept ++ [n] := by
  simp [push, h.1, h.2.1, h.2.2]

theorem foldl_push_of_isName (h : ∀ n ∈ ns, IsName n) (kept : List Text) :
    ns.foldl push kept = kept ++ ns := by
  induction ns generalizing kept with
  | nil => simp
  | cons n ns ih =>
    rw [List.foldl_cons, push_of_isName (h n (by simp)), ih fun m hm => h m (by simp [hm])]
    simp

theorem cleanSegments_of_isName (h : ∀ n ∈ ns, IsName n) : cleanSegments ns = ns := by
  rw [cleanSegments_eq, foldl_push_of_isName h, List.nil_append]

theorem isName_of_mem_push (hk : ∀ n ∈ kept, IsName n) (h : n ∈ push kept s) : IsName n := by
  unfold push at h
  split at h
  · exact hk n h
  · rename_i hs
    rw [not_or] at hs
    split at h
    · exact hk n ((List.dropLast_sublist kept).subset h)
    · rename_i hdots
      rcases List.mem_append.mp h with h | h
      · exact hk n h
      · obtain rfl := List.mem_singleton.mp h
        exact ⟨hs.1, hs.2, hdots⟩

theorem isName_of_mem_foldl (hk : ∀ n ∈ kept, IsName n) (h : n ∈ ss.foldl push kept) :
    IsName n := by
  induction ss generalizing kept with
  | nil => exact hk n h
  | cons s ss ih => exact ih (fun m hm => isName_of_mem_push hk hm) h

theorem isName_of_mem_cleanSegments (h : n ∈ cleanSegments ss) : IsName n :=
  isName_of_mem_foldl (List.forall_mem_nil IsName) h

/-! ## Steps and the stack -/

theorem Simplifies.cleanSegments_eq (h : Simplifies ss ms) :
    cleanSegments ss = cleanSegments ms := by
  cases h with
  | skip front back h =>
    simp only [InitialFile.cleanSegments_eq, List.foldl_append, List.foldl_cons, push_of_skip h]
  | cancel front back h =>
    simp only [InitialFile.cleanSegments_eq, List.foldl_append, List.foldl_cons, push_of_isName h,
      push_dots, List.dropLast_concat]
  | stay back =>
    simp only [InitialFile.cleanSegments_eq, List.foldl_cons, push_dots, List.dropLast_nil]

theorem cleanSegments_eq_of_steps (h : Relation.ReflTransGen Simplifies ss ms) :
    cleanSegments ss = cleanSegments ms := by
  induction h with
  | refl => rfl
  | tail _ hstep ih => rw [ih, hstep.cleanSegments_eq]

/-- Behind the names that are kept, the next segment is a step or one more name. -/
theorem steps_foldl (hk : ∀ n ∈ kept, IsName n) (ss : List Text) :
    Relation.ReflTransGen Simplifies (kept ++ ss) (ss.foldl push kept) := by
  induction ss generalizing kept with
  | nil =>
    rw [List.append_nil]
    exact .refl
  | cons s ss ih =>
    -- the way from the stack that has read `s`; what is left is at most one step to it
    have hrest := ih fun n (hn : n ∈ push kept s) => isName_of_mem_push hk hn
    rw [List.foldl_cons]
    by_cases hs : s = [] ∨ s = ['.']
    · rw [push_of_skip hs] at hrest ⊢
      exact hrest.head (.skip kept ss hs)
    by_cases hdots : s = ['.', '.']
    · subst hdots
      rw [push_dots] at hrest ⊢
      rcases List.eq_nil_or_concat kept with rfl | ⟨front, n, rfl⟩
      · exact hrest.head (.stay ss)
      · rw [List.concat_eq_append] at hk hrest ⊢
        rw [List.dropLast_concat] at hrest ⊢
        rw [List.append_assoc, List.singleton_append]
        exact hrest.head (.cancel front ss (hk n (by simp)))
    · rw [not_or] at hs
      rw [push_of_isName ⟨hs.1, hs.2, hdots⟩] at hrest ⊢
      rwa [List.append_assoc, List.singleton_append] at hrest

theorem steps_cleanSegments (ss : List Text) :
    Relation.ReflTransGen Simplifies ss (cleanSegments ss) :=
  steps_foldl (List.forall_mem_nil IsName) ss

theorem not_simplifies_of_isName (h : ∀ n ∈ ns, IsName n) : ¬ Simplifies ns ms := by
  rintro (⟨front, back, hs⟩ | ⟨front, back, -⟩ | ⟨back⟩)
  · have hn := h _ (List.mem_append_right front List.mem_cons_self)
    rcases hs with rfl | rfl
    · exact hn.1 rfl
    · exact hn.2.1 rfl
  · have hn := h ['.', '.'] (by simp)
    exact hn.2.2 rfl
  · have hn := h ['.', '.'] (by simp)
    exact hn.2.2 rfl

/-- Whatever steps are taken, they end in the names that the stack keeps. -/
theorem settlesIn_iff : SettlesIn ss ns ↔ ns = cleanSegments ss := by
  constructor
  · rintro ⟨hsteps, hend⟩
    rw [cleanSegments_eq_of_steps hsteps]
    -- the stack's own way on from `ns` cannot begin with a step
    rcases (steps_cleanSegments ns).cases_head with h | ⟨ms, hstep, -⟩
    · exact h
    · exact absurd hstep (hend ms)
  · rintro rfl
    exact ⟨steps_cleanSegments ss, fun ms =>
      not_simplifies_of_isName fun n hn => isName_of_mem_cleanSegments hn⟩

/-! ## The segments of a file -/

/-- A file's path with slashes in the place of backslashes. -/
def slashed (file : Text) : Text := file.map fun c => if c = '\\' then '/' else c

theorem split_slashed (file : Text) :
    Text.split '/' (slashed file) = Text.splitBy (fun c => c == '/' || c == '\\') file := by
  induction file with
  | nil => rfl
  | cons c file ih =>
    unfold Text.split slashed at ih ⊢
    rw [List.map_cons, Text.splitBy, Text.splitBy, ih]
    by_cases hb : c = '\\'
    · simp [hb]
    · simp [hb]

theorem settlesIn_segments_iff {file : Text} :
    SettlesIn (Text.split '/' (slashed file)) ns ↔ ns = segments file := by
  rw [settlesIn_iff, split_slashed]
  rfl

example : segments "a//b\\..\\../../c/./d.md".toList = ["c".toList, "d.md".toList] := by decide

end InitialFile

end SiteGateway
