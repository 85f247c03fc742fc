import Mathlib.Data.List.DropRight
import SiteGateway.Text.Basic

/-!
# Pieces of a text

No piece holds a separator, and writing the separators back gives the text.
-/

namespace SiteGateway

namespace Text
variable {p q : Char → Bool} {c : Char} {s t x y : Text}

theorem splitBy_append_cons (hc : p c = true) :
    splitBy p (x ++ c :: y) = splitBy p x ++ splitBy p y := by
  induction x with
  | nil => simp [splitBy, hc]
  | cons a x ih =>
    rw [List.cons_append, splitBy, splitBy, ih]
    split
    · rfl
    · cases h : splitBy p x with
      | nil => exact absurd h (splitBy_ne_nil p x)
      | cons piece rest => rfl

theorem splitBy_of_free (h : ∀ c ∈ x, p c = false) : splitBy p x = [x] := by
  induction x with
  | nil => rfl
  | cons a x ih =>
    rw [splitBy, h a (by simp), ih fun c hc => h c (by simp [hc])]
    rfl

theorem of_mem_splitBy (h : s ∈ splitBy p t) : ∀ c ∈ s, p c = false ∧ c ∈ t := by
  induction t generalizing s with
  | nil =>
    obtain rfl := List.mem_singleton.mp h
    simp
  | cons a t ih =>
    rw [splitBy] at h
    split at h
    · rcases List.mem_cons.mp h with rfl | h
      · simp
      · intro c hc
        exact ⟨(ih h c hc).1, by simp [(ih h c hc).2]⟩
    · rename_i ha
      cases hs : splitBy p t with
      | nil => exact absurd hs (splitBy_ne_nil p t)
      | cons piece rest =>
        rw [hs] at h ih
        rcases List.mem_cons.mp h with rfl | h
        · intro c hc
          rcases List.mem_cons.mp hc with rfl | hc
          · exact ⟨by simpa using ha, by simp⟩
          · obtain ⟨hf, ht⟩ := ih (List.mem_cons_self ..) c hc
            exact ⟨hf, by simp [ht]⟩
        · intro c hc
          obtain ⟨hf, ht⟩ := ih (List.mem_cons_of_mem _ h) c hc
          exact ⟨hf, by simp [ht]⟩

theorem cut?_append_cons (h : c ∉ x) : cut? c (x ++ c :: y) = some (x, y) := by
  induction x with
  | nil => rw [List.nil_append, cut?, if_pos rfl]
  | cons a x ih =>
    rw [List.mem_cons, not_or] at h
    rw [List.cons_append, cut?, if_neg (Ne.symm h.1), ih h.2]
    rfl

theorem cut?_eq_none (h : c ∉ x) : cut? c x = none := by
  induction x with
  | nil => rfl
  | cons a x ih =>
    rw [List.mem_cons, not_or] at h
    rw [cut?, if_neg (Ne.symm h.1), ih h.2]
    rfl

/-- Before a word nothing is cut where its first character does not stand. -/
theorem cutAt?_append_of_notMem {w : Text} (hw : w.head? = some c) (h : c ∉ x) (y : Text) :
    cutAt? w (x ++ y) = (cutAt? w y).map fun (before, after) => (x ++ before, after) := by
  obtain ⟨w, rfl⟩ := List.head?_eq_some_iff.mp hw
  induction x with
  | nil => simp
  | cons a x ih =>
    rw [List.mem_cons, not_or] at h
    have ha : ¬ (c :: w).isPrefixOf (a :: (x ++ y)) = true := by simp [List.isPrefixOf, h.1]
    rw [List.cons_append, cutAt?, if_neg ha, ih h.2]
    simp [Function.comp_def]

/-- A word is found where its first character occurs for the first time. -/
theorem cutAt?_append {w : Text} (hw : w.head? = some c) (h : c ∉ x) (y : Text) :
    cutAt? w (x ++ (w ++ y)) = some (x, y) := by
  rw [cutAt?_append_of_notMem hw h]
  obtain ⟨w, rfl⟩ := List.head?_eq_some_iff.mp hw
  have hword : (c :: w).isPrefixOf (c :: w ++ y) = true :=
    List.isPrefixOf_iff_prefix.mpr (List.prefix_append ..)
  rw [List.cons_append, cutAt?, ← List.cons_append, if_pos hword, List.drop_left]
  simp

theorem eq_append_of_cutAt? {w : Text} (h : cutAt? w t = some (x, y)) : t = x ++ (w ++ y) := by
  induction t generalizing x with
  | nil =>
    rw [cutAt?] at h
    split at h
    next hw =>
      obtain ⟨rfl, rfl⟩ := Prod.mk.inj (Option.some.inj h)
      rw [List.isEmpty_iff.mp hw]
      rfl
    next => cases h
  | cons a t ih =>
    rw [cutAt?] at h
    split at h
    next hw =>
      obtain ⟨rfl, rfl⟩ := Prod.mk.inj (Option.some.inj h)
      obtain ⟨rest, hrest⟩ := List.isPrefixOf_iff_prefix.mp hw
      rw [← hrest, List.drop_left]
      rfl
    next =>
      obtain ⟨⟨front, back⟩, hcut, he⟩ := Option.map_eq_some_iff.mp h
      obtain ⟨rfl, rfl⟩ := Prod.mk.inj he
      rw [ih hcut]
      rfl

theorem hasInfix_iff {w : Text} : hasInfix w t = true ↔ w <:+: t := by
  rw [hasInfix]
  constructor
  · intro h
    obtain ⟨⟨x, y⟩, h⟩ := Option.isSome_iff_exists.mp h
    exact ⟨x, y, by rw [eq_append_of_cutAt? h, List.append_assoc]⟩
  · intro h
    induction t with
    | nil =>
      obtain rfl := List.infix_nil.mp h
      rfl
    | cons c t ih =>
      rw [cutAt?]
      split
      next => rfl
      next hw =>
        rw [Option.isSome_map]
        rw [List.isPrefixOf_iff_prefix] at hw
        exact ih ((List.infix_cons_iff.mp h).resolve_left hw)

theorem splitBy_eq_splitOnP (p : Char → Bool) (t : Text) : splitBy p t = t.splitOnP p := by
  induction t with
  | nil => rfl
  | cons a t ih =>
    rw [splitBy, List.splitOnP_cons_eq_if_modifyHead, ih]
    split
    · rfl
    · cases h : t.splitOnP p with
      | nil => exact absurd (ih.trans h) (splitBy_ne_nil p t)
      | cons piece rest => rfl

theorem split_eq_splitOn (c : Char) (t : Text) : split c t = t.splitOn c := splitBy_eq_splitOnP _ t

theorem join_cons_cons (sep t s : Text) (ts : List Text) :
    join sep (t :: s :: ts) = t ++ sep ++ join sep (s :: ts) := rfl

theorem join_eq_intercalate (sep : Text) (ts : List Text) : join sep ts = sep.intercalate ts := by
  induction ts with
  | nil => rfl
  | cons t ts ih =>
    cases ts with
    | nil => exact (List.append_nil t).symm
    | cons s ts => rw [join_cons_cons, ih, List.append_assoc]; rfl

/-- Texts without the separator are what is read of them when they are joined. -/
theorem split_join {ts : List Text} (hts : ts ≠ []) (h : ∀ t ∈ ts, c ∉ t) :
    split c (join [c] ts) = ts := by
  rw [split_eq_splitOn, join_eq_intercalate, List.splitOn_intercalate c h hts]

theorem join_split (c : Char) (t : Text) : join [c] (split c t) = t := by
  rw [split_eq_splitOn, join_eq_intercalate, List.intercalate_splitOn]

theorem of_mem_join {sep : Text} {ts : List Text} (h : c ∈ join sep ts) :
    c ∈ sep ∨ ∃ t ∈ ts, c ∈ t := by
  induction ts with
  | nil => cases h
  | cons t ts ih =>
    cases ts with
    | nil => exact .inr ⟨t, List.mem_singleton_self t, h⟩
    | cons s ts =>
      rw [join_cons_cons, List.mem_append, List.mem_append] at h
      rcases h with (h | h) | h
      · exact .inr ⟨t, List.mem_cons_self, h⟩
      · exact .inl h
      · exact (ih h).imp_right fun ⟨u, hu, hc⟩ => ⟨u, List.mem_cons_of_mem _ hu, hc⟩

theorem splitBy_congr (h : ∀ c ∈ t, p c = q c) : splitBy p t = splitBy q t := by
  induction t with
  | nil => rfl
  | cons a t ih => rw [splitBy, splitBy, h a (by simp), ih fun c hc => h c (by simp [hc])]

theorem flatMap_split (c : Char) (t : Text) : (split c t).flatMap (c :: ·) = c :: t := by
  induction t with
  | nil => rfl
  | cons a t ih =>
    unfold split at ih ⊢
    rw [splitBy]
    split
    · rename_i ha
      obtain rfl : a = c := by simpa using ha
      rw [List.flatMap_cons, ih]
      rfl
    · cases hs : splitBy (· == c) t with
      | nil => exact absurd hs (splitBy_ne_nil _ t)
      | cons piece rest =>
        rw [hs, List.flatMap_cons] at ih
        have ih : piece ++ rest.flatMap (c :: ·) = t := List.tail_eq_of_cons_eq ih
        rw [List.flatMap_cons, List.cons_append, List.cons_append, ih]

/-- Texts without separators, each written after one, are read back as pieces. -/
theorem splitBy_append_flatMap_append {ss : List Text} (hp : p c = true)
    (h : ∀ s ∈ ss, ∀ a ∈ s, p a = false) (x t : Text) :
    splitBy p (x ++ (ss.flatMap (c :: ·) ++ c :: t)) = splitBy p x ++ (ss ++ splitBy p t) := by
  induction ss generalizing x with
  | nil => exact splitBy_append_cons hp
  | cons s ss ih =>
    have hs : splitBy p s = [s] := splitBy_of_free (h s (by simp))
    rw [List.flatMap_cons, List.cons_append, List.cons_append, splitBy_append_cons hp,
      List.append_assoc, ih (fun s hs => h s (by simp [hs])), hs]
    rfl

/-- Texts without separators, each written after one, are the pieces behind an empty one. -/
theorem splitBy_flatMap {ss : List Text} (hp : p c = true) (h : ∀ s ∈ ss, ∀ a ∈ s, p a = false) :
    splitBy p (ss.flatMap (c :: ·)) = [] :: ss := by
  rcases List.eq_nil_or_concat ss with rfl | ⟨front, last, rfl⟩
  · rfl
  · rw [List.concat_eq_append] at h ⊢
    have hlast : splitBy p last = [last] := splitBy_of_free (h last (by simp))
    have hf : ∀ s ∈ front, ∀ a ∈ s, p a = false := fun s hs => h s (by simp [hs])
    have hfront := splitBy_append_flatMap_append hp hf [] last
    rw [hlast, List.nil_append] at hfront
    rw [List.flatMap_append, List.flatMap_singleton, hfront]
    rfl

/-- A text is without separators or has a first one. -/
@[elab_as_elim]
theorem splitBy_induction (p : Char → Bool) {motive : Text → Prop} (t : Text)
    (free : ∀ x, (∀ a ∈ x, p a = false) → motive x)
    (cut : ∀ x c y, (∀ a ∈ x, p a = false) → p c = true → motive y → motive (x ++ c :: y)) :
    motive t := by
  suffices h : ∀ x, (∀ a ∈ x, p a = false) → motive (x ++ t) from h [] (by simp)
  induction t with
  | nil =>
    intro x hx
    rw [List.append_nil]
    exact free x hx
  | cons c t ih =>
    intro x hx
    cases hc : p c with
    | true => exact cut x c t hx hc (ih [] (by simp))
    | false =>
      rw [← List.singleton_append, ← List.append_assoc]
      refine ih (x ++ [c]) fun a ha => ?_
      rcases List.mem_append.mp ha with ha | ha
      · exact hx a ha
      · exact List.mem_singleton.mp ha ▸ hc

/-- A piece is what stands without separators between separators or ends. -/
theorem mem_splitBy_iff :
    s ∈ splitBy p t ↔ (∀ c ∈ s, p c = false) ∧ ∃ front back, t = front ++ (s ++ back) ∧
      (∀ c ∈ front.getLast?, p c = true) ∧ ∀ c ∈ back.head?, p c = true := by
  constructor
  · intro h
    refine ⟨fun c hc => (of_mem_splitBy h c hc).1, ?_⟩
    induction t using splitBy_induction p with
    | free x hx =>
      obtain rfl := List.mem_singleton.mp (splitBy_of_free hx ▸ h)
      exact ⟨[], [], by simp, by simp, by simp⟩
    | cut x c y hx hc ih =>
      rw [splitBy_append_cons hc, splitBy_of_free hx, List.singleton_append, List.mem_cons] at h
      rcases h with rfl | h
      · exact ⟨[], c :: y, rfl, by simp, by simpa using hc⟩
      · obtain ⟨front, back, rfl, hfront, hback⟩ := ih h
        refine ⟨x ++ c :: front, back, by simp, ?_, hback⟩
        rcases List.eq_nil_or_concat front with rfl | ⟨front, d, rfl⟩
        · simpa using hc
        · rw [List.concat_eq_append, ← List.cons_append, ← List.append_assoc, List.getLast?_concat]
          simpa using hfront
  · rintro ⟨hs, front, back, rfl, hfront, hback⟩
    -- what comes before the piece ends in a separator and is cut off
    have hmem : s ∈ splitBy p (s ++ back) := by
      cases back with
      | nil => rw [List.append_nil, splitBy_of_free hs]; exact List.mem_singleton_self s
      | cons c back =>
        rw [splitBy_append_cons (hback c rfl), splitBy_of_free hs]
        exact List.mem_cons_self
    rcases List.eq_nil_or_concat front with rfl | ⟨front, c, rfl⟩
    · exact hmem
    · have hc : p c = true := hfront c (by simp)
      rw [List.concat_eq_append, List.append_assoc, List.singleton_append, splitBy_append_cons hc]
      exact List.mem_append_right _ hmem

/-- The last piece, and what ends with a separator before it. -/
theorem exists_lastPiece (c : Char) (t : Text) :
    ∃ front x, t = front ++ x ∧ c ∉ x ∧ ∀ d ∈ front.getLast?, d = c := by
  refine ⟨t.rdropWhile (· != c), t.rtakeWhile (· != c),
    (List.rdropWhile_append_rtakeWhile ..).symm, fun hc => ?_, fun d hd => ?_⟩
  · have := List.mem_rtakeWhile_imp hc
    simp at this
  · have hne : t.rdropWhile (· != c) ≠ [] := List.ne_nil_of_mem (List.mem_of_getLast? hd)
    rw [Option.mem_def, List.getLast?_eq_some_getLast hne, Option.some.injEq] at hd
    have := List.rdropWhile_last_not (· != c) t hne
    rw [hd] at this
    simpa using this

/-- The first piece, and what starts with a separator after it. -/
theorem exists_firstPiece (c : Char) (t : Text) :
    ∃ x back, t = x ++ back ∧ c ∉ x ∧ ∀ d ∈ back.head?, d = c := by
  refine ⟨t.takeWhile (· != c), t.dropWhile (· != c), List.takeWhile_append_dropWhile.symm,
    fun hc => ?_, fun d hd => ?_⟩
  · have := List.mem_takeWhile_imp hc
    simp at this
  · have := List.head?_dropWhile_not (· != c) t
    rw [Option.mem_def.mp hd] at this
    simpa using this

end Text

end SiteGateway
