import Mathlib.Data.List.Chain
import SiteGateway.Proofs.Text.Ascii
import SiteGateway.Proofs.Text.CodePoints
import SiteGateway.Proofs.Text.Split
import SiteGateway.Proofs.Text.Utf8
import SiteGateway.Text.Composition

/-!
# Texts in their normal form

A text in its normal form stays as it is (`Composition.normal_normal`), and so do its pieces between
dots (`Composition.split_normal`). Composing is undone by taking apart and ordering
(`Composition.order_decompose_composeAfter`): a mark that reaches its letter passes only marks of
lower classes on the way, and these it passes again when it is put back in order.
-/

namespace SiteGateway
namespace Composition

variable {a b c d l w : Char} {bs t x y : Text} {n : Nat} {e : Composite} {es : List Composite}

/-! ### The tables -/

/-- A composite that is the letter of another one comes before it, and all are different. -/
inductive Layered : List Composite → Prop
  | nil : Layered []
  | cons {e : Composite} {es : List Composite} :
    (∀ d ∈ e :: es, d.whole ≠ e.letter) → (∀ d ∈ es, d.whole ≠ e.whole) → Layered es →
    Layered (e :: es)

/-- Whether the composites are layered, and all of them as bits. -/
def layers (es : List Composite) : Bool × Nat :=
  es.foldr
    (fun e x => (x.1 && !hasBit (1 <<< e.whole ||| x.2) e.letter && !hasBit x.2 e.whole,
      1 <<< e.whole ||| x.2))
    (true, 0)

theorem snd_layers (es : List Composite) : (layers es).2 = bitsOf (es.map (·.whole)) := by
  induction es with
  | nil => rfl
  | cons e es ih =>
    change 1 <<< e.whole ||| (layers es).2 = _
    rw [ih]
    rfl

theorem hasBit_wholes : hasBit (bitsOf (es.map (·.whole))) n = false ↔ ∀ d ∈ es, d.whole ≠ n := by
  rw [hasBit_eq_testBit, testBit_bitsOf, decide_eq_false_iff_not, List.mem_map]
  grind

theorem Layered.of_layers (h : (layers es).1 = true) : Layered es := by
  induction es with
  | nil => exact .nil
  | cons e es ih =>
    change ((layers es).1 && !hasBit (1 <<< e.whole ||| (layers es).2) e.letter &&
      !hasBit (layers es).2 e.whole) = true at h
    rw [snd_layers] at h
    simp only [Bool.and_eq_true, Bool.not_eq_true'] at h
    obtain ⟨⟨hes, hletter⟩, hwhole⟩ := h
    exact .cons (hasBit_wholes.mp hletter) (hasBit_wholes.mp hwhole) (ih hes)

theorem toNat_ofNat (h : n.isValidChar) : (Char.ofNat n).toNat = n := Utf8.val_ofNat h

/-- A character that is no Korean syllable. -/
def Proper (n : Nat) : Prop := n.isValidChar ∧ ¬ (0xAC00 ≤ n ∧ n < 0xD7A4)

instance (n : Nat) : Decidable (Proper n) :=
  inferInstanceAs (Decidable (n.isValidChar ∧ ¬ (0xAC00 ≤ n ∧ n < 0xD7A4)))

/-- Marks are not composed themselves, letters are not ordered, and neither what is composed nor
what is ordered is found in ASCII or among the parts of Korean syllables. -/
structure Sound (es : List Composite) (rs : List MarkRange) : Prop where
  layered : Layered es
  proper : ∀ e ∈ es, Proper e.letter ∧ Proper e.mark ∧ Proper e.whole
  wholes : ∀ e ∈ es, 0x80 ≤ e.whole ∧ (e.whole < 0x1100 ∨ 0x1200 ≤ e.whole)
  marks : ∀ e ∈ es, 0x80 ≤ e.mark ∧ ∀ d ∈ es, d.whole ≠ e.mark
  letters : ∀ e ∈ es, e.letter ≠ 0x2E ∧ ∀ r ∈ rs, ¬ (r.first ≤ e.letter ∧ e.letter ≤ r.last)
  classes : ∀ r ∈ rs, 0x80 ≤ r.first ∧ (r.last < 0x1100 ∨ 0x1113 ≤ r.first) ∧
    (r.last < 0xAC00 ∨ 0xE000 ≤ r.first)

def check (es : List Composite) (rs : List MarkRange) : Bool :=
  (layers es).1 &&
  (es.all fun e => decide (Proper e.letter ∧ Proper e.mark ∧ Proper e.whole ∧ 0x80 ≤ e.whole ∧
    (e.whole < 0x1100 ∨ 0x1200 ≤ e.whole) ∧ 0x80 ≤ e.mark ∧ e.letter ≠ 0x2E)) &&
  bitsOf (es.map (·.mark)) &&& bitsOf (es.map (·.whole)) == 0 &&
  bitsOf (es.map (·.letter)) &&& CodePoints.bits (rs.map fun r => (r.first, r.last)) == 0 &&
  (rs.all fun r => decide (0x80 ≤ r.first ∧ (r.last < 0x1100 ∨ 0x1113 ≤ r.first) ∧
    (r.last < 0xAC00 ∨ 0xE000 ≤ r.first)))

theorem Sound.of_check {rs : List MarkRange} (h : check es rs = true) : Sound es rs := by
  simp only [check, Bool.and_eq_true, List.all_eq_true, decide_eq_true_eq, beq_iff_eq] at h
  obtain ⟨⟨⟨⟨hlayers, hes⟩, hmarks⟩, hletters⟩, hrs⟩ := h
  have hmem (f : Composite → Nat) {e : Composite} (he : e ∈ es) :
      (bitsOf (es.map f)).testBit (f e) = true := by
    rw [testBit_bitsOf]
    exact decide_eq_true (List.mem_map_of_mem he)
  refine ⟨.of_layers hlayers, fun e he => ?_, fun e he => ?_, fun e he => ?_, fun e he => ?_, hrs⟩
  · obtain ⟨h₁, h₂, h₃, -⟩ := hes e he
    exact ⟨h₁, h₂, h₃⟩
  · obtain ⟨-, -, -, h₁, h₂, -⟩ := hes e he
    exact ⟨h₁, h₂⟩
  · have hapart := testBit_of_and_eq_zero hmarks (hmem _ he)
    rw [← hasBit_eq_testBit] at hapart
    exact ⟨(hes e he).2.2.2.2.2.1, hasBit_wholes.mp hapart⟩
  · have hapart := testBit_of_and_eq_zero hletters (hmem _ he)
    rw [CodePoints.testBit_bits, List.any_map, List.any_eq_false] at hapart
    exact ⟨(hes e he).2.2.2.2.2.2, fun r hr hcovers => hapart r hr (by simpa using hcovers)⟩

set_option maxRecDepth 100000 in
theorem sound : Sound composites classes := .of_check <| by
  rw [composites, Composite.table, String.toList_ofList, classes, MarkRange.table,
    String.toList_ofList]
  decide +kernel

/-! ### Taking apart -/

/-- A character that is not taken apart. -/
structure Atom (c : Char) : Prop where
  decompose_eq : decompose c = [c]

theorem strip_cons (e : Composite) (es : List Composite) (n : Nat) : strip (e :: es) n =
    if (strip es n).1 = e.whole then (e.letter, e.mark :: (strip es n).2) else strip es n := rfl

theorem strip_of_ne (h : ∀ e ∈ es, e.whole ≠ n) : strip es n = (n, []) := by
  induction es with
  | nil => rfl
  | cons e es ih =>
    obtain ⟨he, hes⟩ := List.forall_mem_cons.mp h
    rw [strip_cons, ih hes, if_neg (Ne.symm he)]

theorem strip_whole (h : Layered es) (he : e ∈ es) :
    (strip es e.whole).1 = (strip es e.letter).1 ∧
      (strip es e.whole).2 = (strip es e.letter).2 ++ [e.mark] := by
  induction h with
  | nil => cases he
  | cons hletter hwhole _ ih =>
    rcases List.mem_cons.mp he with rfl | he
    · rw [strip_of_ne hletter, strip_cons, strip_of_ne hwhole, if_pos rfl]
      exact ⟨rfl, rfl⟩
    · obtain ⟨hl, hm⟩ := ih he
      rw [strip_cons, strip_cons, hl, hm]
      split
      · exact ⟨rfl, rfl⟩
      · exact ⟨hl, hm⟩

/-- What is left under the marks has none. -/
theorem whole_ne_strip (h : Layered es) (n : Nat) : ∀ e ∈ es, e.whole ≠ (strip es n).1 := by
  induction h with
  | nil => exact List.forall_mem_nil _
  | cons hletter _ _ ih =>
    rw [strip_cons]
    split
    next => exact hletter
    next hne => exact List.forall_mem_cons.mpr ⟨Ne.symm hne, ih⟩

theorem forall_strip {P Q : Nat → Prop} (hn : P n)
    (h : ∀ e ∈ es, P e.whole → P e.letter ∧ Q e.mark) :
    P (strip es n).1 ∧ ∀ m ∈ (strip es n).2, Q m := by
  induction es with
  | nil => exact ⟨hn, List.forall_mem_nil _⟩
  | cons d es ih =>
    obtain ⟨hd, hes⟩ := List.forall_mem_cons.mp h
    obtain ⟨hletter, hmarks⟩ := ih hes
    rw [strip_cons]
    split
    next hwhole =>
      rw [hwhole] at hletter
      exact ⟨(hd hletter).1, List.forall_mem_cons.mpr ⟨(hd hletter).2, hmarks⟩⟩
    next => exact ⟨hletter, hmarks⟩

theorem decompose_of_proper (h : Proper c.toNat) : decompose c =
    ((strip composites c.toNat).1 :: (strip composites c.toNat).2).map Char.ofNat := by
  have hparts : syllableParts? c = none := if_neg h.2
  rw [decompose, hparts]

theorem decompose_ofNat (h : Proper n) : decompose (Char.ofNat n) =
    ((strip composites n).1 :: (strip composites n).2).map Char.ofNat := by
  have hn := toNat_ofNat h.1
  rw [decompose_of_proper (hn.symm ▸ h), hn]

theorem atom_of_ne (h : Proper c.toNat) (hc : ∀ e ∈ composites, e.whole ≠ c.toNat) : Atom c := by
  constructor
  rw [decompose_of_proper h, strip_of_ne hc, List.map_singleton, Char.ofNat_toNat]

theorem atom_of_ascii (h : Ascii c) : Atom c := by
  unfold Ascii at h
  refine atom_of_ne ⟨c.valid, by omega⟩ fun e he => ?_
  have := (sound.wholes e he).1
  omega

theorem atom_of_jamo (h : 0x1100 ≤ c.toNat ∧ c.toNat < 0x1200) : Atom c := by
  refine atom_of_ne ⟨c.valid, by omega⟩ fun e he => ?_
  have := (sound.wholes e he).2
  omega

theorem decompose_syllable (hc : c.toNat = 0xAC00 + n) (hn : n < 11172) : decompose c =
    Char.ofNat (0x1100 + n / 588) :: Char.ofNat (0x1161 + n % 588 / 28) ::
      if n % 28 = 0 then [] else [Char.ofNat (0x11A7 + n % 28)] := by
  have hi : c.toNat - 0xAC00 = n := by omega
  rw [decompose, syllableParts?, if_pos (by omega)]
  simp only [hi]
  split <;> rfl

/-- The parts of Korean syllables. -/
def Jamo (n : Nat) : Prop :=
  0x1100 ≤ n ∧ n < 0x1113 ∨ 0x1161 ≤ n ∧ n < 0x1176 ∨ 0x11A8 ≤ n ∧ n < 0x11C3

theorem jamo_of_mem_decompose (hc : 0xAC00 ≤ c.toNat ∧ c.toNat < 0xD7A4) (h : d ∈ decompose c) :
    ∃ n, Jamo n ∧ d = Char.ofNat n := by
  unfold Jamo
  rw [decompose_syllable (n := c.toNat - 0xAC00) (by omega) (by omega)] at h
  rcases List.mem_cons.mp h with h | h
  · exact ⟨_, by omega, h⟩
  rcases List.mem_cons.mp h with h | h
  · exact ⟨_, by omega, h⟩
  split at h
  · cases h
  · exact ⟨_, by omega, List.mem_singleton.mp h⟩

theorem atom_of_mem_decompose (h : d ∈ decompose c) : Atom d := by
  by_cases hc : 0xAC00 ≤ c.toNat ∧ c.toNat < 0xD7A4
  · obtain ⟨n, hn, rfl⟩ := jamo_of_mem_decompose hc h
    unfold Jamo at hn
    refine atom_of_jamo ?_
    rw [toNat_ofNat (.inl (by omega))]
    omega
  · have hproper : Proper c.toNat := ⟨c.valid, hc⟩
    rw [decompose_of_proper hproper] at h
    obtain ⟨n, hn, rfl⟩ := List.mem_map.mp h
    obtain ⟨hletter, hmarks⟩ := forall_strip (P := Proper)
      (Q := fun m => Proper m ∧ ∀ e ∈ composites, e.whole ≠ m) hproper fun e he _ =>
        ⟨(sound.proper e he).1, (sound.proper e he).2.1, (sound.marks e he).2⟩
    have hbare := whole_ne_strip sound.layered c.toNat
    generalize strip composites c.toNat = x at hn hletter hmarks hbare
    have hn : Proper n ∧ ∀ e ∈ composites, e.whole ≠ n :=
      List.forall_mem_cons.mpr ⟨⟨hletter, hbare⟩, hmarks⟩ n hn
    rw [← toNat_ofNat hn.1.1] at hn
    exact atom_of_ne hn.1 hn.2

/-- What holds of a character holds of what it stands for. -/
theorem forall_mem_decompose {P : Char → Prop} (hjamo : ∀ n, Jamo n → P (Char.ofNat n))
    (hwhole : ∀ e ∈ composites, P (Char.ofNat e.whole) →
      P (Char.ofNat e.letter) ∧ P (Char.ofNat e.mark)) (hc : P c) : ∀ d ∈ decompose c, P d := by
  intro d hd
  by_cases hs : 0xAC00 ≤ c.toNat ∧ c.toNat < 0xD7A4
  · obtain ⟨n, hn, rfl⟩ := jamo_of_mem_decompose hs hd
    exact hjamo n hn
  · rw [decompose_of_proper ⟨c.valid, hs⟩] at hd
    obtain ⟨n, hn, rfl⟩ := List.mem_map.mp hd
    rw [← Char.ofNat_toNat c] at hc
    obtain ⟨hletter, hmarks⟩ := forall_strip (P := fun n => P (Char.ofNat n))
      (Q := fun n => P (Char.ofNat n)) hc hwhole
    rcases List.mem_cons.mp hn with hn | hn
    · rw [hn]
      exact hletter
    · exact hmarks n hn

/-! ### Putting together -/

/-- A syllable is composed of its first two parts, or of these and the third. -/
theorem decompose_of_syllable? (h : syllable? a b = some w) : decompose w = decompose a ++ [b] := by
  rw [syllable?] at h
  split at h
  next hv =>
    have ha : Atom a := atom_of_jamo (by omega)
    have hw : w.toNat = 0xAC00 + ((a.toNat - 0x1100) * 21 + (b.toNat - 0x1161)) * 28 := by
      rw [← Option.some.inj h, toNat_ofNat (.inl (by omega))]
    have hl : 0x1100 + ((a.toNat - 0x1100) * 21 + (b.toNat - 0x1161)) * 28 / 588 = a.toNat := by
      omega
    have hm : 0x1161 + ((a.toNat - 0x1100) * 21 + (b.toNat - 0x1161)) * 28 % 588 / 28 =
        b.toNat := by
      omega
    rw [ha.decompose_eq, decompose_syllable hw (by omega), if_pos (by omega), hl, hm,
      Char.ofNat_toNat, Char.ofNat_toNat]
    rfl
  next =>
    obtain ⟨hv, h⟩ := Option.ite_none_right_eq_some.mp h
    obtain ⟨n, hn⟩ : ∃ n, a.toNat = 0xAC00 + n := ⟨a.toNat - 0xAC00, by omega⟩
    have hw : w.toNat = 0xAC00 + (n + (b.toNat - 0x11A7)) := by
      rw [← Option.some.inj h, toNat_ofNat (.inl (by omega))]
      omega
    have hl : (n + (b.toNat - 0x11A7)) / 588 = n / 588 := by omega
    have hm : (n + (b.toNat - 0x11A7)) % 588 / 28 = n % 588 / 28 := by omega
    have ht : 0x11A7 + (n + (b.toNat - 0x11A7)) % 28 = b.toNat := by omega
    have ha := decompose_syllable hn (by omega)
    rw [if_pos (by omega)] at ha
    rw [ha, decompose_syllable hw (by omega), if_neg (by omega), hl, hm, ht, Char.ofNat_toNat]
    rfl

theorem compose?_eq_some (h : compose? a b = some w) :
    syllable? a b = some w ∨
      ∃ e ∈ composites, a = Char.ofNat e.letter ∧ b = Char.ofNat e.mark ∧
        w = Char.ofNat e.whole := by
  rw [compose?] at h
  split at h
  next hs =>
    cases h
    exact .inl hs
  next =>
    obtain ⟨e, he, rfl⟩ := Option.map_eq_some_iff.mp h
    have hfound := List.find?_some he
    simp only [Bool.and_eq_true, beq_iff_eq] at hfound
    refine .inr ⟨e, List.mem_of_find?_eq_some he, ?_, ?_, rfl⟩
    · rw [hfound.1, Char.ofNat_toNat]
    · rw [hfound.2, Char.ofNat_toNat]

/-- Composing is undone by taking apart. -/
theorem decompose_of_compose? (h : compose? a b = some w) : decompose w = decompose a ++ [b] := by
  rcases compose?_eq_some h with h | ⟨e, he, rfl, rfl, rfl⟩
  · exact decompose_of_syllable? h
  · obtain ⟨hletter, -, hwhole⟩ := sound.proper e he
    obtain ⟨hl, hm⟩ := strip_whole sound.layered he
    rw [decompose_ofNat hwhole, decompose_ofNat hletter, hl, hm, List.map_cons, List.map_append,
      List.map_singleton, List.map_cons, List.cons_append]

/-! ### Ordering -/

theorem insert_of_markClass (h : markClass c = 0) (t : Text) : insert c t = c :: t := by
  cases t with
  | nil => rfl
  | cons d t => rw [insert, h, if_neg (by omega)]

theorem order_cons (c : Char) (t : Text) : order (c :: t) = insert c (order t) := rfl

theorem order_append (x y : Text) : order (x ++ y) = x.foldr insert (order y) := List.foldr_append

/-- Two characters may be put in front one after the other in any order if one of them passes the
other. -/
theorem insert_comm (h : 0 < markClass d ∧ markClass d < markClass c) (t : Text) :
    insert c (insert d t) = insert d (insert c t) := by
  have hdc : ¬ (0 < markClass c ∧ markClass c < markClass d) := by omega
  induction t with
  | nil => simp only [insert, if_pos h, if_neg hdc]
  | cons e t ih =>
    by_cases he : 0 < markClass e ∧ markClass e < markClass d
    · have hec : 0 < markClass e ∧ markClass e < markClass c := ⟨he.1, he.2.trans h.2⟩
      simp only [insert, if_pos he, if_pos hec, ih]
    · by_cases hec : 0 < markClass e ∧ markClass e < markClass c
      · simp only [insert, if_neg he, if_pos hec, if_pos h]
      · simp only [insert, if_neg he, if_neg hec, if_pos h, if_neg hdc]

theorem insert_foldr_insert (h : ∀ b ∈ bs, 0 < markClass b ∧ markClass b < markClass c)
    (t : Text) : insert c (bs.foldr insert t) = bs.foldr insert (insert c t) := by
  induction bs with
  | nil => rfl
  | cons b bs ih =>
    obtain ⟨hb, hbs⟩ := List.forall_mem_cons.mp h
    rw [List.foldr_cons, List.foldr_cons, insert_comm hb, ih hbs]

theorem order_insert (c : Char) (t : Text) : order (insert c t) = insert c (order t) := by
  induction t with
  | nil => rfl
  | cons d t ih =>
    rw [insert]
    split
    next h => rw [order_cons, ih, order_cons, insert_comm h]
    next => rw [order_cons]

theorem order_order (t : Text) : order (order t) = order t := by
  induction t with
  | nil => rfl
  | cons c t ih => rw [order_cons, order_insert, ih]

theorem insert_perm (c : Char) (t : Text) : (insert c t).Perm (c :: t) := by
  induction t with
  | nil => exact .refl _
  | cons d t ih =>
    rw [insert]
    split
    next => exact (ih.cons d).trans (.swap c d t)
    next => exact .refl _

theorem order_perm (t : Text) : (order t).Perm t := by
  induction t with
  | nil => exact .refl _
  | cons c t ih => exact (insert_perm c _).trans (ih.cons c)

/-! ### ASCII -/

theorem markClass_of_ascii (h : Ascii c) : markClass c = 0 := by
  unfold Ascii at h
  have hnone : (classes.find? fun r => r.first ≤ c.toNat && c.toNat ≤ r.last) = none := by
    rw [List.find?_eq_none]
    intro r hr
    have := (sound.classes r hr).1
    simp only [Bool.and_eq_true, decide_eq_true_eq]
    omega
  rw [markClass, hnone]
  rfl

/-- No character of ASCII is composed with a letter in front. -/
theorem compose?_of_ascii (h : Ascii b) : compose? a b = none := by
  rw [← Option.not_isSome_iff_eq_none, Option.isSome_iff_exists]
  rintro ⟨w, hw⟩
  unfold Ascii at h
  rcases compose?_eq_some hw with hw | ⟨e, he, -, rfl, -⟩
  · rw [syllable?, if_neg (by omega), if_neg (by omega)] at hw
    cases hw
  · rw [toNat_ofNat (sound.proper e he).2.1.1] at h
    have := (sound.marks e he).1
    omega

theorem composeAfter_of_ascii (h : ∀ c ∈ t, Ascii c) (c : Char) : composeAfter c [] t = c :: t := by
  induction t generalizing c with
  | nil => rfl
  | cons d t ih =>
    obtain ⟨hd, ht⟩ := List.forall_mem_cons.mp h
    rw [composeAfter, compose?_of_ascii hd, ite_self]
    simp only [markClass_of_ascii hd, if_true, ih ht]
    rfl

theorem order_of_ascii (h : ∀ c ∈ t, Ascii c) : order t = t := by
  induction t with
  | nil => rfl
  | cons c t ih =>
    obtain ⟨hc, ht⟩ := List.forall_mem_cons.mp h
    rw [order_cons, ih ht, insert_of_markClass (markClass_of_ascii hc)]

/-! ### The normal form -/

theorem flatMap_decompose_of_atoms (h : ∀ c ∈ t, Atom c) : t.flatMap decompose = t := by
  rw [List.flatMap_congr fun c hc => (h c hc).decompose_eq, List.flatMap_singleton']

theorem normal_of_ascii (h : ∀ c ∈ t, Ascii c) : normal t = t :=
  if_pos (List.all_eq_true.mpr fun c hc => decide_eq_true (h c hc))

/-- A text in ASCII may be taken apart and composed like any other. -/
theorem normal_eq (t : Text) : normal t = compose (order (t.flatMap decompose)) := by
  rw [normal]
  split
  next h =>
    have hascii : ∀ c ∈ t, Ascii c := fun c hc => of_decide_eq_true (List.all_eq_true.mp h c hc)
    rw [flatMap_decompose_of_atoms fun c hc => atom_of_ascii (hascii c hc), order_of_ascii hascii]
    cases t with
    | nil => rfl
    | cons c t => exact (composeAfter_of_ascii (List.forall_mem_cons.mp hascii).2 c).symm
  next => rfl

/-- Composing is undone by taking apart and ordering. -/
theorem order_decompose_composeAfter (hbs : ∀ b ∈ bs, Atom b ∧ 0 < markClass b)
    (ht : ∀ c ∈ t, Atom c) :
    order ((composeAfter l bs t).flatMap decompose) = order (decompose l ++ (bs ++ t)) := by
  have hself {bs : Text} (h : ∀ b ∈ bs, Atom b ∧ 0 < markClass b) : bs.flatMap decompose = bs :=
    flatMap_decompose_of_atoms fun b hb => (h b hb).1
  induction t generalizing l bs with
  | nil => rw [composeAfter, List.flatMap_cons, hself hbs, List.append_nil]
  | cons c t ih =>
    obtain ⟨hc, ht⟩ := List.forall_mem_cons.mp ht
    rw [composeAfter]
    split
    next w hw =>
      -- the mark passed those between it and its letter, which are of lower classes
      obtain ⟨hpasses, hw⟩ := Option.ite_none_right_eq_some.mp hw
      have hlower : ∀ b ∈ bs, 0 < markClass b ∧ markClass b < markClass c := fun b hb =>
        ⟨(hbs b hb).2, by simpa using List.all_eq_true.mp hpasses b hb⟩
      rw [ih hbs ht, decompose_of_compose? hw, order_append, order_append, order_append,
        List.foldr_append, order_append, order_cons, ← insert_foldr_insert hlower]
      rfl
    next =>
      split
      next =>
        rw [List.cons_append, List.flatMap_cons, List.flatMap_append, hself hbs, order_append,
          order_append, ih (List.forall_mem_nil _) ht, hc.decompose_eq, ← order_append,
          ← order_append]
        rfl
      next hne =>
        have hmarks : ∀ b ∈ bs ++ [c], Atom b ∧ 0 < markClass b := fun b hb => by
          rcases List.mem_append.mp hb with hb | hb
          · exact hbs b hb
          · obtain rfl := List.mem_singleton.mp hb
            exact ⟨hc, Nat.pos_of_ne_zero hne⟩
        rw [ih hmarks ht, List.append_assoc, List.singleton_append]

theorem order_decompose_compose (ht : ∀ c ∈ t, Atom c) :
    order ((compose t).flatMap decompose) = order t := by
  cases t with
  | nil => rfl
  | cons c t =>
    obtain ⟨hc, ht⟩ := List.forall_mem_cons.mp ht
    rw [compose, order_decompose_composeAfter (List.forall_mem_nil _) ht, hc.decompose_eq]
    rfl

theorem normal_normal (t : Text) : normal (normal t) = normal t := by
  have hatoms : ∀ c ∈ order (t.flatMap decompose), Atom c := fun c hc => by
    obtain ⟨d, -, hd⟩ := List.mem_flatMap.mp ((order_perm _).mem_iff.mp hc)
    exact atom_of_mem_decompose hd
  rw [normal_eq t, normal_eq, order_decompose_compose hatoms, order_order]

/-! ### What a text is written with -/

theorem syllable?_eq_some (h : syllable? a b = some w) :
    ∃ n, (0xAC00 ≤ n ∧ n < 0xD7A4) ∧ w = Char.ofNat n := by
  rw [syllable?] at h
  split at h
  next => exact ⟨_, by omega, (Option.some.inj h).symm⟩
  next =>
    obtain ⟨hv, h⟩ := Option.ite_none_right_eq_some.mp h
    exact ⟨_, by omega, (Option.some.inj h).symm⟩

theorem forall_mem_composeAfter {P : Char → Prop}
    (hwhole : ∀ a b w, compose? a b = some w → P a → P b → P w) (hl : P l)
    (hbs : ∀ b ∈ bs, P b) (ht : ∀ c ∈ t, P c) : ∀ c ∈ composeAfter l bs t, P c := by
  induction t generalizing l bs with
  | nil => exact List.forall_mem_cons.mpr ⟨hl, hbs⟩
  | cons c t ih =>
    obtain ⟨hc, ht⟩ := List.forall_mem_cons.mp ht
    rw [composeAfter]
    split
    next w hw => exact ih (hwhole l c w (Option.ite_none_right_eq_some.mp hw).2 hl hc) hbs ht
    next =>
      split
      next =>
        exact List.forall_mem_append.mpr
          ⟨List.forall_mem_cons.mpr ⟨hl, hbs⟩, ih hc (List.forall_mem_nil _) ht⟩
      next =>
        exact ih hl (List.forall_mem_append.mpr ⟨hbs, List.forall_mem_singleton.mpr hc⟩) ht

/-- What holds of all characters of a text holds of those of its normal form, if the tables lead
neither way to characters that it does not hold of. -/
theorem forall_mem_normal {P : Char → Prop} (hjamo : ∀ n, Jamo n → P (Char.ofNat n))
    (hsyllable : ∀ n, 0xAC00 ≤ n ∧ n < 0xD7A4 → P (Char.ofNat n))
    (hwhole : ∀ e ∈ composites, P (Char.ofNat e.whole) ↔
      P (Char.ofNat e.letter) ∧ P (Char.ofNat e.mark))
    (h : ∀ c ∈ t, P c) : ∀ c ∈ normal t, P c := by
  have hparts : ∀ c ∈ order (t.flatMap decompose), P c := fun c hc => by
    obtain ⟨d, hd, hc⟩ := List.mem_flatMap.mp ((order_perm _).mem_iff.mp hc)
    exact forall_mem_decompose hjamo (fun e he => (hwhole e he).mp) (h d hd) c hc
  have hcompose : ∀ a b w, compose? a b = some w → P a → P b → P w := fun a b w hw ha hb => by
    rcases compose?_eq_some hw with hw | ⟨e, he, rfl, rfl, rfl⟩
    · obtain ⟨n, hn, rfl⟩ := syllable?_eq_some hw
      exact hsyllable n hn
    · exact (hwhole e he).mpr ⟨ha, hb⟩
  rw [normal_eq]
  cases hx : order (t.flatMap decompose) with
  | nil => exact List.forall_mem_nil _
  | cons c x =>
    rw [hx] at hparts
    obtain ⟨hc, hx⟩ := List.forall_mem_cons.mp hparts
    exact forall_mem_composeAfter hcompose hc (List.forall_mem_nil _) hx

theorem ne_dot_of_mem_normal (h : ∀ c ∈ t, c ≠ '.') : ∀ c ∈ normal t, c ≠ '.' := by
  have hne {n : Nat} (hv : n.isValidChar) (hn : n ≠ 0x2E) : Char.ofNat n ≠ '.' := fun heq =>
    hn (by rw [← toNat_ofNat hv, heq]; rfl)
  refine forall_mem_normal (fun n hn => ?_) (fun n hn => ?_) (fun e he => ?_) h
  · unfold Jamo at hn
    exact hne (.inl (by omega)) (by omega)
  · exact hne (.inl (by omega)) (by omega)
  · obtain ⟨hletter, hmark, hwhole⟩ := sound.proper e he
    have hm := (sound.marks e he).1
    have hw := (sound.wholes e he).1
    exact iff_of_true (hne hwhole.1 (by omega))
      ⟨hne hletter.1 (sound.letters e he).1, hne hmark.1 (by omega)⟩

/-! ### Pieces of a text -/

/-- A letter that takes no marks. -/
def Inert (c : Char) : Prop := ∀ b, compose? c b = none

theorem inert_of_ne
    (hs : (c.toNat < 0x1100 ∨ 0x1113 ≤ c.toNat) ∧ (c.toNat < 0xAC00 ∨ 0xD7A4 ≤ c.toNat))
    (hc : ∀ e ∈ composites, e.letter ≠ c.toNat) : Inert c := by
  intro b
  rw [← Option.not_isSome_iff_eq_none, Option.isSome_iff_exists]
  rintro ⟨w, hw⟩
  rcases compose?_eq_some hw with hw | ⟨e, he, rfl, -⟩
  · rw [syllable?, if_neg (by omega), if_neg (by omega)] at hw
    cases hw
  · exact hc e he (toNat_ofNat (sound.proper e he).1.1).symm

theorem inert_dot : Inert '.' :=
  inert_of_ne (by decide) fun e he => (sound.letters e he).1

/-- Marks take no other marks. -/
theorem inert_of_markClass (h : markClass c ≠ 0) : Inert c := by
  obtain ⟨r, hr⟩ : ∃ r,
      (classes.find? fun r => r.first ≤ c.toNat && c.toNat ≤ r.last) = some r := by
    rw [← Option.ne_none_iff_exists']
    intro hnone
    rw [markClass, hnone] at h
    exact h rfl
  have hmem := List.mem_of_find?_eq_some hr
  have hcovers : r.first ≤ c.toNat ∧ c.toNat ≤ r.last := by simpa using List.find?_some hr
  obtain ⟨-, hjamo, hsyllable⟩ := sound.classes r hmem
  refine inert_of_ne (by omega) fun e he heq => (sound.letters e he).2 r hmem ?_
  rwa [heq]

theorem insert_append_dot (c : Char) (x y : Text) :
    insert c (x ++ '.' :: y) = insert c x ++ '.' :: y := by
  have hdot : markClass '.' = 0 := markClass_of_ascii (by decide)
  induction x with
  | nil => simp [insert, hdot]
  | cons d x ih =>
    rw [List.cons_append, insert, insert, ih]
    split <;> rfl

theorem order_append_dot (x y : Text) : order (x ++ '.' :: y) = order x ++ '.' :: order y := by
  induction x with
  | nil => exact insert_of_markClass (markClass_of_ascii (by decide)) _
  | cons c x ih => rw [List.cons_append, order_cons, ih, insert_append_dot, order_cons]

/-- What follows a letter that takes no marks is composed as if it were not there. -/
theorem composeAfter_of_inert (ha : Inert a) (hb : Inert b) (bs t : Text) :
    composeAfter a (b :: bs) t = a :: composeAfter b bs t := by
  induction t generalizing bs with
  | nil => rfl
  | cons c t ih =>
    rw [composeAfter, composeAfter, ha, hb, ite_self, ite_self]
    simp only
    split
    next => rfl
    next => exact ih (bs ++ [c])

theorem compose_dot (y : Text) : compose ('.' :: y) = '.' :: compose y := by
  cases y with
  | nil => rfl
  | cons b y =>
    rw [compose, compose, composeAfter, inert_dot b, ite_self]
    simp only
    split
    next => rfl
    next h => exact composeAfter_of_inert inert_dot (inert_of_markClass h) [] y

theorem composeAfter_append_dot (c : Char) (bs x y : Text) :
    composeAfter c bs (x ++ '.' :: y) = composeAfter c bs x ++ '.' :: compose y := by
  have hdot : Ascii '.' := by decide
  induction x generalizing c bs with
  | nil =>
    rw [List.nil_append, composeAfter, composeAfter, compose?_of_ascii hdot, ite_self]
    simp only [markClass_of_ascii hdot, if_true]
    rw [← compose_dot]
    rfl
  | cons d x ih =>
    rw [List.cons_append, composeAfter, composeAfter]
    split
    next w _ => exact ih w bs
    next =>
      split
      next => rw [ih, List.append_assoc]
      next => exact ih c (bs ++ [d])

theorem compose_append_dot (x y : Text) :
    compose (x ++ '.' :: y) = compose x ++ '.' :: compose y := by
  cases x with
  | nil => exact compose_dot y
  | cons c x => exact composeAfter_append_dot c [] x y

theorem normal_append_dot (x y : Text) : normal (x ++ '.' :: y) = normal x ++ '.' :: normal y := by
  have hdot : decompose '.' = ['.'] := (atom_of_ascii (by decide)).decompose_eq
  rw [normal_eq, normal_eq, normal_eq, List.flatMap_append, List.flatMap_cons, hdot,
    List.singleton_append, order_append_dot, compose_append_dot]

theorem split_normal (t : Text) : Text.split '.' (normal t) = (Text.split '.' t).map normal := by
  have hcut (x y : Text) : Text.split '.' (x ++ '.' :: y) = Text.split '.' x ++ Text.split '.' y :=
    Text.splitBy_append_cons (beq_self_eq_true '.')
  have hfree {x : Text} (hx : ∀ a ∈ x, (a == '.') = false) :
      Text.split '.' (normal x) = (Text.split '.' x).map normal := by
    have hnormal := ne_dot_of_mem_normal fun a ha => ne_of_beq_false (hx a ha)
    rw [Text.split, Text.split, Text.splitBy_of_free hx,
      Text.splitBy_of_free fun c hc => beq_false_of_ne (hnormal c hc), List.map_singleton]
  induction t using Text.splitBy_induction (· == '.') with
  | free x hx => exact hfree hx
  | cut x c y hx hc ih =>
    obtain rfl := beq_iff_eq.mp hc
    rw [normal_append_dot, hcut, hcut, ih, hfree hx, List.map_append]

end Composition
end SiteGateway
