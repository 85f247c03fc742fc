import SiteGateway.Proofs.Text.Ascii
import SiteGateway.Proofs.Text.Composition
import SiteGateway.Url.DomainTable

/-!
# Folding once is enough

What a character folds to is folded to itself (`fold?_of_stays`), and so is what a text of such
characters is written with in its normal form (`stays_of_mem_normal`). All of this rests on what
stands in the tables. For a check of them all (`closed_tables`) a set of code points is a number
with a bit for each.
-/

namespace SiteGateway

theorem Expansions.table_ofList (t : Text) :
    table (String.ofList t) = (Text.words t).filterMap entry? := by
  rw [table, String.toList_ofList]

namespace Shift

theorem table_ofList (t : Text) : table (String.ofList t) = (Text.words t).filterMap parse? := by
  rw [table, String.toList_ofList]

/-- The code points that the run moves. -/
def points (s : Shift) : List Nat :=
  if s.first ≤ s.last then List.range' s.first ((s.last - s.first) / s.step + 1) s.step else []

theorem mem_points {s : Shift} {n : Nat} : n ∈ s.points ↔ s.covers n = true := by
  simp only [covers, Bool.and_eq_true, decide_eq_true_eq, beq_iff_eq, points]
  split
  next h =>
    rw [List.mem_range']
    constructor
    · rintro ⟨i, hi, rfl⟩
      have hle : i * s.step ≤ s.last - s.first :=
        Nat.mul_le_of_le_div _ _ _ (Nat.le_of_lt_succ hi)
      rw [Nat.mul_comm] at hle
      exact ⟨⟨Nat.le_add_right .., by omega⟩, by simp⟩
    · rintro ⟨⟨hfirst, hlast⟩, hstep⟩
      refine ⟨(n - s.first) / s.step, Nat.lt_succ_of_le ?_, ?_⟩
      · exact Nat.div_le_div_right (Nat.sub_le_sub_right hlast _)
      · rw [Nat.mul_div_cancel' (Nat.dvd_of_mod_eq_zero hstep)]
        omega
  next h =>
    rw [iff_false_left List.not_mem_nil]
    omega

end Shift

namespace DomainTable

/-! ### The tables -/

structure Tables where
  single : List Shift
  several : Expansions
  vanishing : CodePoints
  refused : CodePoints

namespace Tables

/-- The code points that folding does not leave as they are. -/
def moving (x : Tables) : Nat :=
  CodePoints.bits [(0x41, 0x5A), (0x3002, 0x3002), (0xFF0E, 0xFF0E), (0xFF61, 0xFF61)] |||
    (CodePoints.bits x.vanishing ||| (bitsOf (x.several.map (·.1)) |||
      (CodePoints.bits x.refused ||| bitsOf (x.single.flatMap Shift.points))))

def stays (x : Tables) (c : Char) : Bool := !hasBit x.moving c.toNat

/-- The Korean syllables and their parts. -/
def korean : Nat :=
  CodePoints.bits [(0x1100, 0x1112), (0x1161, 0x1175), (0x11A8, 0x11C2), (0xAC00, 0xD7A3)]

/-- Whatever the tables lead to stays, and a letter with a mark stays just when both parts do. -/
structure Closed (x : Tables) (es : List Composite) : Prop where
  ascii : ∀ n < 0x80, x.stays (Char.ofNat n).toLower = true
  kept : ∀ c ∈ ['ß', 'ς', '\u200C', '\u200D'], x.stays c = true
  several : ∀ e ∈ x.several, ∀ c ∈ e.2, x.stays c = true
  single : ∀ s ∈ x.single, ∀ n ∈ s.points,
    x.stays (Char.ofNat (Int.ofNat n + s.delta).toNat) = true
  composites : ∀ e ∈ es,
    hasBit x.moving e.whole = (hasBit x.moving e.letter || hasBit x.moving e.mark)
  korean : korean &&& x.moving = 0

def check (x : Tables) (es : List Composite) : Bool :=
  ((List.range 0x80).all fun n => x.stays (Char.ofNat n).toLower) &&
  (['ß', 'ς', '\u200C', '\u200D'].all x.stays) &&
  (x.several.all fun e => e.2.all x.stays) &&
  (x.single.all fun s => s.points.all fun n =>
    x.stays (Char.ofNat (Int.ofNat n + s.delta).toNat)) &&
  (es.all fun e =>
    hasBit x.moving e.whole == (hasBit x.moving e.letter || hasBit x.moving e.mark)) &&
  korean &&& x.moving == 0

theorem Closed.of_check {x : Tables} {es : List Composite} (h : x.check es = true) :
    x.Closed es := by
  simp only [check, Bool.and_eq_true, List.all_eq_true, List.mem_range, beq_iff_eq] at h
  obtain ⟨⟨⟨⟨⟨hascii, hkept⟩, hseveral⟩, hsingle⟩, hcomposites⟩, hkorean⟩ := h
  exact ⟨hascii, hkept, hseveral, hsingle, hcomposites, hkorean⟩

end Tables

def tables : Tables := ⟨single, several, vanishing, refused⟩

set_option maxRecDepth 100000 in
theorem closed_tables : tables.Closed Composition.composites := .of_check <| by
  rw [tables, single, Shift.table_ofList, several, Expansions.table_ofList,
    vanishing, CodePoints.parse_ofList, refused, CodePoints.parse_ofList, Composition.composites,
    Composite.table, String.toList_ofList]
  decide +kernel

variable {c d : Char} {t cs : Text} {n : Nat}

/-- A character that folding leaves as it is. -/
structure Stays (c : Char) : Prop where
  stays : tables.stays c = true

theorem stays_eq_true_iff : tables.stays c = true ↔ Stays c := ⟨.mk, Stays.stays⟩

theorem Tables.stays_iff (x : Tables) : x.stays c = true ↔
    ¬ (0x41 ≤ c.toNat ∧ c.toNat ≤ 0x5A) ∧ (c ≠ '\u3002' ∧ c ≠ '\uFF0E' ∧ c ≠ '\uFF61') ∧
    x.vanishing.mem c = false ∧ x.several.find? c = none ∧ x.refused.mem c = false ∧
    ∀ s ∈ x.single, s.covers c.toNat = false := by
  have hdot (d : Char) : c ≠ d ↔ ¬ (d.toNat ≤ c.toNat ∧ c.toNat ≤ d.toNat) := by
    rw [← Nat.le_antisymm_iff, ne_eq, ← Char.toNat_inj, eq_comm]
  have hbig : (CodePoints.bits [(0x41, 0x5A), (0x3002, 0x3002), (0xFF0E, 0xFF0E),
      (0xFF61, 0xFF61)]).testBit c.toNat = false ↔
      ¬ (0x41 ≤ c.toNat ∧ c.toNat ≤ 0x5A) ∧ (c ≠ '\u3002' ∧ c ≠ '\uFF0E' ∧ c ≠ '\uFF61') := by
    rw [CodePoints.testBit_bits, hdot, hdot, hdot]
    simp
  have hseveral : (bitsOf (x.several.map (·.1))).testBit c.toNat = false ↔
      x.several.find? c = none := by
    rw [testBit_bitsOf, decide_eq_false_iff_not, Expansions.find?, Option.map_eq_none_iff,
      List.find?_eq_none, List.mem_map]
    grind
  have hsingle : (bitsOf (x.single.flatMap Shift.points)).testBit c.toNat = false ↔
      ∀ s ∈ x.single, s.covers c.toNat = false := by
    rw [testBit_bitsOf, decide_eq_false_iff_not, List.mem_flatMap]
    simp [Shift.mem_points]
  rw [Tables.stays, hasBit_eq_testBit, Bool.not_eq_true', Tables.moving]
  simp only [Nat.testBit_or, Bool.or_eq_false_iff]
  rw [hbig, hseveral, hsingle, ← CodePoints.mem_eq_testBit, ← CodePoints.mem_eq_testBit, and_assoc]

theorem stays_iff : Stays c ↔
    ¬ (0x41 ≤ c.toNat ∧ c.toNat ≤ 0x5A) ∧ (c ≠ '\u3002' ∧ c ≠ '\uFF0E' ∧ c ≠ '\uFF61') ∧
    vanishing.mem c = false ∧ several.find? c = none ∧ refused.mem c = false ∧
    ∀ s ∈ single, s.covers c.toNat = false := by
  rw [← stays_eq_true_iff, Tables.stays_iff]
  simp only [tables]

theorem toLower_eq_self (h : ¬ (0x41 ≤ c.toNat ∧ c.toNat ≤ 0x5A)) : c.toLower = c := by
  unfold Char.toLower
  exact dif_neg fun hc => h ⟨hc.1, hc.2⟩

theorem fold?_of_stays (h : Stays c) : fold? c = some [c] := by
  obtain ⟨hupper, ⟨h₁, h₂, h₃⟩, hvanishing, hseveral, hrefused, hsingle⟩ := stays_iff.mp h
  have happly : Shift.apply single c = c := by
    rw [Shift.apply, List.find?_eq_none.mpr fun s hs => by simp [hsingle s hs]]
  simp [fold?, toLower_eq_self hupper, h₁, h₂, h₃, hvanishing, hseveral, hrefused, happly]

theorem stays_of_find? {s : Shift} (h : single.find? (·.covers c.toNat) = some s) :
    Stays (Char.ofNat (Int.ofNat c.toNat + s.delta).toNat) := by
  have hmem : s ∈ tables.single := by
    simp only [tables]
    exact List.mem_of_find?_eq_some h
  have hcovers : s.covers c.toNat = true := by simpa using List.find?_some h
  exact ⟨closed_tables.single s hmem c.toNat (Shift.mem_points.mpr hcovers)⟩

theorem stays_of_mem_fold? (h : fold? c = some cs) (hd : d ∈ cs) : Stays d := by
  -- one table after the other says what becomes of a character; what none of them moves stays
  rw [fold?] at h
  split at h
  next hc =>
    cases h
    obtain rfl := List.mem_singleton.mp hd
    have := closed_tables.ascii c.toNat hc
    rw [Char.ofNat_toNat] at this
    exact ⟨this⟩
  next hc =>
  split at h
  next hkept =>
    cases h
    obtain rfl := List.mem_singleton.mp hd
    exact ⟨closed_tables.kept d (by simpa using hkept)⟩
  next =>
  split at h
  next =>
    cases h
    obtain rfl := List.mem_singleton.mp hd
    exact ⟨closed_tables.ascii 0x2E (by decide)⟩
  next hdots =>
  split at h
  next =>
    cases h
    cases hd
  next hvanishing =>
  split at h
  next cs' hseveral =>
    cases h
    rw [Expansions.find?, Option.map_eq_some_iff] at hseveral
    obtain ⟨e, he, rfl⟩ := hseveral
    exact ⟨closed_tables.several e (by simpa only [tables] using List.mem_of_find?_eq_some he) d hd⟩
  next hseveral =>
  split at h
  next => cases h
  next hrefused =>
  cases h
  rw [List.mem_singleton.mp hd, Shift.apply]
  split
  next s hs => exact stays_of_find? hs
  next hs =>
    refine stays_iff.mpr ⟨by omega, by simpa using hdots, by simpa using hvanishing, hseveral,
      by simpa using hrefused, fun s hmem => ?_⟩
    simpa using List.find?_eq_none.mp hs s hmem

/-! ### The normal form -/

theorem stays_ofNat (h : n.isValidChar) :
    Stays (Char.ofNat n) ↔ hasBit tables.moving n = false := by
  rw [← stays_eq_true_iff, Tables.stays, Composition.toNat_ofNat h, Bool.not_eq_true']

theorem stays_of_korean (h : Tables.korean.testBit n = true) (hn : n < 0xD800) :
    Stays (Char.ofNat n) := by
  rw [stays_ofNat (.inl hn), hasBit_eq_testBit]
  exact testBit_of_and_eq_zero closed_tables.korean h

theorem stays_of_mem_normal (h : ∀ c ∈ t, Stays c) : ∀ c ∈ Composition.normal t, Stays c := by
  have hkorean (n : Nat) : Tables.korean.testBit n = true ↔
      Composition.Jamo n ∨ 0xAC00 ≤ n ∧ n < 0xD7A4 := by
    rw [Tables.korean, CodePoints.testBit_bits, Composition.Jamo]
    simp only [List.any_cons, List.any_nil, Bool.or_false, Bool.or_eq_true, Bool.and_eq_true,
      decide_eq_true_eq]
    omega
  refine Composition.forall_mem_normal (fun n hn => ?_) (fun n hn => ?_) (fun e he => ?_) h
  · refine stays_of_korean ((hkorean n).mpr (.inl hn)) ?_
    unfold Composition.Jamo at hn
    omega
  · exact stays_of_korean ((hkorean n).mpr (.inr hn)) (by omega)
  · obtain ⟨hletter, hmark, hwhole⟩ := Composition.sound.proper e he
    rw [stays_ofNat hwhole.1, stays_ofNat hletter.1, stays_ofNat hmark.1,
      closed_tables.composites e he, Bool.or_eq_false_iff]

end DomainTable

end SiteGateway
