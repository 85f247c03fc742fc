import SiteGateway.Proofs.Except
import SiteGateway.Proofs.Text.Split
import SiteGateway.Proofs.Text.Utf8
import SiteGateway.Proofs.Url.DomainTable
import SiteGateway.Proofs.Url.Punycode
import SiteGateway.Url.Host

/-!
# Domain names are read once

A domain name in ASCII is read as itself (`Host.domainToAscii?_idem`): it is left as it is by
folding and by the normal form, and each of its labels stands for the label that it was written for
(`DomainLabel.read?_toAscii`).
-/

namespace SiteGateway
open DomainTable (Stays)

variable {c : Char} {part label t name : Text} {bs : Bytes}

namespace DomainTable

theorem stays_of_ascii (h : Ascii c) (hl : c.toLower = c) : Stays c := by
  have := closed_tables.ascii c.toNat h
  rw [Char.ofNat_toNat, hl] at this
  exact ⟨this⟩

theorem toLower_of_stays (h : Stays c) : c.toLower = c := toLower_eq_self (stays_iff.mp h).1

theorem fold?_eq_self (h : c.toLower = c) (ha : Ascii c) : fold? c = some [c] :=
  fold?_of_stays (stays_of_ascii ha h)

end DomainTable

/-- What a domain name in ASCII is written with. -/
structure NameChar (c : Char) : Prop where
  ascii : Ascii c
  lower : c.toLower = c
  allowed : Host.forbidden c = false

theorem nameChar_iff : NameChar c ↔ Ascii c ∧ c.toLower = c ∧ Host.forbidden c = false :=
  ⟨fun h => ⟨h.ascii, h.lower, h.allowed⟩, fun ⟨h₁, h₂, h₃⟩ => ⟨h₁, h₂, h₃⟩⟩

instance (c : Char) : Decidable (NameChar c) := decidable_of_iff _ nameChar_iff.symm

theorem nameChar_digit {n : Nat} (h : n < 36) :
    NameChar (Punycode.digit n) ∧ Punycode.digit n ≠ '.' := by
  have hall : ∀ n < 36, NameChar (Punycode.digit n) ∧ Punycode.digit n ≠ '.' := by decide
  exact hall n h

namespace DomainLabel

/-- A part of a name that was folded, brought into its normal form and cut at its dots. -/
structure Part (part : Text) : Prop where
  stays : ∀ c ∈ part, Stays c
  normal : Composition.normal part = part
  allowed : ∀ c ∈ part, Host.forbidden c = false
  noDot : '.' ∉ part

theorem any_eq_false_iff : part.any (0x80 ≤ ·.toNat) = false ↔ ∀ c ∈ part, Ascii c := by
  simp [Ascii]

theorem Part.nameChar (h : Part part) (hc : c ∈ part) (ha : Ascii c) : NameChar c ∧ c ≠ '.' :=
  ⟨⟨ha, DomainTable.toLower_of_stays (h.stays c hc), h.allowed c hc⟩, fun he => h.noDot (he ▸ hc)⟩

theorem Part.nameChar_toAscii (h : Part part) (hc : c ∈ mark ++ Punycode.encode part) :
    NameChar c ∧ c ≠ '.' := by
  rcases List.mem_append.mp hc with hc | hc
  · have hmark : ∀ c ∈ mark, NameChar c ∧ c ≠ '.' := forall_mem_text (by decide)
    exact hmark c hc
  · rcases Punycode.of_mem_encode hc with ⟨hc, ha⟩ | rfl | ⟨n, hn, rfl⟩
    · exact h.nameChar hc ha
    · decide
    · exact nameChar_digit hn

theorem read?_of_after?_eq_none (h : ∀ c ∈ part, Ascii c) (hm : Text.after? mark part = none) :
    read? part = some part := by
  rw [read?, any_eq_false_iff.mpr h, if_neg Bool.false_ne_true, hm]

theorem read?_of_after? {code : Text} (h : ∀ c ∈ part, Ascii c)
    (hm : Text.after? mark part = some code) : read? part = some label ↔
      Punycode.decode? code = some label ∧ label.any (0x80 ≤ ·.toNat) = true ∧
      (∀ c ∈ label, DomainTable.fold? c = some [c]) ∧ Composition.normal label = label ∧
      acceptable label = true ∧ Punycode.encode label = code := by
  rw [read?, any_eq_false_iff.mpr h, if_neg Bool.false_ne_true, hm]
  simp only [Option.bind_eq_bind, Option.bind_eq_some_iff, Option.ite_none_right_eq_some,
    Bool.and_eq_true, beq_iff_eq, List.all_eq_true, and_assoc]
  constructor
  · rintro ⟨l, hl, h₁, h₂, h₃, h₄, h₅, hlabel⟩
    obtain rfl := Option.some.inj hlabel
    exact ⟨hl, h₁, h₂, h₃, h₄, h₅⟩
  · rintro ⟨hl, h₁, h₂, h₃, h₄, h₅⟩
    exact ⟨label, hl, h₁, h₂, h₃, h₄, h₅, rfl⟩

/-- The ASCII form of a label stands for the label. -/
theorem read?_toAscii (h : Part part) (hr : read? part = some label) :
    read? (toAscii label) = some label ∧ ∀ c ∈ toAscii label, NameChar c ∧ c ≠ '.' := by
  cases hany : part.any (0x80 ≤ ·.toNat) with
  | true =>
    rw [read?, hany, if_pos rfl] at hr
    obtain ⟨hok, hr⟩ := Option.ite_none_right_eq_some.mp hr
    obtain rfl := Option.some.inj hr
    rw [toAscii, hany, if_pos rfl]
    have hchars := fun c => h.nameChar_toAscii (c := c)
    refine ⟨?_, hchars⟩
    rw [read?_of_after? (fun c hc => (hchars c hc).1.ascii) (Text.after?_eq_some_iff.mpr rfl)]
    exact ⟨Punycode.decode?_encode part, hany,
      fun c hc => DomainTable.fold?_of_stays (h.stays c hc), h.normal, hok, rfl⟩
  | false =>
    have hascii := any_eq_false_iff.mp hany
    suffices hself : toAscii label = part by
      rw [hself]
      exact ⟨hr, fun c hc => h.nameChar hc (hascii c hc)⟩
    cases hm : Text.after? mark part with
    | none =>
      obtain rfl := Option.some.inj ((read?_of_after?_eq_none hascii hm).symm.trans hr)
      rw [toAscii, hany, if_neg Bool.false_ne_true]
    | some code =>
      obtain ⟨-, hlabel, -, -, -, hcode⟩ := (read?_of_after? hascii hm).mp hr
      rw [toAscii, hlabel, if_pos rfl, hcode]
      exact (Text.after?_eq_some_iff.mp hm).symm

end DomainLabel

namespace Host

theorem part_of_mem_split (hs : ∀ c ∈ t, Stays c)
    (hf : ∀ c ∈ Composition.normal t, forbidden c = false)
    (hp : part ∈ Text.split '.' (Composition.normal t)) : DomainLabel.Part part := by
  have hmem := fun c hc => Text.of_mem_splitBy hp c hc
  refine ⟨fun c hc => DomainTable.stays_of_mem_normal hs c (hmem c hc).2, ?_,
    fun c hc => hf c (hmem c hc).2, fun hdot => by simpa using (hmem '.' hdot).1⟩
  rw [Composition.split_normal] at hp
  obtain ⟨piece, -, rfl⟩ := List.mem_map.mp hp
  exact Composition.normal_normal piece

/-- A name comes of labels that are read in the normal form of a text that was folded. -/
theorem domainToAscii?_eq_some_iff : domainToAscii? bs = some name ↔
    ∃ t folded labels, bs = Utf8.encode t ∧ t.mapM DomainTable.fold? = some folded ∧
      (∀ c ∈ Composition.normal folded.flatten, forbidden c = false) ∧
      (Text.split '.' (Composition.normal folded.flatten)).mapM DomainLabel.read? = some labels ∧
      ¬ (labels.any DomainLabel.hasRightward && !labels.all DomainLabel.oneDirection) = true ∧
      Text.join ['.'] (labels.map DomainLabel.toAscii) = name := by
  have hplain (plain : Text) : ¬ plain.any forbidden = true ↔ ∀ c ∈ plain, forbidden c = false := by
    simp
  simp only [domainToAscii?, Option.bind_eq_bind, Option.bind_eq_some_iff, Utf8.decode?_eq_some_iff,
    Option.ite_none_left_eq_some, hplain, Option.pure_def, Option.some.injEq]
  grind

theorem mapM_fold?_of_nameChar (h : ∀ c ∈ t, NameChar c) :
    t.mapM DomainTable.fold? = some (t.map ([·])) := by
  rw [Option.mapM_eq_some_iff, List.forall₂_map_right_iff, List.forall₂_same]
  exact fun c hc => DomainTable.fold?_eq_self (h c hc).lower (h c hc).ascii

theorem normal_of_nameChar (h : ∀ c ∈ t, NameChar c) : Composition.normal t = t :=
  Composition.normal_of_ascii fun c hc => (h c hc).ascii

/-- Labels in ASCII that stand for themselves make a name that does. -/
theorem domainToAscii?_of_plain (h : ∀ c ∈ t, NameChar c)
    (hm : ∀ part ∈ Text.split '.' t, Text.after? DomainLabel.mark part = none) :
    domainToAscii? (Utf8.encode t) = some t := by
  have hascii : ∀ part ∈ Text.split '.' t, ∀ c ∈ part, Ascii c := fun part hp c hc =>
    (h c (Text.of_mem_splitBy hp c hc).2).ascii
  refine domainToAscii?_eq_some_iff.mpr
    ⟨t, _, Text.split '.' t, rfl, mapM_fold?_of_nameChar h, ?_, ?_, ?_, ?_⟩
  · rw [← List.flatMap_def, List.flatMap_singleton', normal_of_nameChar h]
    exact fun c hc => (h c hc).allowed
  · rw [← List.flatMap_def, List.flatMap_singleton', normal_of_nameChar h,
      Option.mapM_eq_some_iff, List.forall₂_same]
    exact fun part hp => DomainLabel.read?_of_after?_eq_none (hascii part hp) (hm part hp)
  · have hright : (Text.split '.' t).any DomainLabel.hasRightward = false := by
      rw [List.any_eq_false]
      intro part hp
      rw [DomainLabel.hasRightward, Bool.not_eq_true, List.any_eq_false]
      intro c hc
      have : ¬ 0x80 ≤ c.toNat := Nat.not_le.mpr (hascii part hp c hc)
      simp [this]
    rw [hright]
    exact Bool.false_ne_true
  · have hself : (Text.split '.' t).map DomainLabel.toAscii = Text.split '.' t := by
      refine (List.map_congr_left fun part hp => ?_).trans (List.map_id _)
      rw [DomainLabel.toAscii, DomainLabel.any_eq_false_iff.mpr (hascii part hp),
        if_neg Bool.false_ne_true, id_eq]
    rw [hself, Text.join_split]

theorem domainToAscii?_idem (h : domainToAscii? bs = some name) :
    domainToAscii? (Utf8.encode name) = some name ∧ ∀ c ∈ name, NameChar c := by
  obtain ⟨t, folded, labels, -, hfolded, hallowed, hlabels, hdirections, rfl⟩ :=
    domainToAscii?_eq_some_iff.mp h
  have hstays : ∀ c ∈ folded.flatten, Stays c := fun c hc => by
    obtain ⟨cs, hcs, hc⟩ := List.mem_flatten.mp hc
    obtain ⟨a, -, ha⟩ := Option.exists_of_mem_mapM hfolded hcs
    exact DomainTable.stays_of_mem_fold? ha hc
  have hlabel : ∀ label ∈ labels, DomainLabel.read? (DomainLabel.toAscii label) = some label ∧
      ∀ c ∈ DomainLabel.toAscii label, NameChar c ∧ c ≠ '.' := by
    intro label hl
    obtain ⟨part, hp, hr⟩ := Option.exists_of_mem_mapM hlabels hl
    exact DomainLabel.read?_toAscii (part_of_mem_split hstays hallowed hp) hr
  have hname : ∀ c ∈ Text.join ['.'] (labels.map DomainLabel.toAscii), NameChar c := by
    intro c hc
    rcases Text.of_mem_join hc with hc | ⟨s, hs, hc⟩
    · obtain rfl := List.mem_singleton.mp hc
      decide
    · obtain ⟨label, hl, rfl⟩ := List.mem_map.mp hs
      exact ((hlabel label hl).2 c hc).1
  have hne : labels.map DomainLabel.toAscii ≠ [] := by
    intro hnil
    obtain rfl := List.map_eq_nil_iff.mp hnil
    have := (Option.mapM_eq_some_iff.mp hlabels).length_eq
    exact Text.splitBy_ne_nil _ _ (List.length_eq_zero_iff.mp this)
  -- no label holds a dot, so the name falls into the labels that it was joined from
  have hsplit := Text.split_join hne fun s hs hdot => by
    obtain ⟨label, hl, rfl⟩ := List.mem_map.mp hs
    exact ((hlabel label hl).2 '.' hdot).2 rfl
  refine ⟨domainToAscii?_eq_some_iff.mpr ⟨_, _, labels, rfl, mapM_fold?_of_nameChar hname, ?_, ?_,
    hdirections, rfl⟩, hname⟩
  all_goals rw [← List.flatMap_def, List.flatMap_singleton', normal_of_nameChar hname]
  · exact fun c hc => (hname c hc).allowed
  · rw [hsplit, Option.mapM_eq_some_iff, List.forall₂_map_left_iff, List.forall₂_same]
    exact fun label hl => (hlabel label hl).1

end Host

end SiteGateway
