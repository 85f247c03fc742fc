import Mathlib.Data.List.TakeWhile
import SiteGateway.Proofs.Site.ListingPage
import SiteGateway.Proofs.Site.Root

/-!
# Where the links of a listing lead

A link is the decoded path of the directory with the name of the entry behind it, nothing escaped.
Whoever follows it reads it as a reference: up to the first question mark or number sign, and
decoded once more. Both can only take bytes away from the names (`bulk_lt_of_append_cons`,
`bulk_decode`), so a link leads to what it spells out exactly when both leave it alone
(`SiteRoot.follow?_eq_iff`), that is when neither the path nor the name needs an escape
(`Listing.leads_iff`).
-/

namespace SiteGateway

open Percent (spelled)

namespace FileTree
variable {path x y : Bytes} {n : FileName} {b : UInt8}

/-- A path is a name, or a name and a path behind a slash. -/
@[elab_as_elim]
theorem names_induction {motive : Bytes → Prop} (path : Bytes)
    (name : ∀ n, 0x2F ∉ n → motive n)
    (slash : ∀ n rest, 0x2F ∉ n → motive rest → motive (n ++ 0x2F :: rest)) : motive path := by
  suffices h : ∀ n, 0x2F ∉ n → motive (n ++ path) from h [] (by simp)
  induction path with
  | nil =>
    intro n hn
    rw [List.append_nil]
    exact name n hn
  | cons c path ih =>
    intro n hn
    by_cases hc : c = 0x2F
    · exact hc ▸ slash n path hn (ih [] (by simp))
    · rw [← List.singleton_append, ← List.append_assoc]
      exact ih (n ++ [c]) (by simp [hn, Ne.symm hc])

/-- How many bytes the names of a path have that lead somewhere. -/
def bulk (path : Bytes) : Nat := (steps path).flatten.length

theorem bulk_append_slash (a b : Bytes) : bulk (a ++ 0x2F :: b) = bulk a + bulk b := by
  rw [bulk, steps_append_slash, List.flatten_append, List.length_append, bulk, bulk]

theorem bulk_of_name (hn : 0x2F ∉ n) (h : n ≠ [0x2E]) : bulk n = n.length := by
  by_cases h₀ : n = []
  · rw [h₀]
    rfl
  · rw [bulk, steps_of_name hn h₀ h, List.flatten_singleton]

theorem bulk_le_of_name (hn : 0x2F ∉ n) : bulk n ≤ n.length := by
  by_cases h : n = [0x2E]
  · rw [h]
    decide
  · exact Nat.le_of_eq (bulk_of_name hn h)

theorem bulk_le_length (path : Bytes) : bulk path ≤ path.length := by
  induction path using names_induction with
  | name n hn => exact bulk_le_of_name hn
  | slash n rest hn ih =>
    have hname := bulk_le_of_name hn
    rw [bulk_append_slash, List.length_append, List.length_cons]
    omega

/-- A path that ends early has lost part of a name. -/
theorem bulk_lt_of_append_cons (hs : b ≠ 0x2F) (hd : b ≠ 0x2E) (x y : Bytes) :
    bulk x < bulk (x ++ b :: y) := by
  have hname : ∀ x y, 0x2F ∉ x → 0x2F ∉ y → bulk (x ++ b :: y) = x.length + (y.length + 1) := by
    intro x y hx hy
    rw [bulk_of_name (by simp [hx, hy, Ne.symm hs]) ?_, List.length_append, List.length_cons]
    intro h
    rcases List.append_eq_singleton_iff.mp h with ⟨-, h⟩ | ⟨-, h⟩
    · exact hd (List.cons.inj h).1
    · cases h
  induction x using names_induction with
  | name x hx =>
    have hlen := bulk_le_length x
    induction y using names_induction with
    | name y hy =>
      rw [hname x y hx hy]
      omega
    | slash y rest hy _ =>
      rw [← List.cons_append, ← List.append_assoc, bulk_append_slash, hname x y hx hy]
      omega
  | slash x rest hx ih =>
    rw [List.append_assoc, List.cons_append, bulk_append_slash, bulk_append_slash]
    omega

/-- Decoding takes bytes away from some name unless it leaves the path alone. -/
theorem bulk_decode (path : Bytes) : bulk (Percent.decode path) ≤ bulk path ∧
    (bulk path ≤ bulk (Percent.decode path) → Percent.decode path = path) := by
  have hname : ∀ n : FileName, 0x2F ∉ n → bulk (Percent.decode n) ≤ bulk n ∧
      (bulk n ≤ bulk (Percent.decode n) → Percent.decode n = n) := by
    intro n hn
    by_cases h : n = [0x2E]
    · rw [h]
      decide
    · have h₁ := bulk_le_length (Percent.decode n)
      have h₂ := Percent.length_decode_le n
      rw [bulk_of_name hn h]
      exact ⟨Nat.le_trans h₁ h₂, fun h => Percent.decode_eq_of_length_le (Nat.le_trans h h₁)⟩
  induction path using names_induction with
  | name n hn => exact hname n hn
  | slash n rest hn ih =>
    obtain ⟨hle, heq⟩ := hname n hn
    rw [Percent.decode_append_cons (by decide) (by decide), bulk_append_slash, bulk_append_slash]
    refine ⟨by omega, fun h => ?_⟩
    rw [heq (by omega), ih.2 (by omega)]

end FileTree

namespace SiteRoot
open FileTree (bulk steps)
variable {root : Bytes} {l n s t : Text}

/-- The path of a reference to the same host, which ends before a query or a fragment. -/
def referencePath (href : Text) : Text := href.takeWhile fun c => c ≠ '?' ∧ c ≠ '#'

/-- Where a reference to the same host leads. -/
def follow? (root : Bytes) (href : Text) : Option Bytes := resolve? root (referencePath href)

theorem referencePath_eq_self_iff : referencePath l = l ↔ '?' ∉ l ∧ '#' ∉ l := by
  rw [referencePath, List.takeWhile_eq_self_iff]
  simp only [decide_eq_true_eq]
  constructor
  · exact fun h => ⟨fun hq => (h _ hq).1 rfl, fun hf => (h _ hf).2 rfl⟩
  · exact fun h c hc => ⟨fun he => h.1 (he ▸ hc), fun he => h.2 (he ▸ hc)⟩

/-- Where a reference does not end its path goes on with a mark. -/
theorem eq_referencePath_append (h : referencePath l ≠ l) :
    ∃ rest, l = referencePath l ++ '?' :: rest ∨ l = referencePath l ++ '#' :: rest := by
  have hsplit : l = referencePath l ++ l.dropWhile fun c => c ≠ '?' ∧ c ≠ '#' :=
    List.takeWhile_append_dropWhile.symm
  have hstop := List.head?_dropWhile_not (fun c => decide (c ≠ '?' ∧ c ≠ '#')) l
  cases hrest : l.dropWhile fun c => c ≠ '?' ∧ c ≠ '#' with
  | nil =>
    rw [hrest, List.append_nil] at hsplit
    exact absurd hsplit.symm h
  | cons c rest =>
    rw [hrest] at hsplit hstop
    refine ⟨rest, ?_⟩
    by_cases hq : c = '?'
    · exact .inl (hq ▸ hsplit)
    · have hf : c = '#' := Classical.not_not.mp fun hf => of_decide_eq_false hstop ⟨hq, hf⟩
      exact .inr (hf ▸ hsplit)

/-- Ending a path early takes bytes away from some name. -/
theorem bulk_referencePath (l : Text) :
    bulk (Utf8.encode (referencePath l)) ≤ bulk (Utf8.encode l) ∧
      (bulk (Utf8.encode l) ≤ bulk (Utf8.encode (referencePath l)) → referencePath l = l) := by
  by_cases h : referencePath l = l
  · rw [h]
    exact ⟨Nat.le_refl _, fun _ => rfl⟩
  have hlt : bulk (Utf8.encode (referencePath l)) < bulk (Utf8.encode l) := by
    obtain ⟨rest, hl | hl⟩ := eq_referencePath_append h
    · rw [congrArg Utf8.encode hl, Utf8.encode_append]
      exact FileTree.bulk_lt_of_append_cons (b := 0x3F) (by decide) (by decide) _ _
    · rw [congrArg Utf8.encode hl, Utf8.encode_append]
      exact FileTree.bulk_lt_of_append_cons (b := 0x23) (by decide) (by decide) _ _
  exact ⟨Nat.le_of_lt hlt, fun hle => absurd hlt (Nat.not_lt.mpr hle)⟩

/-- A text that stands for itself in the path of a reference. -/
structure Plain (t : Text) : Prop where
  noQuery : '?' ∉ t
  noFragment : '#' ∉ t
  noEscape : ∀ front rest, Utf8.encode t = front ++ 0x25 :: rest → ¬ Percent.Completes rest

theorem plain_iff : Plain t ↔ ('?' ∉ t ∧ '#' ∉ t) ∧ spelled t = Utf8.encode t := by
  rw [spelled, Percent.decode_eq_self_iff]
  exact ⟨fun h => ⟨⟨h.noQuery, h.noFragment⟩, h.noEscape⟩, fun h => ⟨h.1.1, h.1.2, h.2⟩⟩

theorem plain_nil : Plain [] := plain_iff.mpr (by decide)

theorem plain_append_slash_iff : Plain (s ++ '/' :: t) ↔ Plain s ∧ Plain t := by
  have hspelled : spelled (s ++ '/' :: t) = Utf8.encode (s ++ '/' :: t) ↔
      spelled s = Utf8.encode s ∧ spelled t = Utf8.encode t := by
    rw [spelled, Utf8.encode_append, Percent.encode_slash_cons]
    exact Percent.decode_append_cons_eq_self_iff (by decide) (by decide)
  rw [plain_iff, plain_iff, plain_iff, hspelled]
  simp only [List.mem_append, List.mem_cons, not_or]
  constructor
  · rintro ⟨⟨⟨hq, -, hq'⟩, hf, -, hf'⟩, hs, ht⟩
    exact ⟨⟨⟨hq, hf⟩, hs⟩, ⟨hq', hf'⟩, ht⟩
  · rintro ⟨⟨⟨hq, hf⟩, hs⟩, ⟨hq', hf'⟩, ht⟩
    exact ⟨⟨⟨hq, by decide, hq'⟩, hf, by decide, hf'⟩, hs, ht⟩

/-- A reference that spells out names leads to them exactly when it needs no escape. -/
theorem follow?_eq_iff (hl : Stays (Utf8.encode l)) :
    follow? root l = some (joinAll root (steps (Utf8.encode l))) ↔ Plain l := by
  rw [follow?, resolve?_eq_some_iff]
  constructor
  · rintro ⟨-, hjoin⟩
    have hsteps := congrArg steps hjoin
    rw [FileTree.steps_joinAll root fun _ => FileTree.noSlash_of_mem_steps, FileTree.flatMap_steps,
      FileTree.steps_joinAll root fun _ => FileTree.noSlash_of_mem_steps, FileTree.flatMap_steps,
      List.append_cancel_left_eq] at hsteps
    have hbulk : bulk (Utf8.encode l) = bulk (spelled (referencePath l)) := by
      rw [bulk, hsteps, bulk]
    obtain ⟨hle, heq⟩ := bulk_referencePath l
    obtain ⟨hle', heq'⟩ := FileTree.bulk_decode (Utf8.encode (referencePath l))
    rw [spelled] at hbulk
    have hpath := heq (by omega)
    rw [hpath] at heq' hbulk
    exact plain_iff.mpr ⟨referencePath_eq_self_iff.mp hpath, heq' (Nat.le_of_eq hbulk)⟩
  · intro h
    obtain ⟨hmarks, hspelled⟩ := plain_iff.mp h
    rw [referencePath_eq_self_iff.mpr hmarks, hspelled]
    exact ⟨hl, rfl⟩

theorem stays_encode_append_slash_iff :
    Stays (Utf8.encode (s ++ '/' :: t)) ↔ Stays (Utf8.encode s) ∧ Stays (Utf8.encode t) := by
  rw [← stays_iff, ← stays_iff, ← stays_iff]
  have hsplit : Text.split '/' (s ++ '/' :: t) = Text.split '/' s ++ Text.split '/' t :=
    Text.splitBy_append_cons rfl
  simp only [stays, hsplit, Bool.and_eq_true, Bool.not_eq_true', ← Bool.not_eq_true,
    List.contains_iff_mem, List.mem_append, List.mem_cons, not_or]
  constructor
  · rintro ⟨⟨⟨hb, -, hb'⟩, hn, -, hn'⟩, hd, hd'⟩
    exact ⟨⟨⟨hb, hn⟩, hd⟩, ⟨hb', hn'⟩, hd'⟩
  · rintro ⟨⟨⟨hb, hn⟩, hd⟩, ⟨hb', hn'⟩, hd'⟩
    exact ⟨⟨⟨hb, by decide, hb'⟩, hn, by decide, hn'⟩, hd, hd'⟩

/-! ### A slash at the end -/

theorem stays_encode_concat_slash_iff : Stays (Utf8.encode (t ++ ['/'])) ↔ Stays (Utf8.encode t) :=
  stays_encode_append_slash_iff.trans (and_iff_left (stays_iff.mp rfl))

theorem steps_encode_concat_slash (t : Text) :
    steps (Utf8.encode (t ++ ['/'])) = steps (Utf8.encode t) := by
  rw [Utf8.encode_append]
  exact (FileTree.steps_append_slash _ []).trans (List.append_nil _)

theorem plain_concat_slash_iff : Plain (t ++ ['/']) ↔ Plain t :=
  plain_append_slash_iff.trans (and_iff_left plain_nil)

namespace Reachable

theorem stays (h : Reachable n) : Stays (Utf8.encode n) := by
  have hjoin : SiteRoot.stays (Text.join ['/'] [n]) = true := stays_join (by simpa using h)
  exact stays_iff.mp hjoin

theorem steps_encode (h : Reachable n) : steps (Utf8.encode n) = [Utf8.encode n] := by
  have hjoin : names (Text.join ['/'] [n]) = [n] := names_join (by simpa using h)
  rw [← map_encode_names]
  exact congrArg (List.map Utf8.encode) hjoin

end Reachable

end SiteRoot

namespace Listing
open FileTree (steps)
open SiteRoot (Plain Reachable Stays display follow? joinAll plain_concat_slash_iff resolve?
  stays_encode_append_slash_iff stays_encode_concat_slash_iff steps_encode_concat_slash)
variable {root d : Bytes} {p x : Text} {e : ListingEntry}

/-- The page of a directory is made for the text that the request path spells. -/
theorem exists_display_eq (hp : p.getLast? = some '/') (hd : resolve? root p = some d) :
    ∃ x, display p = x ++ ['/'] ∧ Stays (Utf8.encode (x ++ ['/'])) ∧
      d = joinAll root (steps (Utf8.encode (x ++ ['/']))) := by
  obtain ⟨hs, rfl⟩ := SiteRoot.resolve?_eq_some_iff.mp hd
  obtain ⟨t, ht⟩ := hs.text
  obtain ⟨q, rfl⟩ := List.getLast?_eq_some_iff.mp hp
  have hlast : (Utf8.encode t).getLast? = some 0x2F := by
    rw [← ht, Percent.spelled_append_slash]
    exact List.getLast?_concat
  obtain ⟨x, rfl⟩ :=
    List.getLast?_eq_some_iff.mp (Utf8.getLast?_of_getLast?_encode (by decide) hlast)
  refine ⟨x, ?_, ht ▸ hs, by rw [ht]; rfl⟩
  rw [display, ← spelled, ht, Utf8.decodeLossy_encode]
  rfl

theorem link_concat_slash (h : Reachable e.name) (x : Text) :
    link (x ++ ['/']) e = x ++ '/' :: (e.name ++ if e.isDirectory then ['/'] else []) := by
  have hname : ¬ (e.isDirectory ∧ (e.name = [] ∨ e.name.getLast? = some '/')) := by
    rintro ⟨-, he | he⟩
    · exact h.ne_nil he
    · exact h.noSlash (List.mem_of_getLast? he)
  rw [link_eq, if_neg hname, slashed, below, if_pos List.getLast?_concat, List.dropLast_concat,
    List.append_assoc, List.cons_append]

/-- The link of an entry leads to it exactly when neither path nor name needs an escape. -/
theorem follow?_link_eq_iff (hp : p.getLast? = some '/') (hd : resolve? root p = some d)
    (he : Reachable e.name) :
    follow? root (link (display p) e) = some (SiteRoot.join d (Utf8.encode e.name)) ↔
      Plain (display p) ∧ Plain e.name := by
  obtain ⟨x, hx, hs, rfl⟩ := exists_display_eq hp hd
  obtain ⟨tail, htail⟩ : ∃ tail, tail = if e.isDirectory then ['/'] else [] := ⟨_, rfl⟩
  have hlink : link (x ++ ['/']) e = x ++ '/' :: (e.name ++ tail) := htail ▸ link_concat_slash he x
  have hname : Stays (Utf8.encode (e.name ++ tail)) ∧
      steps (Utf8.encode (e.name ++ tail)) = [Utf8.encode e.name] ∧
      (Plain (e.name ++ tail) ↔ Plain e.name) := by
    rw [htail]
    split
    · rw [stays_encode_concat_slash_iff, steps_encode_concat_slash]
      exact ⟨he.stays, he.steps_encode, plain_concat_slash_iff⟩
    · rw [List.append_nil]
      exact ⟨he.stays, he.steps_encode, Iff.rfl⟩
  obtain ⟨hstays, hsteps, hplain⟩ := hname
  have hjoin :
      SiteRoot.join (joinAll root (steps (Utf8.encode (x ++ ['/'])))) (Utf8.encode e.name) =
        joinAll root (steps (Utf8.encode (x ++ '/' :: (e.name ++ tail)))) := by
    rw [← SiteRoot.joinAll_concat, steps_encode_concat_slash, Utf8.encode_append,
      Percent.encode_slash_cons, FileTree.steps_append_slash, hsteps]
  rw [hx, hlink, hjoin, plain_concat_slash_iff, ← hplain, ← SiteRoot.plain_append_slash_iff]
  refine SiteRoot.follow?_eq_iff ?_
  exact stays_encode_append_slash_iff.mpr ⟨stays_encode_concat_slash_iff.mp hs, hstays⟩

/-- A listing of the directory that a path leads to has a link for every entry. It leads to the
entry exactly when the decoded path and the name of the entry hold no question mark, no number sign
and no escape. -/
theorem leads_iff (hp : p.getLast? = some '/') (hd : resolve? root p = some d)
    (es : List ListingEntry) :
    ∃ items, read? (page (display p) es) = some ⟨display p, display p, items⟩ ∧
      List.Forall₂ (fun e i => Reachable e.name →
        (follow? root i.href = some (SiteRoot.join d (Utf8.encode e.name)) ↔
          Plain (display p) ∧ Plain e.name)) es items := by
  refine ⟨_, read?_page (display p) es, ?_⟩
  rw [List.forall₂_map_right_iff, List.forall₂_same]
  exact fun e _ => follow?_link_eq_iff hp hd

/-- Of a file with a question mark in its name and a directory, only the directory is found. -/
theorem leads_iff_directory :
    let root := Utf8.encode "/srv".toList
    let p := "/my%20docs/".toList
    let es : List ListingEntry := [⟨"a?b".toList, false⟩, ⟨"sub".toList, true⟩]
    (p.getLast? = some '/' ∧ resolve? root p = some (Utf8.encode "/srv/my docs".toList) ∧
      Reachable "a?b".toList ∧ Reachable "sub".toList) ∧
    ∃ file directory, read? (page (display p) es) =
        some ⟨display p, display p, [file, directory]⟩ ∧
      follow? root file.href ≠ some (Utf8.encode "/srv/my docs/a?b".toList) ∧
      follow? root directory.href = some (Utf8.encode "/srv/my docs/sub".toList) := by
  intro root p es
  have hp : p.getLast? = some '/' := by decide
  have hd : resolve? root p = some (Utf8.encode "/srv/my docs".toList) := by rfl
  have hfile : Reachable "a?b".toList :=
    ⟨⟨by decide, by decide, by decide, by decide, by decide⟩, by decide⟩
  have hdirectory : Reachable "sub".toList :=
    ⟨⟨by decide, by decide, by decide, by decide, by decide⟩, by decide⟩
  obtain ⟨items, hread, hleads⟩ :=
    leads_iff hp hd [⟨"a?b".toList, false⟩, ⟨"sub".toList, true⟩]
  rcases hleads with _ | ⟨hleadsFile, _ | ⟨hleadsDirectory, ⟨⟩⟩⟩
  refine ⟨⟨hp, hd, hfile, hdirectory⟩, _, _, hread, fun h => ?_, ?_⟩
  · exact ((hleadsFile hfile).mp h).2.noQuery (by decide)
  · refine (hleadsDirectory hdirectory).mpr ⟨?_, ?_⟩
    · exact SiteRoot.plain_iff.mpr (by decide +kernel)
    · exact SiteRoot.plain_iff.mpr (by decide +kernel)

/-- Every link of the listing leads to its entry. -/
def LeadsToEntries (root d : Bytes) (p : Text) (es : List ListingEntry) : Prop :=
  ∃ items, read? (page (display p) es) = some ⟨display p, display p, items⟩ ∧
    List.Forall₂ (fun e i => Reachable e.name →
      follow? root i.href = some (SiteRoot.join d (Utf8.encode e.name))) es items

/-- What follows a question mark in a name is taken for a query. -/
theorem not_forall_leadsToEntries : ¬ ∀ root d p es, p.getLast? = some '/' →
    resolve? root p = some d → LeadsToEntries root d p es := by
  intro h
  have hd : resolve? (Utf8.encode "/srv".toList) ['/'] = some (Utf8.encode "/srv".toList) := by
    rfl
  obtain ⟨items, hread, hleads⟩ := h _ _ ['/'] [⟨"a?b".toList, false⟩] rfl hd
  rw [read?_page] at hread
  obtain rfl := (Shown.mk.inj (Option.some.inj hread)).2.2
  rcases hleads with _ | ⟨hlink, -⟩
  have hreach : Reachable "a?b".toList :=
    ⟨⟨by decide, by decide, by decide, by decide, by decide⟩, by decide⟩
  exact absurd (hlink hreach) (by decide +kernel)

end Listing

end SiteGateway
