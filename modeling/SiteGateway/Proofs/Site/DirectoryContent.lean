import Mathlib.Data.List.TakeWhile
import SiteGateway.Proofs.Files.Rearranged
import SiteGateway.Proofs.Site.Boundary
import SiteGateway.Proofs.Text.Order

/-!
# What a directory's content decides

A directory is read in the order of its tree. The listing is sorted by lower-case names and the
document is found by a search that may stop early; where no two names have one lower case, neither
depends on that order. `Site.page_of_content` says what the directory's content makes of both, for
every rearranged tree alike.
-/

namespace SiteGateway

open FileTree (OneEach Rearranged)

/-! ## Names that end in `.md` -/

namespace FileName
variable {n x e : Bytes}

/-- Something, a dot, and `md` in any case of its letters. -/
def EndsInMd (n : FileName) : Prop :=
  ∃ x m d, x ≠ [] ∧ (m = 0x6D ∨ m = 0x4D) ∧ (d = 0x64 ∨ d = 0x44) ∧ n = x ++ [0x2E, m, d]

theorem isMarkdown_iff : isMarkdown n = true ↔ EndsInMd n := by
  unfold isMarkdown extension?
  constructor
  · intro h
    obtain ⟨e, he, hmd⟩ := Option.any_eq_true _ _ |>.mp h
    obtain ⟨⟨x, e'⟩, hcut, rfl⟩ := Option.map_eq_some_iff.mp he
    obtain ⟨hx, -, rfl⟩ := cutExtension?_eq_some_iff.mp hcut
    simp only [Bool.or_eq_true, beq_iff_eq] at hmd
    rcases hmd with ((rfl | rfl) | rfl) | rfl
    · exact ⟨x, _, _, hx, .inl rfl, .inl rfl, rfl⟩
    · exact ⟨x, _, _, hx, .inr rfl, .inl rfl, rfl⟩
    · exact ⟨x, _, _, hx, .inl rfl, .inr rfl, rfl⟩
    · exact ⟨x, _, _, hx, .inr rfl, .inr rfl, rfl⟩
  · rintro ⟨x, m, d, hx, hm, hd, rfl⟩
    have hcut : cutExtension? (x ++ [0x2E, m, d]) = some (x, [m, d]) := by
      refine cutExtension?_eq_some_iff.mpr ⟨hx, ?_, rfl⟩
      rcases hm with rfl | rfl <;> rcases hd with rfl | rfl <;> decide
    rw [hcut]
    rcases hm with rfl | rfl <;> rcases hd with rfl | rfl <;> rfl

theorem EndsInMd.three_lt_length (h : EndsInMd n) : 3 < n.length := by
  obtain ⟨x, m, d, hx, -, -, rfl⟩ := h
  have hpos := List.length_pos_iff.mpr hx
  simp only [List.length_append, List.length_cons, List.length_nil]
  omega

end FileName

namespace Site
variable {s : Site} {t t' : FileTree} {f : Bytes} {p : Place} {n m : FileName}
  {ns ns' : List FileName} {d d' : Option FileName}

/-! ## Names that spell `README.md` -/

/-- The name is `README.md` in any case of its letters. -/
def SpellsReadme (n : FileName) : Prop := Text.lower (Utf8.decodeLossy n) = "readme.md".toList

theorem isReadme_iff : isReadme n = true ↔ SpellsReadme n := by
  simp only [isReadme, Text.sameLetters, beq_iff_eq]
  rfl

theorem SpellsReadme.ascii (h : SpellsReadme n) : ∀ c ∈ Utf8.decodeLossy n, c.toNat < 0x80 :=
  Text.ascii_of_lower_eq rfl h

theorem SpellsReadme.lowercase_eq (h : SpellsReadme n) :
    Text.lowercase (Utf8.decodeLossy n) = "readme.md".toList := by
  rw [Text.lowercase_of_ascii h.ascii]
  exact h

theorem eq_or_eq_of_toLower_eq {c u l : Char} (hu : u.toNat + 32 = l.toNat) (h : c.toLower = l) :
    c = l ∨ c = u := by
  rcases Url.toLower_eq h with h | ⟨-, -, h⟩
  · exact .inl h
  · have hc : c.toNat = u.toNat := by omega
    exact .inr (by rw [← Char.ofNat_toNat c, hc, Char.ofNat_toNat])

theorem SpellsReadme.endsInMd (h : SpellsReadme n) : FileName.EndsInMd n := by
  -- a byte that is refused is shown as a character outside ASCII, and there is none
  have hlossy : Utf8.encode (Utf8.decodeLossy n) = n := by
    refine Utf8.encode_decodeLossy fun hm => ?_
    have := h.ascii '\uFFFD' hm
    exact absurd this (by decide)
  change _ = "readme".toList ++ ['.', 'm', 'd'] at h
  obtain ⟨a, b, hab, ha, hb⟩ := List.map_eq_append_iff.mp h
  obtain ⟨x, b, rfl, hx, hb⟩ := List.map_eq_cons_iff.mp hb
  obtain ⟨y, b, rfl, hy, hb⟩ := List.map_eq_cons_iff.mp hb
  obtain ⟨z, b, rfl, hz, hb⟩ := List.map_eq_cons_iff.mp hb
  obtain rfl := List.map_eq_nil_iff.mp hb
  obtain rfl : x = '.' := Url.eq_of_toLower_eq (by decide) hx
  have ha' : Utf8.encode a ≠ [] := by
    intro he
    obtain rfl := Utf8.encode_inj.mp (he.trans Utf8.encode_nil.symm)
    cases ha
  rw [← hlossy, hab, Utf8.encode_append]
  rcases eq_or_eq_of_toLower_eq (u := 'M') rfl hy with rfl | rfl <;>
    rcases eq_or_eq_of_toLower_eq (u := 'D') rfl hz with rfl | rfl
  · exact ⟨_, 0x6D, 0x64, ha', .inl rfl, .inl rfl, rfl⟩
  · exact ⟨_, 0x6D, 0x44, ha', .inl rfl, .inr rfl, rfl⟩
  · exact ⟨_, 0x4D, 0x64, ha', .inr rfl, .inl rfl, rfl⟩
  · exact ⟨_, 0x4D, 0x44, ha', .inr rfl, .inr rfl, rfl⟩

/-! ## The document -/

theorem chooseDocument_of_isReadme (hn : n ∈ ns) (hr : isReadme n = true)
    (hone : ∀ m ∈ ns, isReadme m = true → m = n) : chooseDocument ns = some n := by
  have hsome : (ns.find? isReadme).isSome := List.find?_isSome.mpr ⟨n, hn, hr⟩
  obtain ⟨m, hm⟩ := Option.isSome_iff_exists.mp hsome
  unfold chooseDocument
  rw [hm, hone m (List.mem_of_find?_eq_some hm) (List.find?_some hm)]

theorem chooseDocument_eq_some_iff (hnone : ∀ m ∈ ns, isReadme m = false) (hnodup : ns.Nodup) :
    chooseDocument ns = some n ↔ n ∈ ns ∧ ∀ m ∈ ns, m = n := by
  have hfind : ns.find? isReadme = none :=
    List.find?_eq_none.mpr fun m hm => by simp [hnone m hm]
  unfold chooseDocument
  rw [hfind]
  match ns with
  | [] => simp
  | [a] => simp [eq_comm]
  | a :: b :: rest =>
    refine iff_of_false (by simp) ?_
    rintro ⟨-, hall⟩
    have hab : a = b := (hall a (by simp)).trans (hall b (by simp)).symm
    rw [hab] at hnodup
    simp at hnodup

/-- With one `README.md` at most, the search does not depend on the order. -/
theorem chooseDocument_perm (hp : ns'.Perm ns) (hnodup : ns.Nodup)
    (hone : ∀ n ∈ ns, ∀ m ∈ ns, isReadme n = true → isReadme m = true → n = m) :
    chooseDocument ns' = chooseDocument ns := by
  by_cases h : ∃ n ∈ ns, isReadme n = true
  · obtain ⟨n, hn, hr⟩ := h
    rw [chooseDocument_of_isReadme hn hr fun m hm hm' => hone m hm n hn hm' hr,
      chooseDocument_of_isReadme (hp.mem_iff.mpr hn) hr fun m hm hm' =>
        hone m (hp.mem_iff.mp hm) n hn hm' hr]
  · have hnone : ∀ m ∈ ns, isReadme m = false := fun m hm => by
      cases hr : isReadme m with
      | false => rfl
      | true => exact absurd ⟨m, hm, hr⟩ h
    refine Option.ext fun n => ?_
    rw [chooseDocument_eq_some_iff hnone hnodup,
      chooseDocument_eq_some_iff (fun m hm => hnone m (hp.mem_iff.mp hm)) (hp.nodup_iff.mpr hnodup)]
    simp only [hp.mem_iff]

/-- An entry of a directory that is there and is no directory. -/
structure HoldsFile (s : Site) (p : Place) (f : Bytes) (n : FileName) : Prop where
  held : (s.tree.entry? (p ++ [n])).isSome = true
  file : ∃ e, s.tree.kind s.base (child f n) = .ok e ∧ e ≠ .directory

/-- Such an entry whose name ends in `.md`. -/
structure Candidate (s : Site) (p : Place) (f : Bytes) (n : FileName) : Prop
    extends HoldsFile s p f n where
  endsInMd : FileName.EndsInMd n

/-- The document that the content of a directory calls for. -/
structure StandsFor (s : Site) (p : Place) (f : Bytes) (d : Option FileName) : Prop where
  readme : ∀ n, HoldsFile s p f n → SpellsReadme n → d = some n
  only : (∀ n, HoldsFile s p f n → ¬ SpellsReadme n) →
    ∀ n, d = some n ↔ Candidate s p f n ∧ ∀ m, Candidate s p f m → m = n

theorem mem_filter_candidates (ht : s.tree.OneEach) :
    n ∈ (s.tree.children p).filter (fun n => s.isFile (child f n) && FileName.isMarkdown n) ↔
      Candidate s p f n := by
  rw [List.mem_filter, ht.mem_children_iff, Bool.and_eq_true, FileName.isMarkdown_iff, isFile,
    FileTree.isFile_iff]
  exact ⟨fun ⟨hh, hf, he⟩ => ⟨⟨hh, hf⟩, he⟩, fun ⟨⟨hh, hf⟩, he⟩ => ⟨hh, hf, he⟩⟩

/-- No two names in the directory have one lower case. -/
def DistinctNames (t : FileTree) (p : Place) : Prop :=
  ∀ n m, (t.entry? (p ++ [n])).isSome = true → (t.entry? (p ++ [m])).isSome = true →
    Text.lowercase (Utf8.decodeLossy n) = Text.lowercase (Utf8.decodeLossy m) → n = m

theorem distinctNames_iff (ht : t.OneEach) : DistinctNames t p ↔
    ((t.children p).map fun n => Text.lowercase (Utf8.decodeLossy n)).Nodup := by
  rw [List.nodup_map_iff_inj_on (ht.nodup_children p)]
  simp only [DistinctNames, ← ht.mem_children_iff]
  exact ⟨fun h n hn m hm he => h n m hn hm he, fun h n m hn hm he => h n hn m hm he⟩

theorem DistinctNames.readme_unique (h : DistinctNames s.tree p) (hn : Candidate s p f n)
    (hm : Candidate s p f m) (hn' : isReadme n = true) (hm' : isReadme m = true) : n = m :=
  h n m hn.held hm.held ((isReadme_iff.mp hn').lowercase_eq.trans
    (isReadme_iff.mp hm').lowercase_eq.symm)

section
variable (ht : s.tree.OneEach) (hd : DistinctNames s.tree p)
  (hp : s.tree.locate s.base f = .ok p) (hdir : s.tree.entry? p = some .directory)
include ht hd hp hdir

theorem standsFor_directoryDocument? : StandsFor s p f (s.directoryDocument? f) := by
  have hmem : ∀ n, _ ↔ Candidate s p f n := fun n => mem_filter_candidates ht
  have hnodup := (ht.nodup_children p).filter fun n => s.isFile (child f n) && FileName.isMarkdown n
  have hdoc : s.directoryDocument? f = chooseDocument ((s.tree.children p).filter fun n =>
      s.isFile (child f n) && FileName.isMarkdown n) := by
    rw [directoryDocument?, FileTree.list_of_locate hp hdir]
  rw [hdoc]
  constructor
  · intro n hn hr
    have hc : Candidate s p f n := ⟨hn, hr.endsInMd⟩
    exact chooseDocument_of_isReadme ((hmem n).mpr hc) (isReadme_iff.mpr hr) fun m hm hm' =>
      hd.readme_unique ((hmem m).mp hm) hc hm' (isReadme_iff.mpr hr)
  · intro hnone n
    have hother : ∀ m ∈ (s.tree.children p).filter fun n =>
        s.isFile (child f n) && FileName.isMarkdown n, isReadme m = false := fun m hm =>
      Bool.eq_false_iff.mpr fun hr =>
        hnone m ((hmem m).mp hm).toHoldsFile (isReadme_iff.mp hr)
    rw [chooseDocument_eq_some_iff hother hnodup]
    simp only [hmem]

theorem candidate_of_directoryDocument? (h : s.directoryDocument? f = some n) :
    Candidate s p f n := by
  have hst := standsFor_directoryDocument? ht hd hp hdir
  by_cases hr : ∃ m, HoldsFile s p f m ∧ SpellsReadme m
  · obtain ⟨m, hm, hm'⟩ := hr
    obtain rfl : n = m := Option.some.inj (h.symm.trans (hst.readme m hm hm'))
    exact ⟨hm, hm'.endsInMd⟩
  · exact ((hst.only (fun m hm hm' => hr ⟨m, hm, hm'⟩) n).mp h).1

theorem directoryDocument?_rearranged (h : Rearranged s.tree t') :
    (s.withTree t').directoryDocument? f = s.directoryDocument? f := by
  have hlist' : t'.list s.base f = .ok (t'.children p) :=
    FileTree.list_of_locate (by rw [h.locate, hp]) (by rw [h.entry?, hdir])
  rw [directoryDocument?, directoryDocument?, withTree_tree, withTree_base, hlist',
    FileTree.list_of_locate hp hdir]
  simp only [withTree_isFile, h.isFile]
  refine chooseDocument_perm ((h.children p).filter _) ((ht.nodup_children p).filter _) ?_
  intro n hn m hm hn' hm'
  exact hd.readme_unique ((mem_filter_candidates ht).mp hn) ((mem_filter_candidates ht).mp hm) hn'
    hm'

end

end Site

/-! ## The listing -/

namespace Listing
variable {es es' : List ListingEntry}

theorem perm_sort (es : List ListingEntry) : (sort es).Perm es := List.mergeSort_perm es _

theorem sorted_sort (es : List ListingEntry) : (sort es).Pairwise fun a b =>
    Text.le (Text.lowercase a.name) (Text.lowercase b.name) = true := by
  refine List.pairwise_mergeSort ?_ ?_ es
  · exact fun a b c => Text.le_trans (Text.lowercase a.name) (Text.lowercase b.name)
      (Text.lowercase c.name)
  · exact fun a b => Text.le_total (Text.lowercase a.name) (Text.lowercase b.name)

/-- Entries whose names have different lower cases are sorted in one way only. -/
theorem sort_perm (hp : es'.Perm es) (hone : ∀ a ∈ es, ∀ b ∈ es,
    Text.lowercase a.name = Text.lowercase b.name → a = b) : sort es' = sort es := by
  have hperm : (sort es').Perm (sort es) :=
    (perm_sort es').trans (hp.trans (perm_sort es).symm)
  refine List.Perm.eq_of_pairwise ?_ (sorted_sort es') (sorted_sort es) hperm
  intro a b ha hb hab hba
  rw [Text.le_iff] at hab hba
  exact hone a ((perm_sort es).mem_iff.mp (hperm.mem_iff.mp ha)) b
    ((perm_sort es).mem_iff.mp hb) (le_antisymm hab hba)

theorem pairwise_sort (hn : (es.map fun e => Text.lowercase e.name).Nodup) :
    (sort es).Pairwise fun a b => Text.lowercase a.name < Text.lowercase b.name := by
  have hne : (sort es).Pairwise fun a b => Text.lowercase a.name ≠ Text.lowercase b.name := by
    refine List.pairwise_map.mp ?_
    exact ((perm_sort es).map fun e => Text.lowercase e.name).nodup_iff.mpr hn
  exact ((sorted_sort es).and hne).imp fun h => Text.lt_of_le_of_ne h.1 h.2

end Listing

namespace Site
variable {s : Site} {t' : FileTree} {f : Bytes} {p : Place}

/-- The entries of a directory as its listing shows them. -/
structure Lists (s : Site) (p : Place) (f : Bytes) (es : List ListingEntry) : Prop where
  mem : ∀ e, e ∈ es ↔ ∃ n, (s.tree.entry? (p ++ [n])).isSome = true ∧
    e.name = Utf8.decodeLossy n ∧
      (e.isDirectory = true ↔ s.tree.kind s.base (child f n) = .ok .directory)
  ordered : es.Pairwise fun a b => Text.lowercase a.name < Text.lowercase b.name

/-- What is shown for the name of an entry. -/
def entryOf (s : Site) (f : Bytes) (n : FileName) : ListingEntry :=
  ⟨Utf8.decodeLossy n, s.isDirectory (child f n)⟩

theorem eq_entryOf_iff {e : ListingEntry} {n : FileName} : e = s.entryOf f n ↔
    e.name = Utf8.decodeLossy n ∧
      (e.isDirectory = true ↔ s.tree.kind s.base (child f n) = .ok .directory) := by
  obtain ⟨name, isDirectory⟩ := e
  rw [entryOf, ListingEntry.mk.injEq, Site.isDirectory, ← FileTree.isDirectory_iff, Bool.eq_iff_iff]

theorem lists_sort (ht : s.tree.OneEach) (hd : DistinctNames s.tree p) :
    Lists s p f (Listing.sort ((s.tree.children p).map (s.entryOf f))) where
  mem e := by
    rw [(Listing.perm_sort _).mem_iff, List.mem_map]
    refine exists_congr fun n => ?_
    rw [ht.mem_children_iff]
    exact and_congr_right fun _ => eq_comm.trans eq_entryOf_iff
  ordered := by
    refine Listing.pairwise_sort ?_
    rw [List.map_map]
    exact (distinctNames_iff ht).mp hd

section
variable (ht : s.tree.OneEach) (hd : DistinctNames s.tree p)
  (hp : s.tree.locate s.base f = .ok p) (hdir : s.tree.entry? p = some .directory)
include ht hd hp hdir

theorem entries_rearranged (h : Rearranged s.tree t') : Listing.entries t' s.base f =
    .ok (Listing.sort ((s.tree.children p).map (s.entryOf f))) := by
  have hlist : t'.list s.base f = .ok (t'.children p) :=
    FileTree.list_of_locate (by rw [h.locate, hp]) (by rw [h.entry?, hdir])
  have hentry (n : FileName) :
      (⟨Utf8.decodeLossy n, t'.isDirectory s.base (SiteRoot.join f n)⟩ : ListingEntry) =
        s.entryOf f n := by
    rw [h.isDirectory]
    rfl
  rw [Listing.entries, hlist]
  simp only [hentry]
  refine congrArg Except.ok (Listing.sort_perm ((h.children p).map _) ?_)
  intro a ha b hb hab
  obtain ⟨n, hn, rfl⟩ := List.mem_map.mp ha
  obtain ⟨m, hm, rfl⟩ := List.mem_map.mp hb
  rw [hd n m (ht.mem_children_iff.mp hn) (ht.mem_children_iff.mp hm) hab]

/-- Where no two names have one lower case, the listing of a directory and its document depend on
what is in the directory, in whatever order it is read. Of a directory's entries neither
directories, nor links that lead nowhere, nor names without a character before their `.md` can be
its document. -/
theorem page_of_content :
    ∃ es d, Lists s p f es ∧ StandsFor s p f d ∧
      (∀ n, n.length = 3 ∨ s.tree.kind s.base (child f n) = .ok .directory ∨
        (∃ e, s.tree.kind s.base (child f n) = .error e) → d ≠ some n) ∧
      ∀ t', t'.entries.Perm s.tree.entries →
        Listing.entries t' s.base f = .ok es ∧
        (∀ path, (s.withTree t').list f path =
          .ok (Page.ok (Listing.page (SiteRoot.display path) es))) ∧
        (s.withTree t').directoryDocument? f = d ∧
        ∀ hs n, (s.withTree t').document? hs (child f n) = s.document? hs (child f n) := by
  refine ⟨_, _, lists_sort ht hd, standsFor_directoryDocument? ht hd hp hdir, ?_, ?_⟩
  · intro n hn hdoc
    have hc := candidate_of_directoryDocument? ht hd hp hdir hdoc
    obtain ⟨e, he, hne⟩ := hc.file
    rcases hn with hn | hn | ⟨fault, hn⟩
    · exact absurd hc.endsInMd.three_lt_length (by omega)
    · exact hne (Except.ok.inj (he.symm.trans hn))
    · cases he.symm.trans hn
  · intro t' hperm
    have h : Rearranged s.tree t' := ⟨ht, hperm⟩
    have hentries := entries_rearranged ht hd hp hdir h
    refine ⟨hentries, fun path => ?_, directoryDocument?_rearranged ht hd hp hdir h, fun hs n => ?_⟩
    · rw [list, withTree_tree, withTree_base, hentries]
      rfl
    · exact document?_congr (h.read _ _) hs

end

/-- A directory whose only Markdown file is `Readme.MD`, though a directory, a link that leads
nowhere and a hidden file end in `.md` as well. -/
theorem page_of_content_reversed :
    let name (n : String) : FileName := Utf8.encode n.toList
    let srv : Place := [name "srv"]
    let file : FileEntry := .file (name "x") ⟨0, 0⟩
    let t : FileTree := ⟨[(srv, .directory), (srv ++ [name "b.txt"], file),
      (srv ++ [name "A.md"], .directory), (srv ++ [name "gone.md"], .link (name "nowhere")),
      (srv ++ [name ".md"], file), (srv ++ [name "Readme.MD"], file)]⟩
    let s : Site := ⟨t, [], name "/srv"⟩
    let t' : FileTree := ⟨t.entries.reverse⟩
    t.OneEach ∧ DistinctNames t srv ∧ t.locate [] s.root = .ok srv ∧
      t.entry? srv = some .directory ∧ t'.entries.Perm t.entries ∧
      t'.children srv ≠ t.children srv ∧
      s.directoryDocument? s.root = some (name "Readme.MD") ∧
      (s.withTree t').directoryDocument? s.root = some (name "Readme.MD") ∧
      ∃ es, ⟨"gone.md".toList, false⟩ ∈ es ∧ Listing.entries t [] s.root = .ok es ∧
        Listing.entries t' [] s.root = .ok es := by
  intro name srv file t s t'
  have ht : t.OneEach := by decide +kernel
  have hd : DistinctNames t srv := (distinctNames_iff ht).mpr (by decide +kernel)
  have hp : t.locate [] s.root = .ok srv := by rfl
  have hdir : t.entry? srv = some .directory := by rfl
  have hperm : t'.entries.Perm t.entries := t.entries.reverse_perm
  obtain ⟨es, d, hlists, hstands, -, hsame⟩ :=
    page_of_content (s := s) (f := s.root) (p := srv) ht hd hp hdir
  obtain ⟨hes, -, hdoc, -⟩ := hsame t (.refl _)
  obtain ⟨hes', -, hdoc', -⟩ := hsame t' hperm
  have hreadme : Candidate s srv s.root (name "Readme.MD") :=
    (mem_filter_candidates ht).mp (by decide +kernel)
  have hchosen := hstands.readme _ hreadme.toHoldsFile (isReadme_iff.mp (by rfl))
  have hgone : ⟨"gone.md".toList, false⟩ ∈ es :=
    (hlists.mem _).mpr ⟨name "gone.md", by rfl, by rfl, by decide +kernel⟩
  exact ⟨ht, hd, hp, hdir, hperm, by decide +kernel, hdoc.trans hchosen, hdoc'.trans hchosen,
    es, hgone, hes, hes'⟩

end Site

end SiteGateway
