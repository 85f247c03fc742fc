import SiteGateway.Proofs.Files.Path
import SiteGateway.Proofs.Settings.Resolve
import SiteGateway.Proofs.Text.Split
import SiteGateway.Proofs.Text.Utf8

/-!
# The initial file and its directory

An initial file is accepted when it leads to a file with the right extension. What is kept of it is
the canonical path of its directory and its name, and these lead to the same file
(`resolve_initialFile`).
-/

namespace SiteGateway

open FileTree (Openable names pathOf linkLimit)

namespace SiteRoot
variable {path n : Bytes}

theorem head?_join (h : path.head? = some 0x2F) : (join path n).head? = some 0x2F := by
  cases path with
  | nil => cases h
  | cons c path => unfold join; split <;> simpa using h

theorem head?_joinAll (ns : List Bytes) (h : path.head? = some 0x2F) :
    (joinAll path ns).head? = some 0x2F := by
  induction ns generalizing path with
  | nil => exact h
  | cons n ns ih => exact ih (head?_join h)

theorem exists_join (h : path ≠ []) : ∃ front, ∀ n, join path n = front ++ 0x2F :: n := by
  by_cases hl : path.getLast? = some 0x2F
  · obtain ⟨front, rfl⟩ := List.getLast?_eq_some_iff.mp hl
    exact ⟨front, fun n => by simp [join]⟩
  · exact ⟨path, fun n => by simp [join, h, hl]⟩

end SiteRoot

namespace Settings
variable {t : FileTree} {base : Place} {path : Bytes} {file name : Text}

/-! ### Absolute paths -/

theorem head?_pathOf (p : Place) : (pathOf p).head? = some 0x2F := by
  cases p <;> rfl

theorem noSlash_encode {n : Text} (h : '/' ∉ n) : 0x2F ∉ Utf8.encode n :=
  fun hn => h (Utf8.mem_of_mem_encode (by decide) hn)

/-- The proper names of a path as text. -/
def properNames (file : Text) : List Text :=
  (Text.split '/' file).filter fun n => n ≠ [] ∧ n ≠ ['.']

theorem of_mem_properNames {n : Text} (h : n ∈ properNames file) :
    n ≠ [] ∧ n ≠ ['.'] ∧ '/' ∉ n := by
  obtain ⟨hm, hp⟩ := List.mem_filter.mp h
  have hp : n ≠ [] ∧ n ≠ ['.'] := by simpa using hp
  refine ⟨hp.1, hp.2, fun hc => ?_⟩
  exact absurd (Text.of_mem_splitBy hm '/' hc).1 (by decide)

/-- A path starts at the top if it says so, and else at the place where the program works. -/
theorem exists_start (base : Place) (file : Text) :
    ∃ start, start.head? = some 0x2F ∧
      (file.head? = some '/' ∧ (∃ k, start = List.replicate (k + 1) 0x2F) ∨
        file.head? ≠ some '/' ∧ start = pathOf base) ∧
      absolutePath base file =
        let whole := SiteRoot.joinAll start ((properNames file).map Utf8.encode)
        if file.getLast? = some '/' ∧ whole.getLast? ≠ some 0x2F then whole ++ [0x2F]
        else whole := by
  refine ⟨_, ?_, ?_, rfl⟩
  · split
    · rfl
    · rfl
    · rfl
    · exact head?_pathOf base
  · split
    · exact .inl ⟨rfl, 0, rfl⟩
    · exact .inl ⟨rfl, 1, rfl⟩
    · exact .inl ⟨rfl, 0, rfl⟩
    next hslash =>
      refine .inr ⟨fun hhead => ?_, rfl⟩
      obtain ⟨rest, hrest⟩ := List.head?_eq_some_iff.mp hhead
      exact hslash rest hrest

/-- An absolute path ends in a name, in a slash, or is where relative paths start. -/
theorem absolutePath_cases (base : Place) (file : Text) :
    (absolutePath base file).head? = some 0x2F ∧
      ((∃ front n, n ≠ [] ∧ n ≠ ['.'] ∧ '/' ∉ n ∧
          absolutePath base file = front ++ 0x2F :: Utf8.encode n) ∨
        (∃ front, absolutePath base file = front ++ [0x2F]) ∨
        absolutePath base file = pathOf base) := by
  obtain ⟨start, hhead, hstart, hpath⟩ := exists_start base file
  rw [hpath]
  have hend : (∃ front, start = front ++ [0x2F]) ∨ start = pathOf base :=
    hstart.imp (fun ⟨_, k, hk⟩ => ⟨List.replicate k 0x2F, by rw [hk, List.replicate_succ']⟩)
      And.right
  have hwhole : (SiteRoot.joinAll start ((properNames file).map Utf8.encode)).head? = some 0x2F :=
    SiteRoot.head?_joinAll _ hhead
  dsimp only
  split
  · -- a slash was asked for and is not there
    refine ⟨?_, .inr (.inl ⟨_, rfl⟩)⟩
    rw [List.head?_append, hwhole]; rfl
  · refine ⟨hwhole, ?_⟩
    rcases List.eq_nil_or_concat (properNames file) with hns | ⟨front, n, hns⟩
    · rw [hns]
      exact .inr hend
    · rw [hns, List.concat_eq_append, List.map_append, SiteRoot.joinAll, List.foldl_append]
      have hne : SiteRoot.joinAll start (front.map Utf8.encode) ≠ [] := by
        intro h
        have := SiteRoot.head?_joinAll (front.map Utf8.encode) hhead
        rw [h] at this
        cases this
      obtain ⟨x, hx⟩ := SiteRoot.exists_join hne
      have hn : n ∈ properNames file := by simp [hns]
      obtain ⟨h₀, h₁, h₂⟩ := of_mem_properNames hn
      exact .inl ⟨x, n, h₀, h₁, h₂, hx _⟩

/-! ### The directory part and the name -/

theorem slash_cons_replicate (k : Nat) (n : Bytes) :
    0x2F :: (List.replicate k 0x2F ++ n) = List.replicate k 0x2F ++ 0x2F :: n := by
  rw [← List.cons_append, ← List.replicate_succ, List.replicate_succ', List.append_assoc]
  rfl

theorem exists_replicate_dropWhile (y : Bytes) :
    ∃ k, y = List.replicate k 0x2F ++ y.dropWhile (· = 0x2F) := by
  induction y with
  | nil => exact ⟨0, rfl⟩
  | cons c y ih =>
    by_cases hc : c = 0x2F
    · obtain ⟨k, hk⟩ := ih
      refine ⟨k + 1, ?_⟩
      rw [hc, List.dropWhile_cons_of_pos (by simp), List.replicate_succ, List.cons_append, ← hk]
    · exact ⟨0, by rw [List.dropWhile_cons_of_neg (by simpa using hc)]; rfl⟩

/-- The last name of a path and the slashes before it are cut off; of nothing but slashes one is
kept. -/
theorem cutLast_eq (h : path.head? = some 0x2F) :
    ∃ front k n, 0x2F ∉ n ∧ front.getLast? ≠ some 0x2F ∧
      path = front ++ 0x2F :: (List.replicate k 0x2F ++ n) ∧
      cutLast path = (if front.isEmpty then [0x2F] else front, n) := by
  have hmem : 0x2F ∈ path.reverse := List.mem_reverse.mpr (List.mem_of_head? h)
  obtain ⟨x, y, hxy, hx⟩ := List.eq_append_cons_of_mem hmem
  have hname : path.reverse.takeWhile (· ≠ 0x2F) = x := by
    rw [hxy, List.takeWhile_append_of_pos]
    · simp
    · intro c hc
      have : c ≠ 0x2F := by
        rintro rfl
        exact hx hc
      simpa using this
  have hdrop : path.reverse.drop x.length = 0x2F :: y := by rw [hxy]; simp
  have hrest : (0x2F :: y).dropWhile (· = 0x2F) = y.dropWhile (· = 0x2F) := by simp
  obtain ⟨k, hk⟩ := exists_replicate_dropWhile y
  have hpath : path = (y.dropWhile (· = 0x2F)).reverse ++
      0x2F :: (List.replicate k 0x2F ++ x.reverse) := by
    have hback : path = (x ++ 0x2F :: y).reverse := by rw [← hxy, List.reverse_reverse]
    generalize y.dropWhile (· = 0x2F) = rest at hk
    rw [hback, hk, slash_cons_replicate]
    simp
  have hlast : (y.dropWhile (· = 0x2F)).reverse.getLast? ≠ some 0x2F := by
    intro h
    rw [List.getLast?_reverse] at h
    have := List.head?_dropWhile_not (· = 0x2F) y
    rw [h] at this
    simp at this
  refine ⟨(y.dropWhile (· = 0x2F)).reverse, k, x.reverse, by simpa using hx, hlast, hpath, ?_⟩
  rw [cutLast]
  simp only [hname, hdrop, hrest, List.isEmpty_reverse]

/-! ### Accepted files -/

/-- The name of a file, as text. -/
structure ProperName (name : Text) : Prop where
  ne_nil : name ≠ []
  ne_dot : name ≠ ['.']
  ne_dots : name ≠ ['.', '.']
  noSlash : '/' ∉ name
  noNul : '\x00' ∉ name

theorem exists_name_of_kind {e : FileEntry}
    (hbase : ∀ e, t.kind base (pathOf base) = .ok e → e = .directory)
    (h : t.kind base (absolutePath base file) = .ok e) (he : e ≠ .directory) :
    ∃ front n, n ≠ [] ∧ n ≠ ['.'] ∧ '/' ∉ n ∧
      absolutePath base file = front ++ 0x2F :: Utf8.encode n := by
  rcases (absolutePath_cases base file).2 with hname | ⟨front, hslash⟩ | hb
  · exact hname
  · rw [hslash] at h
    exact absurd (FileTree.kind_of_slash h) he
  · rw [hb] at h
    exact absurd (hbase e h) he

/-- What is kept of an accepted file leads to it. -/
theorem of_resolveInitialFile {directory : Bytes}
    (hbase : ∀ e, t.kind base (pathOf base) = .ok e → e = .directory)
    (h : resolveInitialFile t base file = .ok (directory, name)) :
    ProperName name ∧ ∃ p q e, t.locate base (absolutePath base file) = .ok q ∧
      t.entry? q = some e ∧ e ≠ .directory ∧
      t.Leads p (Utf8.encode name) q ∧ t.locate base directory = .ok p := by
  unfold resolveInitialFile at h
  dsimp only at h
  split at h
  · cases h
  · cases h
  · rename_i e hdir hkind
    split at h
    · rename_i hext
      have he : e ≠ .directory := fun he => hdir (he ▸ rfl)
      obtain ⟨front, n, h₀, h₁, hslash, hpath⟩ := exists_name_of_kind hbase hkind he
      have hnoSlash : 0x2F ∉ Utf8.encode n := noSlash_encode hslash
      -- a path that ends in two dots has no extension, and would not have been accepted
      have h₂ : n ≠ ['.', '.'] := by
        rintro rfl
        have hnone : FileName.ofPath? (absolutePath base file) = none := by
          rw [hpath, FileName.ofPath?_append_slash front hnoSlash (by decide) (by decide)]
          rfl
        rw [hnone] at hext
        exact absurd hext (by decide)
      obtain ⟨a, k, m, hm, -, hcut, hlast⟩ := cutLast_eq (absolutePath_cases base file).1
      have hcut' : absolutePath base file = (a ++ List.replicate k 0x2F) ++ 0x2F :: m := by
        rw [hcut, slash_cons_replicate, List.append_assoc]
      obtain ⟨-, rfl⟩ := FileTree.append_slash_inj hnoSlash hm (hpath.symm.trans hcut')
      rw [hlast] at h
      cases h
      rw [Utf8.decodeLossy_encode]
      obtain ⟨q, hq, hqe⟩ := FileTree.kind_eq_ok_iff.mp hkind
      obtain ⟨p, hp, hloc⟩ :=
        FileTree.exists_leads hq (absolutePath_cases base file).1 hnoSlash hcut
      have hnul : '\x00' ∉ n := by
        intro hn
        refine (FileTree.locate_eq_ok_iff.mp hq).1.1 ?_
        rw [hpath]
        exact List.mem_append_right _ (List.mem_cons_of_mem _
          (List.mem_flatMap.mpr ⟨_, hn, by decide⟩))
      exact ⟨⟨h₀, h₁, h₂, hslash, hnul⟩, p, q, e, hq, hqe, he, hp, hloc⟩
    · cases h

/-- A configuration with an initial file keeps the directory and the name by which the file is
found. -/
theorem resolve_initialFile {s : Settings} {c : ServerConfiguration}
    (hbase : t.isDirectory base (pathOf base) = true) (hc : resolve t base s = .ok c)
    (hf : s.givenInitialFile = some file) :
    ∃ name p q content modified, c.dispatch.initialFile = some name ∧ ProperName name ∧
      c.dispatch.directory = pathOf p ∧ t.Leads p (Utf8.encode name) q ∧
      t.entry? q = some (.file content modified) ∧
      t.read base (absolutePath base file) = .ok (content, modified) := by
  obtain ⟨directory, hres⟩ := exists_resolved hc
  obtain ⟨name, hinitial, hfile⟩ := hres.initialFile hf
  have hstart : ∀ e, t.kind base (pathOf base) = .ok e → e = .directory := fun e he =>
    (Except.ok.inj ((FileTree.isDirectory_iff.mp hbase).symm.trans he)).symm
  obtain ⟨hname, p, q, e, hq, hqe, he, hleads, hp⟩ := of_resolveInitialFile hstart hfile
  obtain ⟨p', hp', -, hdir⟩ := resolveDirectory_eq_ok hres.directory
  obtain rfl : p = p' := Except.ok.inj (hp.symm.trans hp')
  have hkind : t.kind base (absolutePath base file) = .ok e :=
    FileTree.kind_eq_ok_iff.mpr ⟨q, hq, hqe⟩
  cases e with
  | directory => exact absurd rfl he
  | link target =>
    exact absurd hqe ((hleads.canonical_end (noSlash_encode hname.noSlash)).ne_link target)
  | file content modified =>
    exact ⟨name, p, q, content, modified, hinitial, hname, hdir, hleads, hqe, by
      rw [FileTree.read, hkind]; rfl⟩

end Settings

end SiteGateway
