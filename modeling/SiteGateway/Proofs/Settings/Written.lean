import SiteGateway.Proofs.Site.Root
import SiteGateway.Proofs.Text.Trim

/-!
# The initial file as it is written

An initial file is looked up by its path made absolute. Names that say to stay are left out on the
way, which changes nothing for a path that leads somewhere (`Thins.walk`), so what the path leads to
is what the system finds by the text as it is written (`locate_absolutePath`). The directory to
serve is what stands before the last name (`serves_iff`).
-/

namespace SiteGateway

open FileTree (names pathOf steps linkLimit)

namespace FileTree
variable {t : FileTree} {base p q : Place} {path : Bytes} {n : FileName} {k : Nat}

theorem walk_steps (h : t.walk k p (names path) = .ok q) : t.walk k p (steps path) = .ok q :=
  (thins_filter (names path)).walk h

theorem steps_append_flatMap (hp : ∀ n ∈ p, steps n = [n]) (a : Bytes) :
    steps (a ++ p.flatMap (0x2F :: ·)) = steps a ++ p := by
  induction p generalizing a with
  | nil => simp
  | cons n p ih =>
    rw [List.flatMap_cons, List.cons_append, steps_append_slash,
      ih (fun n hn => hp n (List.mem_cons_of_mem _ hn)), hp n List.mem_cons_self]
    rfl

theorem Canonical.steps_pathOf (h : t.Canonical p) : steps (pathOf p) = p := by
  have hproper : ∀ n ∈ p, steps n = [n] := fun n hn =>
    steps_of_name (h.noSlash n hn) (h.plain hn).1 (h.plain hn).2.1
  cases p with
  | nil => rfl
  | cons n p => exact steps_append_flatMap hproper []

/-- The path of a canonical place leads to nothing else. -/
theorem Canonical.eq_of_locate_pathOf (h : t.Canonical p) (hq : t.locate base (pathOf p) = .ok q) :
    q = p := by
  have hw := walk_steps (locate_eq_ok_iff.mp hq).2.2
  rw [if_pos (Settings.head?_pathOf p), h.steps_pathOf, ← List.append_nil p,
    Canonical.walk_append (by simpa using h)] at hw
  obtain ⟨f, hf⟩ := exists_walkWith t linkLimit
  rw [hf] at hw
  cases hw
  simp

end FileTree

namespace Settings
variable {t : FileTree} {base q q' : Place} {file : Text} {path : Bytes}

/-- A path made absolute has the steps of the text behind those of where it starts. -/
theorem steps_absolutePath (hb : t.Canonical base) (file : Text) :
    steps (absolutePath base file) =
      (if file.head? = some '/' then [] else base) ++ steps (Utf8.encode file) := by
  have hnames : (properNames file).map Utf8.encode = steps (Utf8.encode file) :=
    SiteRoot.map_encode_names file
  have hslash (x : Bytes) : steps (x ++ [0x2F]) = steps x :=
    (FileTree.steps_append_slash x []).trans (List.append_nil _)
  have hwhole (start : Bytes) :
      steps (SiteRoot.joinAll start ((properNames file).map Utf8.encode)) =
        steps start ++ steps (Utf8.encode file) := by
    rw [hnames, FileTree.steps_joinAll _ fun n hn => FileTree.noSlash_of_mem_steps hn,
      FileTree.flatMap_steps]
  obtain ⟨start, -, hstart, hpath⟩ := exists_start base file
  -- however many slashes a path starts with, they are no steps
  have hfirst : steps start = if file.head? = some '/' then [] else base := by
    rcases hstart with ⟨hhead, k, rfl⟩ | ⟨hhead, rfl⟩
    · rw [if_pos hhead]
      clear hpath
      induction k with
      | zero => rfl
      | succ k ih => rw [List.replicate_succ', hslash, ih]
    · rw [if_neg hhead, hb.steps_pathOf]
  rw [hpath, ← hfirst, ← hwhole]
  dsimp only
  split
  · exact hslash _
  · rfl

/-- What the path made absolute leads to is what the text itself leads to. -/
theorem locate_absolutePath (hb : t.Canonical base)
    (hq : t.locate base (absolutePath base file) = .ok q)
    (hq' : t.locate base (Utf8.encode file) = .ok q') : q' = q := by
  have hw := FileTree.walk_steps (FileTree.locate_eq_ok_iff.mp hq).2.2
  have hw' := FileTree.walk_steps (FileTree.locate_eq_ok_iff.mp hq').2.2
  have hhead : (Utf8.encode file).head? = some 0x2F ↔ file.head? = some '/' :=
    Utf8.head?_encode_eq_slash_iff
  have hstart : t.Canonical (if file.head? = some '/' then [] else base) := by
    split
    · exact .top
    · exact hb
  rw [if_pos (absolutePath_cases base file).1, steps_absolutePath hb,
    FileTree.Canonical.walk_append (by simpa using hstart), List.nil_append] at hw
  simp only [hhead] at hw'
  exact Except.ok.inj (hw'.symm.trans hw)

/-! ### The directory to serve -/

/-- What the text of an initial file says, blanks around it aside; a blank one says nothing. -/
def Gives (s : Settings) (file : Text) : Prop :=
  file ≠ [] ∧ Text.Trimmed file ∧
    ∃ x y, s.initialFile = some (x ++ (file ++ y)) ∧ Text.Blank x ∧ Text.Blank y

/-- What stands before the last name of a path and its slashes; the top if nothing does. -/
def Parent (path directory : Bytes) : Prop :=
  ∃ front k n, path = front ++ 0x2F :: (List.replicate k 0x2F ++ n) ∧ 0x2F ∉ n ∧
    front.getLast? ≠ some 0x2F ∧ directory = if front.isEmpty then [0x2F] else front

/-- The directory to serve is the one of the initial file, or else the one that is set. -/
inductive Serves (base : Place) (s : Settings) : Bytes → Prop
  | ofFile {file : Text} {path : Bytes} (h : s.Gives file)
      (hp : Parent (absolutePath base file) path) : Serves base s path
  | ofDirectory (h : ∀ file, ¬ s.Gives file) : Serves base s (Utf8.encode s.directory)

variable {s : Settings}

theorem givenInitialFile_eq_some_iff : s.givenInitialFile = some file ↔ s.Gives file := by
  rw [givenInitialFile, Option.filter_eq_some_iff, Option.map_eq_some_iff, Gives]
  constructor
  · rintro ⟨⟨raw, hraw, rfl⟩, hne⟩
    obtain ⟨x, y, hx, hy, hxy⟩ := Text.exists_trim raw
    exact ⟨by simpa using hne, Text.trimmed_trim raw, x, y, by rw [hraw, ← hxy], hx, hy⟩
  · rintro ⟨hne, htrimmed, x, y, hraw, hx, hy⟩
    refine ⟨⟨_, hraw, ?_⟩, by simpa using hne⟩
    rw [Text.trim_blank_append hx, Text.trim_append_blank hy, htrimmed.trim_eq]

/-- Slashes at the end are told apart from what stands before them. -/
theorem eq_of_append_replicate {a b : Bytes} {k j : Nat} (ha : a.getLast? ≠ some 0x2F)
    (hb : b.getLast? ≠ some 0x2F)
    (h : a ++ List.replicate k 0x2F = b ++ List.replicate j 0x2F) : a = b := by
  have hlast {x y : Bytes} {i : Nat} (hx : x.getLast? ≠ some 0x2F) :
      x ≠ y ++ List.replicate (i + 1) 0x2F := by
    rintro rfl
    rw [List.replicate_succ', ← List.append_assoc, List.getLast?_concat] at hx
    exact hx rfl
  induction k generalizing j with
  | zero =>
    rw [List.replicate_zero, List.append_nil] at h
    cases j with
    | zero => rwa [List.replicate_zero, List.append_nil] at h
    | succ j => exact absurd h (hlast ha)
  | succ k ih =>
    cases j with
    | zero =>
      rw [List.replicate_zero, List.append_nil] at h
      exact absurd h.symm (hlast hb)
    | succ j =>
      rw [List.replicate_succ', List.replicate_succ', ← List.append_assoc, ← List.append_assoc] at h
      exact ih (List.append_cancel_right h)

theorem parent_iff {directory : Bytes} (h : path.head? = some 0x2F) :
    Parent path directory ↔ directory = (cutLast path).1 := by
  obtain ⟨front, k, n, hn, hlast, hpath, hcut⟩ := cutLast_eq h
  rw [hcut]
  constructor
  · rintro ⟨front', k', n', hpath', hn', hlast', rfl⟩
    rw [hpath, slash_cons_replicate, slash_cons_replicate, ← List.append_assoc,
      ← List.append_assoc] at hpath'
    have hfront := eq_of_append_replicate hlast hlast' (FileTree.append_slash_inj hn hn' hpath').1
    rw [hfront]
  · rintro rfl
    exact ⟨front, k, n, hpath, hn, hlast, rfl⟩

/-- The path that is resolved to the directory to serve. -/
def servedPath (base : Place) (s : Settings) : Bytes :=
  match s.givenInitialFile with
  | some file => (cutLast (absolutePath base file)).1
  | none => Utf8.encode s.directory

theorem serves_iff : s.Serves base path ↔ path = servedPath base s := by
  cases hf : s.givenInitialFile with
  | none =>
    have hnone : ∀ file, ¬ s.Gives file := fun file h => by
      rw [← givenInitialFile_eq_some_iff, hf] at h
      cases h
    rw [servedPath, hf]
    constructor
    · rintro (⟨hgives, -⟩ | -)
      · exact absurd hgives (hnone _)
      · rfl
    · rintro rfl
      exact .ofDirectory hnone
  | some file =>
    have hgives : s.Gives file := givenInitialFile_eq_some_iff.mp hf
    rw [servedPath, hf, ← parent_iff (absolutePath_cases base file).1]
    constructor
    · rintro (⟨hgives', hp⟩ | hnone)
      · rw [← givenInitialFile_eq_some_iff, hf] at hgives'
        cases hgives'
        exact hp
      · exact absurd hgives (hnone file)
    · exact fun hp => .ofFile hgives hp

theorem resolveSource_path {name : Option Text} (h : resolveSource t base s = .ok (path, name)) :
    path = servedPath base s := by
  cases hf : s.givenInitialFile with
  | none =>
    rw [resolveSource, hf] at h
    rw [servedPath, hf]
    cases h
    rfl
  | some file =>
    rw [resolveSource, hf] at h
    rw [servedPath, hf]
    obtain ⟨⟨directory, n⟩, hfile, he⟩ := Except.map_eq_ok_iff.mp h
    cases he
    rw [resolveInitialFile] at hfile
    dsimp only at hfile
    split at hfile
    · cases hfile
    · cases hfile
    · split at hfile
      · cases hfile
        rfl
      · cases hfile

end Settings

end SiteGateway
