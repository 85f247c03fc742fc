import Mathlib.Data.List.TakeWhile
import SiteGateway.Files.Name
import SiteGateway.Proofs.Files.Walk
import SiteGateway.Site.Root

/-!
# Paths and their names

The names of a path are its pieces between slashes (`names_append_slash`), so the path of a
canonical place with one more name leads to what stands at the place under the name
(`Canonical.locate_join`), and so does every path that led there before (`exists_leads`).
-/

namespace SiteGateway

namespace SiteRoot

/-- Between a path and a name there is at most a slash. -/
theorem exists_join_eq (path : Bytes) :
    ∃ slash, (∀ b ∈ slash, b = 0x2F) ∧ ∀ n, join path n = path ++ (slash ++ n) := by
  by_cases h : (path.isEmpty || path.getLast? == some 0x2F) = true
  · exact ⟨[], by simp, fun n => if_pos h⟩
  · exact ⟨[0x2F], by simp, fun n => if_neg h⟩

theorem joinAll_concat (path : Bytes) (ns : List Bytes) (n : Bytes) :
    joinAll path (ns ++ [n]) = join (joinAll path ns) n := List.foldl_concat ..

theorem joinAll_eq_append (path : Bytes) (ns : List Bytes) :
    ∃ rest, joinAll path ns = path ++ rest ∧ ∀ b ∈ rest, b = 0x2F ∨ ∃ n ∈ ns, b ∈ n := by
  induction ns generalizing path with
  | nil => exact ⟨[], (List.append_nil path).symm, by simp⟩
  | cons n ns ih =>
    obtain ⟨slash, hslash, hjoin⟩ := exists_join_eq path
    obtain ⟨rest, hrest, hmem⟩ := ih (join path n)
    refine ⟨slash ++ n ++ rest, ?_, fun b hb => ?_⟩
    · rw [joinAll, List.foldl_cons, ← joinAll, hrest, hjoin]
      simp
    · rcases List.mem_append.mp hb with hb | hb
      · rcases List.mem_append.mp hb with hb | hb
        · exact .inl (hslash b hb)
        · exact .inr ⟨n, by simp, hb⟩
      · rcases hmem b hb with rfl | ⟨m, hm, hb⟩
        · exact .inl rfl
        · exact .inr ⟨m, List.mem_cons_of_mem n hm, hb⟩

end SiteRoot

namespace FileTree
variable {t : FileTree} {base p q : Place} {path a b : Bytes} {n : FileName} {k : Nat}

/-! ### Names -/

theorem names_append_slash (a b : Bytes) : names (a ++ 0x2F :: b) = names a ++ names b := by
  induction a with
  | nil => simp [names]
  | cons c a ih =>
    rw [List.cons_append, names, names, ih]
    split
    · rfl
    · cases h : names a with
      | nil =>
        have hne : names a ≠ [] := by
          cases a with
          | nil => simp [names]
          | cons c a => rw [names]; split <;> (try split) <;> simp
        exact absurd h hne
      | cons m ns => rfl

theorem names_of_noSlash (h : 0x2F ∉ n) : names n = [n] := by
  induction n with
  | nil => rfl
  | cons c n ih =>
    rw [names, if_neg (by rintro rfl; simp at h), ih fun hn => h (List.mem_cons_of_mem _ hn)]

/-- Joining puts a name in the place of an empty last one, or behind the last one. -/
theorem names_join (path : Bytes) (hn : 0x2F ∉ n) :
    names (SiteRoot.join path n) = names path ++ [n] ∨
      ∃ front, names path = front ++ [[]] ∧ names (SiteRoot.join path n) = front ++ [n] := by
  rw [SiteRoot.join]
  split
  next h =>
    right
    rcases Bool.or_eq_true_iff.mp h with h | h
    · rw [List.isEmpty_iff.mp h]
      exact ⟨[], rfl, names_of_noSlash hn⟩
    · obtain ⟨front, rfl⟩ := List.getLast?_eq_some_iff.mp (eq_of_beq h)
      refine ⟨names front, names_append_slash front [], ?_⟩
      rw [List.append_assoc, List.singleton_append, names_append_slash, names_of_noSlash hn]
  next =>
    left
    rw [names_append_slash, names_of_noSlash hn]

theorem head?_join (path : Bytes) (hn : 0x2F ∉ n) :
    (SiteRoot.join path n).head? = some 0x2F ↔ path.head? = some 0x2F := by
  cases path with
  | nil => exact iff_of_false (fun h => hn (List.mem_of_head? h)) nofun
  | cons b path =>
    obtain ⟨slash, -, hjoin⟩ := SiteRoot.exists_join_eq (b :: path)
    rw [hjoin]
    rfl

theorem append_slash_inj {m : FileName} (hn : 0x2F ∉ n) (hm : 0x2F ∉ m)
    (h : a ++ 0x2F :: n = b ++ 0x2F :: m) : a = b ∧ n = m := by
  have hnames := congrArg names h
  rw [names_append_slash, names_append_slash, names_of_noSlash hn, names_of_noSlash hm] at hnames
  obtain ⟨-, hnm⟩ := List.append_inj' hnames rfl
  obtain rfl := List.singleton_inj.mp hnm
  exact ⟨List.append_cancel_right h, rfl⟩

theorem names_append_flatMap_append (hp : ∀ m ∈ p, 0x2F ∉ m) (a b : Bytes) :
    names (a ++ (p.flatMap (0x2F :: ·) ++ 0x2F :: b)) = names a ++ (p ++ names b) := by
  induction p generalizing a with
  | nil => exact names_append_slash a b
  | cons m p ih =>
    rw [List.flatMap_cons, List.cons_append, List.cons_append, names_append_slash,
      List.append_assoc, ih (fun m hm => hp m (by simp [hm])), names_of_noSlash (hp m (by simp))]
    rfl

/-! ### Where paths lead -/

theorem locate_of_openable (ho : Openable path) (hne : path ≠ []) :
    t.locate base path =
      t.walk linkLimit (if path.head? = some 0x2F then [] else base) (names path) := by
  have hlen : ¬ path.length > 4095 := Nat.not_lt.mpr ho.2
  rw [locate, if_neg (by simpa using ho.1), if_neg (by simpa using hne), if_neg hlen]

theorem kind_of_slash {e : FileEntry} (h : t.kind base (path ++ [0x2F]) = .ok e) :
    e = .directory := by
  obtain ⟨q, hq, he⟩ := kind_eq_ok_iff.mp h
  obtain ⟨-, -, hw⟩ := locate_eq_ok_iff.mp hq
  rw [names_append_slash] at hw
  obtain ⟨m, -, hm⟩ := walk_append hw
  have hd := directory_of_walk_cons hm
  have hmq : t.walk linkLimit m (List.replicate 1 [] ++ []) = .ok q := hm
  obtain ⟨f, hf⟩ := exists_walkWith t linkLimit
  rw [walk_replicate hd, hf, walkWith] at hmq
  cases hmq
  rw [hd] at he
  exact (Option.some.inj he).symm

/-- The path of a canonical place with one more name. -/
theorem Canonical.join_pathOf (hp : Canonical t p) (n : FileName) :
    SiteRoot.join (pathOf p) n = p.flatMap (0x2F :: ·) ++ 0x2F :: n := by
  rcases List.eq_nil_or_concat p with rfl | ⟨q, m, rfl⟩
  · rfl
  rw [List.concat_eq_append] at hp ⊢
  have hm : m ≠ [] := (hp.plain (n := m) (by simp)).1
  have hs : 0x2F ∉ m := hp.noSlash m (by simp)
  have hpath : pathOf (q ++ [m]) = q.flatMap (0x2F :: ·) ++ 0x2F :: m := by
    simp [pathOf]
  rcases List.eq_nil_or_concat m with rfl | ⟨m, c, rfl⟩
  · exact absurd rfl hm
  rw [List.concat_eq_append] at hs hpath ⊢
  have hc : c ≠ 0x2F := by
    rintro rfl
    simp at hs
  have hlast : (pathOf (q ++ [m ++ [c]])).getLast? = some c := by
    rw [hpath, ← List.cons_append, ← List.append_assoc, List.getLast?_concat]
  have hne : (pathOf (q ++ [m ++ [c]])).isEmpty = false := by
    rw [hpath]; simp
  rw [SiteRoot.join, hlast, hne, if_neg (by simpa using hc), hpath]
  simp

/-- The path of a place with one more name leads from the place to what the name leads to. -/
theorem Canonical.locate_join (hp : Canonical t p) (hd : t.entry? p = some .directory)
    (hn : 0x2F ∉ n) (ho : Openable (SiteRoot.join (pathOf p) n)) :
    t.locate base (SiteRoot.join (pathOf p) n) = t.walk linkLimit p [n] := by
  have htop : t.entry? [] = some .directory := rfl
  have hhead : (p.flatMap (0x2F :: ·) ++ 0x2F :: n).head? = some 0x2F := by
    cases p <;> rfl
  rw [hp.join_pathOf] at ho ⊢
  have hnames : names (p.flatMap (0x2F :: ·) ++ 0x2F :: n) = List.replicate 1 [] ++ (p ++ [n]) := by
    have := names_append_flatMap_append hp.noSlash [] n
    rwa [names_of_noSlash hn] at this
  rw [locate_of_openable ho (by simp), if_pos hhead, hnames, walk_replicate htop,
    Canonical.walk_append (by simpa using hp)]
  rfl

/-- Under a name in a canonical directory stands what is at `q`, links followed. -/
structure Leads (t : FileTree) (p : Place) (n : FileName) (q : Place) : Prop where
  canonical : t.Canonical p
  directory : t.entry? p = some .directory
  walk : t.walk linkLimit p [n] = .ok q

namespace Leads

theorem canonical_end (h : Leads t p n q) (hn : 0x2F ∉ n) : t.Canonical q :=
  Canonical.of_walk h.canonical (by simpa using hn) h.walk

theorem locate_join (h : Leads t p n q) (hn : 0x2F ∉ n)
    (ho : Openable (SiteRoot.join (pathOf p) n)) :
    t.locate base (SiteRoot.join (pathOf p) n) = .ok q :=
  (h.canonical.locate_join h.directory hn ho).trans h.walk

end Leads

/-- What a path leads to stands under its last name in the directory that the rest leads to. -/
theorem exists_leads (h : t.locate base path = .ok q) (hhead : path.head? = some 0x2F)
    (hn : 0x2F ∉ n) (hpath : path = a ++ 0x2F :: (List.replicate k 0x2F ++ n)) :
    ∃ p, Leads t p n q ∧ t.locate base (if a.isEmpty then [0x2F] else a) = .ok p := by
  obtain ⟨ho, -, hw⟩ := locate_eq_ok_iff.mp h
  have hslashes : names (List.replicate k 0x2F ++ n) = List.replicate k [] ++ [n] := by
    clear hpath
    induction k with
    | zero => exact names_of_noSlash hn
    | succ k ih => rw [List.replicate_succ, List.cons_append, names, if_pos rfl, ih]; rfl
  rw [if_pos hhead, hpath, names_append_slash, hslashes] at hw
  obtain ⟨p, hp, hq⟩ := walk_append hw
  have hd : t.entry? p = some .directory := by
    cases k <;> exact directory_of_walk_cons hq
  rw [walk_replicate hd] at hq
  refine ⟨p, ⟨Canonical.of_walk .top (fun _ => noSlash_of_mem_names) hp, hd, hq⟩, ?_⟩
  cases a with
  | nil =>
    have htop : t.entry? [] = some .directory := rfl
    have hw₁ (j : Nat) : t.walk linkLimit [] (List.replicate j [] ++ []) = .ok [] := by
      rw [walk_replicate htop]; rfl
    obtain rfl : p = [] := by
      have := hp.symm.trans (hw₁ 1)
      exact Except.ok.inj this
    exact locate_eq_ok_iff.mpr ⟨⟨by decide, by decide⟩, by simp, hw₁ 2⟩
  | cons c a =>
    have hc : (c :: a).head? = some 0x2F := by rwa [hpath] at hhead
    change t.locate base (c :: a) = .ok p
    refine locate_eq_ok_iff.mpr ⟨⟨fun hm => ho.1 ?_, ?_⟩, by simp, by rw [if_pos hc]; exact hp⟩
    · rw [hpath]
      exact List.mem_append_left _ hm
    · have := ho.2
      rw [hpath, List.length_append] at this
      exact Nat.le_trans (Nat.le_add_right ..) this

end FileTree

/-! ### Names of files -/

namespace FileName
variable {n x e : Bytes}

theorem cutExtension?_eq_some_iff :
    cutExtension? n = some (x, e) ↔ x ≠ [] ∧ 0x2E ∉ e ∧ n = x ++ 0x2E :: e := by
  constructor
  · intro h
    unfold cutExtension? at h
    dsimp only at h
    split at h
    · cases h
    rename_i hne
    obtain ⟨rfl, rfl⟩ := Prod.mk.inj (Option.some.inj h)
    have hfree : 0x2E ∉ n.reverse.takeWhile (· ≠ 0x2E) := fun hm => by
      simpa using List.mem_takeWhile_imp hm
    refine ⟨by simpa using hne, by simpa using hfree, ?_⟩
    have hback := List.takeWhile_append_dropWhile (p := (· ≠ 0x2E)) (l := n.reverse)
    generalize n.reverse.takeWhile (· ≠ 0x2E) = after at hne hback
    cases hrest : n.reverse.dropWhile (· ≠ 0x2E) with
    | nil =>
      rw [hrest, List.append_nil] at hback
      simp [hback] at hne
    | cons c more =>
      have hc : c = 0x2E := by
        have := List.head?_dropWhile_not (· ≠ 0x2E) n.reverse
        rw [hrest] at this
        simpa using this
      subst hc
      rw [hrest] at hback
      rw [← hback, List.drop_append]
      have hn := congrArg List.reverse hback
      rw [List.reverse_reverse] at hn
      rw [← hn]
      simp
  · rintro ⟨hx, he, rfl⟩
    have hstop : ((x ++ 0x2E :: e).reverse.takeWhile (· ≠ 0x2E)) = e.reverse := by
      rw [List.reverse_append, List.reverse_cons, List.append_assoc, List.singleton_append,
        List.takeWhile_append_of_pos]
      · simp
      · intro c hc
        have : c ≠ 0x2E := fun h => he (h ▸ List.mem_reverse.mp hc)
        simpa using this
    have hdrop : (x ++ 0x2E :: e).reverse.drop (e.length + 1) = x.reverse := by
      simp [List.drop_append]
    simp only [cutExtension?, hstop, List.length_reverse, hdrop, List.reverse_reverse]
    simp [hx]

/-- What stands behind the last dot of a name; nothing if there is no dot but at its front. -/
inductive Extension : FileName → Bytes → Prop
  | dotted {x e : Bytes} (hx : x ≠ []) (he : 0x2E ∉ e) : Extension (x ++ 0x2E :: e) e
  | none {n : FileName} (h : 0x2E ∉ n.tail) : Extension n []

theorem extension_iff : Extension n e ↔ e = (extension? n).getD [] := by
  rw [extension?]
  cases hcut : cutExtension? n with
  | some xe =>
    obtain ⟨x, e'⟩ := xe
    obtain ⟨hx, he, rfl⟩ := cutExtension?_eq_some_iff.mp hcut
    constructor
    · intro h
      generalize hn : x ++ 0x2E :: e' = n at h hcut
      cases h with
      | dotted hx₁ he₁ =>
        rw [cutExtension?_eq_some_iff.mpr ⟨hx₁, he₁, rfl⟩] at hcut
        cases hcut
        rfl
      | none h =>
        rw [← hn, List.tail_append_of_ne_nil hx] at h
        exact absurd (List.mem_append_right _ List.mem_cons_self) h
    · rintro rfl
      exact .dotted hx he
  | none =>
    have hfree : 0x2E ∉ n.tail := by
      intro hdot
      cases n with
      | nil => cases hdot
      | cons c n =>
        obtain ⟨b, a, hba, hb⟩ := List.eq_append_cons_of_mem (List.mem_reverse.mpr hdot)
        have hn : c :: n = (c :: a.reverse) ++ 0x2E :: b.reverse := by
          have := congrArg List.reverse hba
          simp only [List.tail_cons, List.reverse_reverse] at this
          rw [this]
          simp
        rw [hn, cutExtension?_eq_some_iff.mpr ⟨by simp, by simpa using hb, rfl⟩] at hcut
        cases hcut
    constructor
    · intro h
      cases h with
      | dotted hx he =>
        rw [cutExtension?_eq_some_iff.mpr ⟨hx, he, rfl⟩] at hcut
        cases hcut
      | none => rfl
    · rintro rfl
      exact .none hfree

end FileName

/-- The last name of a path counts, unless it is none or says to stay or to go up. -/
theorem FileName.ofPath?_append_slash {n : FileName} (a : Bytes) (hn : 0x2F ∉ n) (h₀ : n ≠ [])
    (h₁ : n ≠ [0x2E]) : ofPath? (a ++ 0x2F :: n) = if n = [0x2E, 0x2E] then none else some n := by
  have hlast : ((FileTree.names (a ++ 0x2F :: n)).filter fun n => n ≠ [] ∧ n ≠ [0x2E]).getLast? =
      some n := by
    rw [FileTree.names_append_slash, FileTree.names_of_noSlash hn, List.filter_append]
    simp [h₀, h₁]
  rw [ofPath?, hlast]

end SiteGateway
