import SiteGateway.Files.Tree
import SiteGateway.Proofs.Except

/-!
# Where a path leads

A place is canonical when every name of it is a plain one, stands in a directory and is no link
(`Canonical`). A walk from a canonical place ends at a canonical place (`Canonical.of_walk`), and
from the top its own names lead straight back to it, through no link at all
(`Canonical.walk_append`). So the path that was found for a directory leads to what the path it was
found by led to.
-/

namespace SiteGateway

namespace FileTree
variable {t : FileTree} {base p q : Place} {path content : Bytes} {modified : Instant}
  {n : FileName} {k : Nat}

/-! ### What a path leads to -/

theorem kind_eq_ok_iff {e : FileEntry} :
    t.kind base path = .ok e ↔ ∃ p, t.locate base path = .ok p ∧ t.entry? p = some e := by
  unfold kind
  refine Except.bind_eq_ok_iff.trans (exists_congr fun p => and_congr_right fun _ => ?_)
  cases t.entry? p <;> simp

theorem isDirectory_iff : t.isDirectory base path = true ↔ t.kind base path = .ok .directory := by
  unfold isDirectory
  split <;> simp_all

theorem isFile_iff :
    t.isFile base path = true ↔ ∃ e, t.kind base path = .ok e ∧ e ≠ .directory := by
  unfold isFile
  split <;> simp_all

theorem isFile_eq_false_of_isDirectory (h : t.isDirectory base path = true) :
    t.isFile base path = false := by
  rw [isDirectory_iff] at h
  simp [isFile, h]

theorem list_of_isDirectory (h : t.isDirectory base path = true) :
    ∃ names, t.list base path = .ok names := by
  obtain ⟨p, hp, he⟩ := kind_eq_ok_iff.mp (isDirectory_iff.mp h)
  exact ⟨t.children p, Except.bind_eq_ok_iff.mpr ⟨p, hp, if_pos he⟩⟩

theorem kind_of_read (h : t.read base path = .ok (content, modified)) :
    t.kind base path = .ok (.file content modified) := by
  obtain ⟨e, he, h⟩ := Except.bind_eq_ok_iff.mp h
  cases e with
  | file => cases h; exact he
  | directory => cases h
  | link => cases h

theorem isDirectory_of_read (h : t.read base path = .ok (content, modified)) :
    t.isDirectory base path = false := by
  rw [isDirectory, kind_of_read h]

theorem isFile_of_read (h : t.read base path = .ok (content, modified)) :
    t.isFile base path = true := by
  rw [isFile, kind_of_read h]

/-! ### One name -/

/-- A name that is looked up in its directory. -/
def plainName (n : FileName) : Prop := n ≠ [] ∧ n ≠ [0x2E] ∧ n ≠ [0x2E, 0x2E] ∧ n.length ≤ 255

/-- The name leads from a directory to something that is no link. -/
structure Step (t : FileTree) (p : Place) (n : FileName) : Prop where
  directory : t.entry? p = some .directory
  plain : plainName n
  found : ∃ e, t.entry? (p ++ [n]) = some e ∧ ∀ target, e ≠ .link target

variable {f g : Place → List FileName → Except FileFault Place} {todo a b : List FileName}

theorem Step.walkWith_cons (h : Step t p n) :
    walkWith t f p (n :: todo) = walkWith t f (p ++ [n]) todo := by
  obtain ⟨hd, ⟨h₀, h₁, h₂, hl⟩, e, he, hn⟩ := h
  rw [walkWith, if_neg (by simp [hd]), if_neg (by simp [h₀, h₁]), if_neg h₂, if_neg (by omega), he]
  cases e with
  | link target => exact absurd rfl (hn target)
  | file c m => rfl
  | directory => rfl

/-- What the first name of a walk does: nothing, up, to a link, or a step down. -/
theorem walkWith_cons_eq_ok_iff :
    walkWith t f p (n :: todo) = .ok q ↔
      (t.entry? p = some .directory ∧ (n = [] ∨ n = [0x2E]) ∧ walkWith t f p todo = .ok q) ∨
      (t.entry? p = some .directory ∧ n = [0x2E, 0x2E] ∧ walkWith t f p.dropLast todo = .ok q) ∨
      (t.entry? p = some .directory ∧ plainName n ∧ ∃ target,
        t.entry? (p ++ [n]) = some (.link target) ∧
          f (if target.head? = some 0x2F then [] else p) (names target ++ todo) = .ok q) ∨
      (Step t p n ∧ walkWith t f (p ++ [n]) todo = .ok q) := by
  constructor
  · intro h
    rw [walkWith] at h
    split at h
    · cases h
    · rename_i hd
      have hd : t.entry? p = some .directory := by simpa using hd
      split at h
      · rename_i hn
        exact .inl ⟨hd, hn, h⟩
      · rename_i h₀
        split at h
        · rename_i hn
          exact .inr (.inl ⟨hd, hn, h⟩)
        · rename_i h₂
          split at h
          · cases h
          · rename_i hl
            have hn : plainName n := ⟨fun h => h₀ (.inl h), fun h => h₀ (.inr h), h₂, by omega⟩
            split at h
            · cases h
            · rename_i target he
              exact .inr (.inr (.inl ⟨hd, hn, target, he, h⟩))
            · rename_i e hlink he
              refine .inr (.inr (.inr ⟨⟨hd, hn, e, he, ?_⟩, h⟩))
              rintro target rfl
              exact hlink target rfl
  · rintro (⟨hd, hn, h⟩ | ⟨hd, rfl, h⟩ | ⟨hd, ⟨h₀, h₁, h₂, hl⟩, target, he, h⟩ | ⟨hs, h⟩)
    · rwa [walkWith, if_neg (by simp [hd]), if_pos hn]
    · rwa [walkWith, if_neg (by simp [hd]), if_neg (by simp), if_pos rfl]
    · rwa [walkWith, if_neg (by simp [hd]), if_neg (by simp [h₀, h₁]), if_neg h₂,
        if_neg (by omega), he]
    · rwa [hs.walkWith_cons]

/-! ### Walks -/

/-- What is reached when links are followed by `f` is reached when `g` follows them as far. -/
theorem walkWith_mono (hfg : ∀ p l r, f p l = .ok r → g p l = .ok r)
    (h : walkWith t f p todo = .ok q) : walkWith t g p todo = .ok q := by
  induction todo generalizing p with
  | nil => exact h
  | cons n todo ih =>
    rw [walkWith_cons_eq_ok_iff] at h ⊢
    rcases h with ⟨hd, hn, h⟩ | ⟨hd, hn, h⟩ | ⟨hd, hn, target, he, h⟩ | ⟨hs, h⟩
    · exact .inl ⟨hd, hn, ih h⟩
    · exact .inr (.inl ⟨hd, hn, ih h⟩)
    · exact .inr (.inr (.inl ⟨hd, hn, target, he, hfg _ _ _ h⟩))
    · exact .inr (.inr (.inr ⟨hs, ih h⟩))

theorem walk_succ (h : t.walk k p todo = .ok q) : t.walk (k + 1) p todo = .ok q := by
  induction k generalizing p todo q with
  | zero => exact walkWith_mono (by simp) h
  | succ k ih => exact walkWith_mono (fun _ _ _ h => ih h) h

theorem walkWith_append
    (hf : ∀ p l r, f p (l ++ b) = .ok r → ∃ m, f p l = .ok m ∧ walkWith t f m b = .ok r)
    (h : walkWith t f p (a ++ b) = .ok q) :
    ∃ m, walkWith t f p a = .ok m ∧ walkWith t f m b = .ok q := by
  induction a generalizing p with
  | nil => exact ⟨p, rfl, h⟩
  | cons n a ih =>
    simp only [List.cons_append, walkWith_cons_eq_ok_iff] at h ⊢
    rcases h with ⟨hd, hn, h⟩ | ⟨hd, hn, h⟩ | ⟨hd, hn, target, he, h⟩ | ⟨hs, h⟩
    · obtain ⟨m, hm, hq⟩ := ih h
      exact ⟨m, .inl ⟨hd, hn, hm⟩, hq⟩
    · obtain ⟨m, hm, hq⟩ := ih h
      exact ⟨m, .inr (.inl ⟨hd, hn, hm⟩), hq⟩
    · rw [← List.append_assoc] at h
      obtain ⟨m, hm, hq⟩ := hf _ _ _ h
      exact ⟨m, .inr (.inr (.inl ⟨hd, hn, target, he, hm⟩)), hq⟩
    · obtain ⟨m, hm, hq⟩ := ih h
      exact ⟨m, .inr (.inr (.inr ⟨hs, hm⟩)), hq⟩

/-- A walk can be cut anywhere; what the first part leaves of the links is enough for the second. -/
theorem walk_append (h : t.walk k p (a ++ b) = .ok q) :
    ∃ m, t.walk k p a = .ok m ∧ t.walk k m b = .ok q := by
  induction k generalizing p a q with
  | zero => exact walkWith_append (by simp) h
  | succ k ih =>
    refine walkWith_append (fun p l r h => ?_) h
    obtain ⟨m, hm, hr⟩ := ih h
    exact ⟨m, hm, walk_succ hr⟩

/-- The second list has the names of the first but for some that say to stay. -/
inductive Thins : List FileName → List FileName → Prop
  | nil : Thins [] []
  | keep (n : FileName) {a b : List FileName} (h : Thins a b) : Thins (n :: a) (n :: b)
  | drop {n : FileName} {a b : List FileName} (hn : n = [] ∨ n = [0x2E]) (h : Thins a b) :
      Thins (n :: a) b

theorem Thins.append_left (h : Thins a b) (l : List FileName) : Thins (l ++ a) (l ++ b) := by
  induction l with
  | nil => exact h
  | cons n l ih => exact .keep n ih

theorem thins_filter (l : List FileName) :
    Thins l (l.filter fun n => n ≠ [] ∧ n ≠ [0x2E]) := by
  induction l with
  | nil => exact .nil
  | cons n l ih =>
    rw [List.filter_cons]
    split
    next => exact .keep n ih
    next hn => exact .drop (by simpa [or_iff_not_imp_left] using hn) ih

theorem Thins.walkWith (h : Thins a b)
    (hfg : ∀ p l m r, Thins l m → f p l = .ok r → g p m = .ok r)
    (hw : walkWith t f p a = .ok q) : walkWith t g p b = .ok q := by
  induction h generalizing p with
  | nil => exact hw
  | keep n h ih =>
    rw [walkWith_cons_eq_ok_iff] at hw ⊢
    rcases hw with ⟨hd, hn, hw⟩ | ⟨hd, hn, hw⟩ | ⟨hd, hn, target, he, hw⟩ | ⟨hs, hw⟩
    · exact .inl ⟨hd, hn, ih hw⟩
    · exact .inr (.inl ⟨hd, hn, ih hw⟩)
    · exact .inr (.inr (.inl ⟨hd, hn, target, he, hfg _ _ _ _ (h.append_left _) hw⟩))
    · exact .inr (.inr (.inr ⟨hs, ih hw⟩))
  | drop hn h ih =>
    -- a name that says to stay is neither `..` nor looked up
    rcases walkWith_cons_eq_ok_iff.mp hw with
      ⟨-, -, hw⟩ | ⟨-, rfl, -⟩ | ⟨-, hp, -⟩ | ⟨hs, -⟩
    · exact ih hw
    · exact absurd hn (by decide)
    · exact absurd hn (not_or.mpr ⟨hp.1, hp.2.1⟩)
    · exact absurd hn (not_or.mpr ⟨hs.plain.1, hs.plain.2.1⟩)

/-- What a walk reaches is reached without the names that say to stay. -/
theorem Thins.walk (h : Thins a b) (hw : t.walk k p a = .ok q) : t.walk k p b = .ok q := by
  induction k generalizing p a b q with
  | zero => exact h.walkWith (by simp) hw
  | succ k ih => exact h.walkWith (fun _ _ _ _ h hw => ih h hw) hw

/-- A walk of any length follows its names in one way. -/
theorem exists_walkWith (t : FileTree) (k : Nat) : ∃ f, t.walk k = walkWith t f := by
  cases k <;> exact ⟨_, rfl⟩

theorem directory_of_walk_cons (h : t.walk k p (n :: todo) = .ok q) :
    t.entry? p = some .directory := by
  obtain ⟨f, hf⟩ := exists_walkWith t k
  rw [hf] at h
  rcases walkWith_cons_eq_ok_iff.mp h with ⟨hd, -⟩ | ⟨hd, -⟩ | ⟨hd, -⟩ | ⟨hs, -⟩
  · exact hd
  · exact hd
  · exact hd
  · exact hs.directory

theorem walk_replicate (hp : t.entry? p = some .directory) (j : Nat) :
    t.walk k p (List.replicate j [] ++ todo) = t.walk k p todo := by
  obtain ⟨f, hf⟩ := exists_walkWith t k
  rw [hf]
  induction j with
  | zero => rfl
  | succ j ih =>
    rw [List.replicate_succ, List.cons_append, walkWith, if_neg (by simp [hp]), if_pos (.inl rfl),
      ih]

/-! ### Canonical places -/

/-- Every name of the place is a step, and none holds a slash. -/
structure Canonical (t : FileTree) (p : Place) : Prop where
  step : ∀ q n l, p = q ++ n :: l → Step t q n
  noSlash : ∀ n ∈ p, 0x2F ∉ n

namespace Canonical

theorem top : Canonical t [] := ⟨by simp, by simp⟩

theorem concat (hp : Canonical t p) (h : Step t p n) (hn : 0x2F ∉ n) : Canonical t (p ++ [n]) := by
  constructor
  · intro q m l he
    rcases List.eq_nil_or_concat l with rfl | ⟨l, x, rfl⟩
    · obtain ⟨hq, he⟩ := List.append_inj' he rfl
      obtain rfl := List.singleton_inj.mp he
      exact hq ▸ h
    · rw [List.concat_eq_append, ← List.cons_append, ← List.append_assoc] at he
      exact hp.step q m l (List.append_inj_left' he rfl)
  · intro m hm
    rcases List.mem_append.mp hm with hm | hm
    · exact hp.noSlash m hm
    · exact List.mem_singleton.mp hm ▸ hn

theorem of_append (h : Canonical t (p ++ q)) : Canonical t p :=
  ⟨fun r n l he => h.step r n (l ++ q) (by simp [he]), fun n hn => h.noSlash n (by simp [hn])⟩

theorem dropLast (h : Canonical t p) : Canonical t p.dropLast := by
  rcases List.eq_nil_or_concat p with rfl | ⟨q, n, rfl⟩
  · exact top
  · rw [List.concat_eq_append] at h ⊢
    rw [List.dropLast_concat]
    exact h.of_append

theorem ne_link (h : Canonical t p) (target : Bytes) : t.entry? p ≠ some (.link target) := by
  rcases List.eq_nil_or_concat p with rfl | ⟨q, n, rfl⟩
  · rw [ entry?]; simp
  · rw [List.concat_eq_append] at h ⊢
    obtain ⟨e, he, hl⟩ := (h.step q n [] rfl).found
    rw [he]
    simpa using hl target

theorem plain (h : Canonical t p) (hn : n ∈ p) : plainName n := by
  obtain ⟨q, l, rfl⟩ := List.append_of_mem hn
  exact (h.step q n l rfl).plain

/-- Its own names lead to a canonical place. -/
theorem walk_append (h : Canonical t (p ++ q)) :
    t.walk k p (q ++ todo) = t.walk k (p ++ q) todo := by
  induction q generalizing p with
  | nil => simp
  | cons n q ih =>
    have hs : Step t p n := h.step p n q rfl
    have hc : Canonical t (p ++ [n] ++ q) := by simpa using h
    have hw : t.walk k p (n :: (q ++ todo)) = t.walk k (p ++ [n]) (q ++ todo) := by
      cases k <;> exact hs.walkWith_cons
    rw [List.cons_append, hw, ih hc]
    simp

end Canonical

theorem noSlash_of_mem_names : n ∈ names path → 0x2F ∉ n := by
  induction path generalizing n with
  | nil =>
    intro hn
    obtain rfl := List.mem_singleton.mp hn
    simp
  | cons b path ih =>
    rw [names]
    split
    · intro hn
      rcases List.mem_cons.mp hn with rfl | hn
      · simp
      · exact ih hn
    · rename_i hb
      split
      · rename_i m ns he
        intro hn
        rcases List.mem_cons.mp hn with rfl | hn
        · have := ih (n := m) (by simp [he])
          simp [Ne.symm hb, this]
        · exact ih (by simp [he, hn])
      · intro hn
        obtain rfl := List.mem_singleton.mp hn
        simp [Ne.symm hb]

theorem Canonical.of_walkWith
    (hf : ∀ p l r, Canonical t p → (∀ n ∈ l, 0x2F ∉ n) → f p l = .ok r → Canonical t r)
    (hp : Canonical t p) (hn : ∀ n ∈ todo, 0x2F ∉ n) (h : walkWith t f p todo = .ok q) :
    Canonical t q := by
  induction todo generalizing p with
  | nil => cases h; exact hp
  | cons n todo ih =>
    have hn' : ∀ m ∈ todo, 0x2F ∉ m := fun m hm => hn m (by simp [hm])
    rcases walkWith_cons_eq_ok_iff.mp h with
      ⟨-, -, h⟩ | ⟨-, -, h⟩ | ⟨-, -, target, -, h⟩ | ⟨hs, h⟩
    · exact ih hp hn' h
    · exact ih hp.dropLast hn' h
    · refine hf _ _ _ ?_ ?_ h
      · split
        · exact top
        · exact hp
      · intro m hm
        rcases List.mem_append.mp hm with hm | hm
        · exact noSlash_of_mem_names hm
        · exact hn' m hm
    · exact ih (hp.concat hs (hn n (by simp))) hn' h

theorem Canonical.of_walk (hp : Canonical t p) (hn : ∀ n ∈ todo, 0x2F ∉ n)
    (h : t.walk k p todo = .ok q) : Canonical t q := by
  induction k generalizing p todo q with
  | zero => exact Canonical.of_walkWith (by simp) hp hn h
  | succ k ih => exact Canonical.of_walkWith (fun p l r hp hl hr => ih hp hl hr) hp hn h

/-- A path that the system takes. -/
def Openable (path : Bytes) : Prop := 0 ∉ path ∧ path.length ≤ 4095

instance (path : Bytes) : Decidable (Openable path) := inferInstanceAs (Decidable (_ ∧ _))

theorem locate_eq_ok_iff :
    t.locate base path = .ok p ↔
      Openable path ∧ path ≠ [] ∧
        t.walk linkLimit (if path.head? = some 0x2F then [] else base) (names path) = .ok p := by
  unfold locate Openable
  split
  · simp_all
  · split
    · simp_all
    · split
      · rename_i hl
        simp only [reduceCtorEq, false_iff, not_and]
        intro hn
        omega
      · simp_all

theorem Canonical.of_locate (hb : Canonical t base) (h : t.locate base path = .ok p) :
    Canonical t p := by
  refine Canonical.of_walk ?_ (fun n => noSlash_of_mem_names) (locate_eq_ok_iff.mp h).2.2
  split
  · exact top
  · exact hb

theorem Canonical.read_of_isFile (hb : Canonical t base) (h : t.isFile base path = true) :
    ∃ c, t.read base path = .ok c := by
  obtain ⟨e, he, hd⟩ := isFile_iff.mp h
  obtain ⟨p, hp, hpe⟩ := kind_eq_ok_iff.mp he
  cases e with
  | file c m => exact ⟨(c, m), by rw [read, he]; rfl⟩
  | directory => exact absurd rfl hd
  | link target => exact absurd hpe ((hb.of_locate hp).ne_link target)

end FileTree

end SiteGateway
