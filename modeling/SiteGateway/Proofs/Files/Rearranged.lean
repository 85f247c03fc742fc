import Mathlib.Data.List.Nodup
import SiteGateway.Proofs.Files.Walk

/-!
# Trees in another order

A tree keeps its entries in some order, and a directory is read in that order. Where no place has
two entries, the order decides nothing else: a rearranged tree has the same entry at every place
(`Rearranged.entry?`), so every path leads to the same in both, and the names in a directory are the
same ones, each once (`Rearranged.children`).
-/

namespace SiteGateway

namespace FileTree
variable {t t' : FileTree} {p : Place} {n : FileName} {e : FileEntry}

/-- No place has two entries. -/
def OneEach (t : FileTree) : Prop := (t.entries.map (·.1)).Nodup

instance (t : FileTree) : Decidable t.OneEach := inferInstanceAs (Decidable (List.Nodup _))

/-- The second tree has the entries of the first in some order. -/
structure Rearranged (t t' : FileTree) : Prop where
  oneEach : t.OneEach
  perm : t'.entries.Perm t.entries

theorem OneEach.mem_entries_iff (h : t.OneEach) (hp : p ≠ []) :
    t.entry? p = some e ↔ (p, e) ∈ t.entries := by
  have hentry : t.entry? p = (t.entries.find? (·.1 == p)).map (·.2) := by
    cases p with
    | nil => exact absurd rfl hp
    | cons n p => rfl
  rw [hentry]
  constructor
  · intro he
    obtain ⟨⟨q, d⟩, hfind, rfl⟩ := Option.map_eq_some_iff.mp he
    obtain rfl : q = p := by simpa using List.find?_some hfind
    exact List.mem_of_find?_eq_some hfind
  · intro he
    have hsome : (t.entries.find? (·.1 == p)).isSome := List.find?_isSome.mpr ⟨_, he, by simp⟩
    obtain ⟨d, hd⟩ := Option.isSome_iff_exists.mp hsome
    have hkey : d.1 = p := by simpa using List.find?_some hd
    have heq : d = (p, e) := List.inj_on_of_nodup_map h (List.mem_of_find?_eq_some hd) he hkey
    rw [hd, heq]
    rfl

/-! ## The names in a directory -/

theorem mem_children_iff : n ∈ t.children p ↔ ∃ e, (p ++ [n], e) ∈ t.entries := by
  rw [children, List.mem_filterMap]
  constructor
  · rintro ⟨⟨q, e⟩, hq, h⟩
    dsimp only at h
    split at h
    · rename_i hp
      obtain ⟨front, rfl⟩ := List.getLast?_eq_some_iff.mp h
      rw [List.dropLast_concat] at hp
      exact ⟨e, hp.1 ▸ hq⟩
    · cases h
  · rintro ⟨e, he⟩
    exact ⟨_, he, by simp⟩

theorem OneEach.mem_children_iff (h : t.OneEach) :
    n ∈ t.children p ↔ (t.entry? (p ++ [n])).isSome = true := by
  rw [FileTree.mem_children_iff, Option.isSome_iff_exists]
  exact exists_congr fun e => (h.mem_entries_iff (by simp)).symm

theorem OneEach.nodup_children (h : t.OneEach) (p : Place) : (t.children p).Nodup := by
  have hchildren : t.children p = (t.entries.map (·.1)).filterMap fun q =>
      if q.dropLast = p ∧ q ≠ [] then q.getLast? else none := by
    rw [List.filterMap_map]
    rfl
  rw [hchildren]
  -- a place is its directory and its name, so entries of one name in one directory are the same
  refine List.Nodup.filterMap ?_ h
  intro q q' n hq hq'
  rw [Option.mem_def] at hq hq'
  split at hq
  · rename_i hp
    split at hq'
    · rename_i hp'
      rw [← List.dropLast_append_getLast? n hq, ← List.dropLast_append_getLast? n hq', hp.1, hp'.1]
    · cases hq'
  · cases hq

/-! ## What a rearranged tree keeps -/

/-- Where a walk goes depends on the entries at the places alone. -/
theorem walkWith_congr (h : ∀ q, t'.entry? q = t.entry? q)
    {f f' : Place → List FileName → Except FileFault Place} (hf : ∀ q ns, f' q ns = f q ns)
    (p : Place) (ns : List FileName) : walkWith t' f' p ns = walkWith t f p ns := by
  induction ns generalizing p with
  | nil => rfl
  | cons n ns ih => simp only [walkWith, h, ih, hf]

theorem walk_congr (h : ∀ q, t'.entry? q = t.entry? q) (k : Nat) (p : Place)
    (ns : List FileName) : t'.walk k p ns = t.walk k p ns := by
  induction k generalizing p ns with
  | zero => exact walkWith_congr h (fun _ _ => rfl) p ns
  | succ k ih => exact walkWith_congr h ih p ns

namespace Rearranged
variable (h : Rearranged t t')
include h

theorem oneEach_right : t'.OneEach := (h.perm.map _).nodup_iff.mpr h.oneEach

theorem entry? (p : Place) : t'.entry? p = t.entry? p := by
  by_cases hp : p = []
  · rw [hp]
    rfl
  · refine Option.ext fun e => ?_
    rw [h.oneEach_right.mem_entries_iff hp, h.oneEach.mem_entries_iff hp, h.perm.mem_iff]

theorem children (p : Place) : (t'.children p).Perm (t.children p) := h.perm.filterMap _

variable (base : Place) (path : Bytes)

theorem locate : t'.locate base path = t.locate base path := by
  simp only [FileTree.locate, walk_congr h.entry?]

theorem kind : t'.kind base path = t.kind base path := by
  simp only [FileTree.kind, h.locate, h.entry?]

theorem isDirectory : t'.isDirectory base path = t.isDirectory base path := by
  simp only [FileTree.isDirectory, h.kind]

theorem isFile : t'.isFile base path = t.isFile base path := by
  simp only [FileTree.isFile, h.kind]

theorem read : t'.read base path = t.read base path := by
  simp only [FileTree.read, h.kind]

end Rearranged

/-- The names in a directory, wherever the path to it leads from. -/
theorem list_of_locate {base : Place} {path : Bytes} (hp : t.locate base path = .ok p)
    (hd : t.entry? p = some .directory) : t.list base path = .ok (t.children p) :=
  Except.bind_eq_ok_iff.mpr ⟨p, hp, if_pos hd⟩

end FileTree

end SiteGateway
