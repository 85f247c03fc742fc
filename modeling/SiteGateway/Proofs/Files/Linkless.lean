import SiteGateway.Proofs.Files.Path

/-!
# Trees without links

Without symbolic links the names of a path are followed one after another (`Linkless.walk_eq`), and
names that an entry can have lead from a place to the place below it that they spell or nowhere
(`Linkless.locate_below`). Whether they lead there is a matter of the entries on the way: trees that
agree on them, the content of files aside, lead alike (`Linkless.alike_below`).
-/

namespace SiteGateway

namespace FileEntry

/-- The entry of a file without what is in the file. -/
def emptied : FileEntry → FileEntry
  | file _ _ => file [] ⟨0, 0⟩
  | e => e

def isLink : FileEntry → Bool
  | link _ => true
  | _ => false

end FileEntry

namespace FileTree

variable {t t' : FileTree} {base p q : Place} {path : Bytes} {n : FileName} {a b ns : List FileName}
  {k : Nat}

/-- A name that an entry of a directory can have. -/
structure EntryName (n : FileName) : Prop where
  ne_nil : n ≠ []
  ne_dot : n ≠ [0x2E]
  ne_dots : n ≠ [0x2E, 0x2E]
  noSlash : 0x2F ∉ n

instance (n : FileName) : Decidable (EntryName n) :=
  decidable_of_iff (n ≠ [] ∧ n ≠ [0x2E] ∧ n ≠ [0x2E, 0x2E] ∧ 0x2F ∉ n)
    ⟨fun ⟨h₀, h₁, h₂, h⟩ => ⟨h₀, h₁, h₂, h⟩, fun ⟨h₀, h₁, h₂, h⟩ => ⟨h₀, h₁, h₂, h⟩⟩

/-- A tree of files and directories, as a file system without symbolic links has them. -/
structure Linkless (t : FileTree) : Prop where
  noLink : ∀ e ∈ t.entries, e.2.isLink = false
  entryName : ∀ e ∈ t.entries, ∀ n ∈ e.1, EntryName n

instance (t : FileTree) : Decidable t.Linkless :=
  decidable_of_iff ((∀ e ∈ t.entries, e.2.isLink = false) ∧ ∀ e ∈ t.entries, ∀ n ∈ e.1, EntryName n)
    ⟨fun ⟨hl, hn⟩ => ⟨hl, hn⟩, fun ⟨hl, hn⟩ => ⟨hl, hn⟩⟩

theorem entry?_cons (n : FileName) (p : Place) :
    t.entry? (n :: p) = (t.entries.find? (·.1 == n :: p)).map (·.2) := rfl

theorem Linkless.ne_link (h : t.Linkless) (p : Place) (target : Bytes) :
    t.entry? p ≠ some (.link target) := by
  intro he
  cases p with
  | nil => cases he
  | cons n p =>
    obtain ⟨d, hd, hlink⟩ := Option.map_eq_some_iff.mp he
    have := h.noLink d (List.mem_of_find?_eq_some hd)
    rw [hlink] at this
    cases this

/-- Where one name leads when it is no link. -/
def advance (t : FileTree) (p : Place) (n : FileName) : Except FileFault Place :=
  if t.entry? p ≠ some .directory then .error .notDirectory
  else if n = [] ∨ n = [0x2E] then .ok p
  else if n = [0x2E, 0x2E] then .ok p.dropLast
  else if n.length > 255 then .error .nameTooLong
  else if t.entry? (p ++ [n]) = none then .error .notFound
  else .ok (p ++ [n])

/-- Without links, names are followed one after another. -/
theorem Linkless.walk_eq (h : t.Linkless) (k : Nat) (p : Place) (ns : List FileName) :
    t.walk k p ns = ns.foldlM t.advance p := by
  obtain ⟨f, hf⟩ := exists_walkWith t k
  rw [hf]
  induction ns generalizing p with
  | nil => rfl
  | cons n ns ih =>
    rw [walkWith, List.foldlM_cons, advance, ih, ih, ih]
    by_cases hd : t.entry? p = some .directory
    · rw [if_neg (not_not_intro hd), if_neg (not_not_intro hd)]
      split
      · rfl
      · split
        · rfl
        · split
          · rfl
          · cases he : t.entry? (p ++ [n]) with
            | none => rfl
            | some e =>
              cases e with
              | link target => exact absurd he (h.ne_link _ target)
              | file | directory => rfl
    · rw [if_pos hd, if_pos hd]
      rfl

theorem advance_of_entryName (hn : EntryName n) (h : t.advance p n = .ok q) : q = p ++ [n] := by
  rw [advance] at h
  split at h
  · cases h
  · rw [if_neg (not_or.mpr ⟨hn.ne_nil, hn.ne_dot⟩), if_neg hn.ne_dots] at h
    split at h
    · cases h
    · split at h
      · cases h
      · cases h
        rfl

theorem eq_of_foldlM_advance (hns : ∀ n ∈ ns, EntryName n) (h : ns.foldlM t.advance p = .ok q) :
    q = p ++ ns := by
  induction ns generalizing p with
  | nil => exact (Except.ok.inj h).symm.trans (List.append_nil p).symm
  | cons n ns ih =>
    rw [List.foldlM_cons] at h
    obtain ⟨m, hm, h⟩ := Except.bind_eq_ok_iff.mp h
    rw [ih (fun n hn => hns n (List.mem_cons_of_mem _ hn)) h,
      advance_of_entryName (hns n List.mem_cons_self) hm, List.append_assoc, List.singleton_append]

/-! ### Trees that agree -/

/-- The trees have the same at a place, but for the content of a file. -/
def SameKind (t t' : FileTree) (p : Place) : Prop :=
  (t'.entry? p).map FileEntry.emptied = (t.entry? p).map FileEntry.emptied

theorem SameKind.none_iff (h : SameKind t t' p) : t'.entry? p = none ↔ t.entry? p = none := by
  rw [← Option.map_eq_none_iff, h, Option.map_eq_none_iff]

theorem emptied_eq_directory_iff {e : FileEntry} : e.emptied = .directory ↔ e = .directory := by
  cases e <;> simp [FileEntry.emptied]

theorem SameKind.directory_iff (h : SameKind t t' p) :
    t'.entry? p = some .directory ↔ t.entry? p = some .directory := by
  have hmap : ∀ o : Option FileEntry,
      o = some .directory ↔ o.map FileEntry.emptied = some .directory := by
    intro o
    cases o with
    | none => exact iff_of_false nofun nofun
    | some e =>
      rw [Option.map_some, Option.some.injEq, Option.some.injEq, emptied_eq_directory_iff]
  rw [hmap, h, ← hmap]

theorem advance_congr (hp : SameKind t t' p) (hn : SameKind t t' (p ++ [n])) :
    t'.advance p n = t.advance p n := by
  simp only [advance, ne_eq, hp.directory_iff, hn.none_iff]

theorem foldlM_advance_congr (hns : ∀ n ∈ ns, EntryName n)
    (h : ∀ ms, ms <+: ns → SameKind t t' (p ++ ms)) :
    ns.foldlM t'.advance p = ns.foldlM t.advance p := by
  induction ns generalizing p with
  | nil => rfl
  | cons n ns ih =>
    have hp : SameKind t t' p := List.append_nil p ▸ h [] List.nil_prefix
    have hn := h [n] (List.prefix_append [n] ns)
    rw [List.foldlM_cons, List.foldlM_cons, advance_congr hp hn]
    cases hm : t.advance p n with
    | error e => rfl
    | ok m =>
      obtain rfl := advance_of_entryName (hns n List.mem_cons_self) hm
      refine ih (fun n hn => hns n (List.mem_cons_of_mem _ hn)) fun ms hms => ?_
      rw [List.append_assoc, List.singleton_append]
      exact h (n :: ms) (List.cons_prefix_cons.mpr ⟨rfl, hms⟩)

/-! ### Paths -/

/-- Where the names of a path lead, whether or not the system takes the path. -/
def reach (t : FileTree) (base : Place) (path : Bytes) : Except FileFault Place :=
  t.walk linkLimit (if path.head? = some 0x2F then [] else base) (names path)

theorem locate_congr (h : t'.reach base path = t.reach base path) :
    t'.locate base path = t.locate base path := by
  rw [locate, locate, ← reach, h]
  rfl

theorem reach_of_locate (h : t.locate base path = .ok p) : t.reach base path = .ok p :=
  (locate_eq_ok_iff.mp h).2.2

/-- An empty name asks for a directory, as the name after it does. -/
theorem advance_nil_bind (p : Place) (n : FileName) :
    (t.advance p [] >>= (t.advance · n)) = t.advance p n := by
  by_cases hd : t.entry? p = some .directory
  · rw [show t.advance p [] = .ok p by rw [advance, if_neg (not_not_intro hd), if_pos (.inl rfl)]]
    rfl
  · rw [show t.advance p [] = .error .notDirectory by rw [advance, if_pos hd], advance, if_pos hd]
    rfl

theorem Linkless.reach_join (ht : t.Linkless) (hn : 0x2F ∉ n) :
    t.reach base (SiteRoot.join path n) = t.reach base path >>= (t.advance · n) := by
  rw [reach, reach, ht.walk_eq, ht.walk_eq]
  simp only [head?_join path hn]
  rcases names_join path hn with h | ⟨front, hp, h⟩
  · rw [h, List.foldlM_append]
    simp only [List.foldlM_cons, List.foldlM_nil, bind_pure]
  · rw [h, hp, List.foldlM_append, List.foldlM_append, bind_assoc]
    simp only [List.foldlM_cons, List.foldlM_nil, bind_pure, advance_nil_bind]

theorem Linkless.reach_joinAll (ht : t.Linkless) (hns : ∀ n ∈ ns, 0x2F ∉ n) :
    t.reach base (SiteRoot.joinAll path ns) =
      t.reach base path >>= fun p => ns.foldlM t.advance p := by
  induction ns generalizing path with
  | nil =>
    simp only [SiteRoot.joinAll, List.foldl_nil, List.foldlM_nil]
    exact (bind_pure _).symm
  | cons n ns ih =>
    rw [SiteRoot.joinAll, List.foldl_cons, ← SiteRoot.joinAll,
      ih fun n hn => hns n (List.mem_cons_of_mem _ hn), ht.reach_join (hns n List.mem_cons_self),
      bind_assoc]
    simp only [List.foldlM_cons]

theorem Linkless.reach_congr (ht : t.Linkless) (ht' : t'.Linkless) (h : ∀ p, SameKind t t' p) :
    t'.reach base path = t.reach base path := by
  have hadvance : t'.advance = t.advance := by
    funext p n
    exact advance_congr (h p) (h (p ++ [n]))
  rw [reach, reach, ht.walk_eq, ht'.walk_eq, hadvance]

theorem Linkless.locate_below (ht : t.Linkless) (hns : ∀ n ∈ ns, EntryName n)
    (h : t.locate base (SiteRoot.joinAll path ns) = .ok q) :
    ∃ p, t.reach base path = .ok p ∧ q = p ++ ns := by
  have h := reach_of_locate h
  rw [ht.reach_joinAll fun n hn => (hns n hn).noSlash] at h
  obtain ⟨p, hp, h⟩ := Except.bind_eq_ok_iff.mp h
  exact ⟨p, hp, eq_of_foldlM_advance hns h⟩

/-! ### What stands at the end of a path -/

/-- A path leads to one place in both trees, and they have the same there. -/
structure Alike (t t' : FileTree) (base : Place) (path : Bytes) : Prop where
  locate : t'.locate base path = t.locate base path
  kind : ∀ p, t.locate base path = .ok p → SameKind t t' p

/-- Names below a path lead alike in trees that agree on the way there. -/
theorem Linkless.alike_below (ht : t.Linkless) (ht' : t'.Linkless) (hns : ∀ n ∈ ns, EntryName n)
    (hpath : t'.reach base path = t.reach base path)
    (h : ∀ p, t.reach base path = .ok p → ∀ q, q <+: p ++ ns → SameKind t t' q) :
    Alike t t' base (SiteRoot.joinAll path ns) := by
  constructor
  · have hslash : ∀ n ∈ ns, 0x2F ∉ n := fun n hn => (hns n hn).noSlash
    apply locate_congr
    rw [ht'.reach_joinAll hslash, ht.reach_joinAll hslash, hpath]
    cases hp : t.reach base path with
    | error e => rfl
    | ok p =>
      refine foldlM_advance_congr hns fun ms hms => h p hp _ ?_
      exact (List.prefix_append_right_inj p).mpr hms
  · intro q hq
    obtain ⟨p, hp, rfl⟩ := ht.locate_below hns hq
    exact h p hp _ List.prefix_rfl

theorem isFile_iff_locate :
    t.isFile base path = true ↔ ∃ p, t.locate base path = .ok p ∧ t.entry? p ≠ none ∧
      t.entry? p ≠ some .directory := by
  rw [isFile_iff]
  constructor
  · rintro ⟨e, he, hd⟩
    obtain ⟨p, hp, hpe⟩ := kind_eq_ok_iff.mp he
    exact ⟨p, hp, by simp [hpe], by simpa [hpe] using hd⟩
  · rintro ⟨p, hp, hne, hd⟩
    obtain ⟨e, he⟩ := Option.ne_none_iff_exists'.mp hne
    exact ⟨e, kind_eq_ok_iff.mpr ⟨p, hp, he⟩, fun hde => hd (hde ▸ he)⟩

namespace Alike
variable (h : Alike t t' base path)
include h

theorem isDirectory : t'.isDirectory base path = t.isDirectory base path := by
  rw [Bool.eq_iff_iff, isDirectory_iff, isDirectory_iff, kind_eq_ok_iff, kind_eq_ok_iff, h.locate]
  exact exists_congr fun p => and_congr_right fun hp => (h.kind p hp).directory_iff

theorem isFile : t'.isFile base path = t.isFile base path := by
  rw [Bool.eq_iff_iff, isFile_iff_locate, isFile_iff_locate, h.locate]
  refine exists_congr fun p => and_congr_right fun hp => ?_
  rw [Ne, (h.kind p hp).none_iff, Ne, (h.kind p hp).directory_iff]

theorem read (he : ∀ p, t.locate base path = .ok p → t'.entry? p = t.entry? p) :
    t'.read base path = t.read base path := by
  have hk : t'.kind base path = t.kind base path := by
    rw [FileTree.kind, FileTree.kind, h.locate]
    cases hp : t.locate base path with
    | error e => rfl
    | ok p =>
      simp only [bind, Except.bind, he p hp]
  rw [FileTree.read, hk, FileTree.read]

theorem list (hc : ∀ p, t.locate base path = .ok p → t'.children p = t.children p) :
    t'.list base path = t.list base path := by
  rw [FileTree.list, FileTree.list, h.locate]
  cases hp : t.locate base path with
  | error e => rfl
  | ok p =>
    change (if t'.entry? p = some .directory then _ else _) = _
    simp only [(h.kind p hp).directory_iff, hc p hp]
    rfl

end Alike

theorem Linkless.entryName_of_mem_children (ht : t.Linkless) (h : n ∈ t.children p) :
    EntryName n := by
  obtain ⟨⟨r, e⟩, he, h⟩ := List.mem_filterMap.mp h
  obtain ⟨-, h⟩ := Option.ite_none_right_eq_some.mp h
  exact ht.entryName _ he n (List.mem_of_getLast? h)

theorem Linkless.entryName_of_list (ht : t.Linkless) (h : t.list base path = .ok ns) (hn : n ∈ ns) :
    EntryName n := by
  obtain ⟨p, -, h⟩ := Except.bind_eq_ok_iff.mp h
  split at h
  · cases h
    exact ht.entryName_of_mem_children hn
  · cases h

/-! ### Another content -/

section
variable {c c' : Bytes} {m m' : Instant}

theorem set_of_file (hq : t.entry? q = some (.file c m)) (e : FileEntry) :
    t.set q e = ⟨t.entries.map fun d => (d.1, if d.1 = q then e else d.2)⟩ := by
  have hany : t.entries.any (·.1 == q) = true := by
    cases q with
    | nil => cases hq
    | cons n q =>
      obtain ⟨d, hd, -⟩ := Option.map_eq_some_iff.mp hq
      have hn : (d.1 == n :: q) = true := by simpa using List.find?_some hd
      exact List.any_eq_true.mpr ⟨d, List.mem_of_find?_eq_some hd, hn⟩
  rw [set, if_pos hany]
  congr 1
  refine List.map_congr_left fun d _ => ?_
  by_cases h : d.1 = q
  · simp [h]
  · simp [h]

theorem entry?_set (hq : t.entry? q = some (.file c m)) (e : FileEntry) (p : Place) :
    entry? (t.set q e) p = if p = q then some e else t.entry? p := by
  cases p with
  | nil =>
    rw [if_neg]
    · rfl
    · rintro rfl
      cases hq
  | cons n p =>
    have hp : ((fun d : Place × FileEntry => d.1 == n :: p) ∘
        fun d : Place × FileEntry => (d.1, if d.1 = q then e else d.2)) =
        fun d => d.1 == n :: p := rfl
    rw [set_of_file hq, entry?_cons, entry?_cons, List.find?_map, hp, Option.map_map]
    cases hd : t.entries.find? fun d => d.1 == n :: p with
    | none =>
      have hne : n :: p ≠ q := by
        rintro rfl
        rw [entry?_cons, hd] at hq
        cases hq
      rw [if_neg hne]
      rfl
    | some d =>
      have hd : d.1 = n :: p := by simpa using List.find?_some hd
      change some (if d.1 = q then e else d.2) = _
      rw [hd]
      split <;> rfl

theorem children_set (hq : t.entry? q = some (.file c m)) (e : FileEntry) (p : Place) :
    (t.set q e).children p = t.children p := by
  rw [set_of_file hq, children, List.filterMap_map]
  rfl

theorem Linkless.set (ht : t.Linkless) (hq : t.entry? q = some (.file c m)) :
    (t.set q (.file c' m')).Linkless := by
  rw [set_of_file hq]
  constructor
  · intro d hd
    obtain ⟨d', hd', rfl⟩ := List.mem_map.mp hd
    dsimp only
    split
    · rfl
    · exact ht.noLink d' hd'
  · intro d hd
    obtain ⟨d', hd', rfl⟩ := List.mem_map.mp hd
    exact ht.entryName d' hd'

theorem sameKind_set (hq : t.entry? q = some (.file c m)) (p : Place) :
    SameKind t (t.set q (.file c' m')) p := by
  rw [SameKind, entry?_set hq]
  split
  next h =>
    rw [h, hq]
    rfl
  next => rfl

end

end FileTree

end SiteGateway
