import SiteGateway.Proofs.Http.Target
import SiteGateway.Proofs.Site.CleanSegments
import SiteGateway.Proofs.Site.InitialTarget
import SiteGateway.Site.Pipeline

/-!
# The stage of the initial file

The request path of a file is `WrittenOut`: its characters can only be meant as parts of a path. So
it is read as a path without query, and as the same path in front of the query of another request.
`Stage.runs_initialFile` says what the path is, where it leads, and what becomes of a request.
-/

namespace SiteGateway

namespace InitialFile
variable {file s : Text} {c : Char}

/-! ## Characters -/

/-- A character that can only be meant as part of a path. -/
def PathOnly (c : Char) : Prop :=
  0x20 < c.toNat ∧ c.toNat < 0x7F ∧ c ≠ '?' ∧ c ≠ '#' ∧ Target.pathChar c = true

instance (c : Char) : Decidable (PathOnly c) := inferInstanceAs (Decidable (_ ∧ _))

theorem pathOnly_of_clean : ∀ b, Percent.Clean segmentSet b → PathOnly (Char.ofNat b.toNat) :=
  Percent.forall_byte (by decide +kernel)

theorem pathOnly_hexDigit : ∀ n < 16, PathOnly (Percent.hexDigit n) := by decide +kernel

theorem pathOnly_of_mem_escape {b : UInt8} (h : c ∈ Percent.escape b) : PathOnly c := by
  have hb := b.toNat_lt
  simp only [Percent.escape, List.mem_cons, List.not_mem_nil, or_false] at h
  rcases h with rfl | rfl | rfl
  · decide
  · exact pathOnly_hexDigit _ (by omega)
  · exact pathOnly_hexDigit _ (by omega)

theorem pathOnly_of_mem_escaped (h : c ∈ escaped s) : PathOnly c := by
  obtain ⟨b, -, hc⟩ := List.mem_flatMap.mp h
  split at hc
  next hclean =>
    obtain rfl := List.mem_singleton.mp hc
    exact pathOnly_of_clean b (Percent.clean_iff.mpr hclean)
  next => exact pathOnly_of_mem_escape hc

theorem pathOnly_of_mem_target (h : c ∈ target file) : PathOnly c := by
  rw [target_eq] at h
  obtain ⟨e, he, hc⟩ := List.mem_flatMap.mp h
  obtain ⟨s, -, rfl⟩ := List.mem_map.mp he
  rcases List.mem_cons.mp hc with rfl | hc
  · decide
  · exact pathOnly_of_mem_escaped hc

/-! ## Segments -/

theorem slash_notMem_of_mem_pieces (h : s ∈ pieces file) : '/' ∉ s := fun hs =>
  absurd ((of_mem_pieces h).2 '/' hs).1 (by decide)

theorem split_target (file : Text) :
    Text.split '/' (target file) = [] :: (pieces file).map escaped := by
  rw [target_eq]
  refine Text.splitBy_flatMap (by decide) fun e he c hc => ?_
  obtain ⟨s, hs, rfl⟩ := List.mem_map.mp he
  refine beq_eq_false_iff_ne.mpr fun h => ?_
  exact slash_notMem_escaped (slash_notMem_of_mem_pieces hs) (h ▸ hc)

theorem ne_dot_of_mem_pieces (h : s ∈ pieces file) : s ≠ ['.'] := by
  unfold pieces at h
  split at h
  · obtain rfl := List.mem_singleton.mp h
    simp
  · exact (segment_of_mem h).1.ne_dot

/-- A request path in which nothing has to be escaped, resolved or cut off. -/
structure WrittenOut (path : Text) : Prop where
  absolute : path.head? = some '/'
  pathOnly : ∀ c ∈ path, PathOnly c
  noDots : ∀ s ∈ Text.split '/' path, s ≠ ['.'] ∧ s ≠ ['.', '.']

theorem written_target (file : Text) : WrittenOut (target file) where
  absolute := rfl
  pathOnly _ := pathOnly_of_mem_target
  noDots e he := by
    rw [split_target] at he
    rcases List.mem_cons.mp he with rfl | he
    · simp
    obtain ⟨s, hs, rfl⟩ := List.mem_map.mp he
    have hdot : escaped ['.'] = ['.'] := by decide
    have hdots : escaped ['.', '.'] = ['.', '.'] := by decide
    constructor
    · intro h
      exact ne_dot_of_mem_pieces hs (escaped_inj.mp (h.trans hdot.symm))
    · intro h
      exact (of_mem_pieces hs).1 (escaped_inj.mp (h.trans hdots.symm))

/-! ## The path as a request target -/

theorem length_encode_of_pathOnly {path : Text} (h : ∀ c ∈ path, PathOnly c) :
    (Utf8.encode path).length = path.length := by
  induction path with
  | nil => rfl
  | cons c path ih =>
    have hc : c.toNat < 0x80 := by
      have := (h c (by simp)).2.1
      omega
    rw [Utf8.encode_cons_of_lt hc, List.length_cons, List.length_cons,
      ih fun d hd => h d (by simp [hd])]

theorem WrittenOut.pathAndQuery?_append {path : Text} (h : WrittenOut path) {t : Target}
    (hq : ∀ q ∈ t.query, q.all Target.queryChar = true) :
    Target.pathAndQuery? (path ++ t.queryText) = some (path, t.query) :=
  Target.pathAndQuery?_append (fun c hc => (h.pathOnly c hc).2.2.2.2)
    fun q hquery c hc => List.all_eq_true.mp (hq q hquery) c hc

theorem WrittenOut.parse? {path : Text} (h : WrittenOut path)
    (hlen : path.length ≤ Target.maxLength) :
    Target.parse? path = some ⟨none, none, path, none⟩ := by
  obtain ⟨rest, rfl⟩ := List.head?_eq_some_iff.mp h.absolute
  have hread := h.pathAndQuery?_append (t := ⟨none, none, [], none⟩) (by simp)
  rw [Target.queryText, List.append_nil] at hread
  have hshort : ¬ Target.maxLength < (Utf8.encode ('/' :: rest)).length := by
    rw [length_encode_of_pathOnly h.pathOnly]
    omega
  rw [Target.parse?, if_neg hshort, hread]
  rfl

/-! ## The way back -/

theorem segments_pieces (file : Text) :
    segments ((pieces file).flatMap ('/' :: ·)) = segments file := by
  have hsplit : Text.splitBy separates ((pieces file).flatMap ('/' :: ·)) = [] :: pieces file :=
    Text.splitBy_flatMap (by decide) fun s hs c hc => ((of_mem_pieces hs).2 c hc).1
  have hnames : cleanSegments (segments file) = segments file :=
    cleanSegments_of_isName fun n hn => isName_of_mem_cleanSegments hn
  change cleanSegments (Text.splitBy separates _) = _
  rw [hsplit, cleanSegments_eq, List.foldl_cons, push_of_skip (.inl rfl), ← cleanSegments_eq]
  unfold pieces
  split
  · rename_i h
    rw [h]
    rfl
  · exact hnames

theorem target_pieces (file : Text) : target ((pieces file).flatMap ('/' :: ·)) = target file := by
  rw [target, target, segments_pieces]

end InitialFile

/-! ## Requests -/

namespace Target
variable {t : Target} {u p : Text}

/-- What stands around the path of a target that was read fits any other path. -/
structure Surrounds (t : Target) : Prop where
  query : ∀ q ∈ t.query, q.all queryChar = true
  authority : t.path = ['/'] → t.scheme.isSome = t.authority.isSome

theorem surrounds_of_parse? (h : parse? u = some t) : Surrounds t := by
  have hquery {x : Text} (h : pathAndQuery? x = some (t.rawPath, t.query)) :
      ∀ q ∈ t.query, q.all queryChar = true :=
    fun q hq => List.all_eq_true.mpr ((of_pathAndQuery? h).2.1 q hq)
  cases (reads_of_parse? h).2 with
  | asterisk => exact ⟨by simp, fun hp => absurd hp (by decide)⟩
  | authority => exact ⟨by simp, fun hp => absurd hp (by simp [path])⟩
  | origin hs ha _ h => exact ⟨hquery h, fun _ => by rw [hs, ha]⟩
  | absolute hs ha _ _ h => exact ⟨hquery h, fun _ => by rw [hs, ha]; rfl⟩

theorem path_withPath (hp : p ≠ []) : (t.withPath p).path = p := by
  simp [path, withPath, hp]

end Target

namespace InitialFile
variable {path : Text}

/-- What is made of a request target: `/` is replaced by the path, everything around it stays, and
the parts of a target that was read still make one together. -/
structure Retargets (path : Text) (t t' : Target) : Prop where
  path : t'.path = if t.path = ['/'] then path else t.path
  around : t'.scheme = t.scheme ∧ t'.authority = t.authority ∧ t'.query = t.query
  untouched : t.path ≠ ['/'] → t' = t
  readable : t.path = ['/'] → (∃ u, Target.parse? u = some t) →
    Target.pathAndQuery? (t'.path ++ t'.queryText) = some (t'.path, t'.query) ∧
      t'.scheme.isSome = t'.authority.isSome

theorem WrittenOut.retargets (h : WrittenOut path) (t : Target) :
    Retargets path t (retarget path t) := by
  have hne : path ≠ [] := by
    rintro rfl
    exact absurd h.absolute (by simp)
  by_cases hp : t.path = ['/']
  · rw [retarget, if_pos hp]
    refine ⟨?_, ⟨rfl, rfl, rfl⟩, fun hn => absurd hp hn, ?_⟩
    · rw [if_pos hp, Target.path_withPath hne]
    · rintro - ⟨u, hu⟩
      rw [Target.path_withPath hne]
      have hsurrounds := Target.surrounds_of_parse? hu
      exact ⟨h.pathAndQuery?_append (t := t.withPath path) hsurrounds.query,
        hsurrounds.authority hp⟩
  · rw [retarget, if_neg hp]
    exact ⟨by rw [if_neg hp], ⟨rfl, rfl, rfl⟩, fun _ => rfl, fun hn => absurd hn hp⟩

end InitialFile

open InitialFile (Retargets SettlesIn WrittenOut slashed)

/-- The request path of a file can be sent as it is. It leads below the root to the names in which
the file's segments settle, and the file that it spells has the same request path. Where a request
asks for `/` it asks for this path afterwards; no other request is changed. -/
theorem Stage.runs_initialFile {file : Text} (hnul : '\x00' ∉ file)
    (hlen : (InitialFile.target file).length ≤ Target.maxLength) :
    let path := InitialFile.target file
    (WrittenOut path ∧ Target.parse? path = some ⟨none, none, path, none⟩) ∧
    (∃ ns, (∀ ms, SettlesIn (Text.split '/' (slashed file)) ms ↔ ms = ns) ∧
      ∀ root, SiteRoot.resolve? root path = some (SiteRoot.joinAll root (ns.map Utf8.encode))) ∧
    (∃ t, SiteRoot.decode? path = some t ∧ InitialFile.target t = path) ∧
    ∀ (w : World) (r : Request), ∃ t,
      Stage.run w (.initialFile path) r = .passed { r with target := t } ∧
      Retargets path r.target t := by
  intro path
  have hwritten : WrittenOut path := InitialFile.written_target file
  refine ⟨⟨hwritten, hwritten.parse? hlen⟩, ⟨InitialFile.segments file, ?_, ?_⟩,
    ⟨(InitialFile.pieces file).flatMap ('/' :: ·), ?_, ?_⟩, ?_⟩
  · intro ms
    exact InitialFile.settlesIn_segments_iff
  · intro root
    exact InitialFile.resolve?_target root hnul
  · exact InitialFile.decode?_target file
  · exact InitialFile.target_pieces file
  · intro w r
    exact ⟨_, rfl, hwritten.retargets r.target⟩

/-- A file whose name looks like an escape, some directories away. -/
theorem Stage.runs_initialFile_escaped :
    let file := "..\\docs\\.//..\\a%20b é?.md".toList
    let path := "/a%2520b%20%C3%A9%3F.md".toList
    ('\x00' ∉ file ∧ path.length ≤ Target.maxLength) ∧ InitialFile.target file = path ∧
      WrittenOut path ∧
      SiteRoot.resolve? (Utf8.encode "/srv".toList) path =
        some (Utf8.encode "/srv/a%20b é?.md".toList) ∧
      ∀ w r, r.target = ⟨none, none, ['/'], some "v=2".toList⟩ →
        ∃ t, Stage.run w (.initialFile path) r = .passed { r with target := t } ∧
          t.text = path ++ "?v=2".toList := by
  intro file path
  have hnul : '\x00' ∉ file := by decide
  have hpath : InitialFile.target file = path := by rfl
  have hlen : path.length ≤ Target.maxLength := by decide
  obtain ⟨⟨hwritten, -⟩, ⟨ns, hns, hresolve⟩, -, hrun⟩ := Stage.runs_initialFile hnul (hpath ▸ hlen)
  rw [hpath] at hwritten hresolve hrun
  obtain rfl : InitialFile.segments file = ns :=
    (hns _).mp (InitialFile.settlesIn_segments_iff.mpr rfl)
  refine ⟨⟨hnul, hlen⟩, hpath, hwritten, (hresolve _).trans (by rfl), fun w r hr => ?_⟩
  obtain ⟨t, hpassed, hretargets⟩ := hrun w r
  obtain ⟨hscheme, hauthority, hquery⟩ := hretargets.around
  have htarget := hretargets.path
  rw [hr] at hscheme hauthority hquery htarget
  refine ⟨t, hpassed, ?_⟩
  rw [Target.text, Target.queryText, hscheme, hauthority, hquery, htarget]
  rfl

end SiteGateway
