import SiteGateway.Proofs.Percent
import SiteGateway.Proofs.Settings.InitialFile
import SiteGateway.Site.InitialFile
import SiteGateway.Site.StaticFile

/-!
# The request path of the initial file

The request path that stands in for `/` leads to the segments of the initial file below the root
(`resolve?_target`). A name without a backslash is its one segment, so the path leads to the file of
that name, and to no other name's (`resolve?_target_eq_iff`).
-/

namespace SiteGateway

open Percent (spelled)
open Settings (ProperName)

namespace InitialFile
variable {file name s t : Text} {root : Bytes}

/-- What separates the segments of a file. -/
def separates (c : Char) : Bool := c == '/' || c == '\\'

/-- A segment is a name. -/
structure Segment (s : Text) : Prop where
  ne_nil : s ≠ []
  ne_dot : s ≠ ['.']
  ne_dots : s ≠ ['.', '.']
  free : ∀ c ∈ s, separates c = false

theorem segment_of_mem (h : s ∈ segments file) : Segment s ∧ ∀ c ∈ s, c ∈ file := by
  have hsplit : ∀ x ∈ Text.splitBy separates file, ∀ c ∈ x, separates c = false ∧ c ∈ file :=
    fun x hx => Text.of_mem_splitBy hx
  suffices hall : ∀ x ∈ segments file, Segment x ∧ ∀ c ∈ x, c ∈ file from hall s h
  change ∀ x ∈ cleanSegments (Text.splitBy separates file), _
  -- what is kept so far consists of segments at every step
  refine List.foldlRecOn
    (motive := fun kept : List Text => ∀ x ∈ kept, Segment x ∧ ∀ c ∈ x, c ∈ file) _ _ (by simp)
    fun kept hk x hx y hy => ?_
  split at hy
  · exact hk y hy
  · rename_i h₁
    rw [not_or] at h₁
    split at hy
    · exact hk y ((List.dropLast_sublist kept).subset hy)
    · rename_i h₂
      rcases List.mem_append.mp hy with hy | hy
      · exact hk y hy
      · obtain rfl := List.mem_singleton.mp hy
        exact ⟨⟨h₁.1, h₁.2, h₂, fun c hc => (hsplit y hx c hc).1⟩, fun c hc => (hsplit y hx c hc).2⟩

theorem segments_of_segment (h : Segment file) : segments file = [file] := by
  have hsplit : Text.splitBy separates file = [file] := Text.splitBy_of_free h.free
  change cleanSegments (Text.splitBy separates file) = _
  rw [hsplit]
  simp [cleanSegments, h.ne_nil, h.ne_dot, h.ne_dots]

/-! ### The request path of a file -/

/-- A segment as the request path has it. -/
def escaped (s : Text) : Text := Percent.encode segmentSet (Utf8.encode s)

theorem spelled_escaped_segment (s : Text) : spelled (escaped s) = Utf8.encode s :=
  Percent.decode_encode (by rfl) _

theorem slash_cons_join {ss : List Text} (h : ss ≠ []) :
    '/' :: Text.join ['/'] ss = ss.flatMap ('/' :: ·) := by
  induction ss with
  | nil => exact absurd rfl h
  | cons s ss ih =>
    cases ss with
    | nil => simp [Text.join]
    | cons s' ss =>
      rw [List.flatMap_cons, ← ih (by simp), Text.join]
      · simp
      · simp

/-- What stands between the slashes of the request path; nothing but slashes is the root. -/
def pieces (file : Text) : List Text := if segments file = [] then [[]] else segments file

theorem target_eq (file : Text) : target file = ((pieces file).map escaped).flatMap ('/' :: ·) := by
  change '/' :: Text.join ['/'] ((segments file).map escaped) = _
  unfold pieces
  split
  · rename_i h
    rw [h]
    rfl
  · rename_i h
    rw [slash_cons_join (by simpa using h)]

theorem decode?_target (file : Text) :
    SiteRoot.decode? (target file) = some ((pieces file).flatMap ('/' :: ·)) := by
  have hencode : Utf8.encode ((pieces file).flatMap ('/' :: ·)) =
      (pieces file).flatMap fun s => 0x2F :: Utf8.encode s := List.flatMap_assoc
  change Utf8.decode? (spelled (target file)) = _
  rw [target_eq, Percent.spelled_flatMap, List.flatMap_map]
  simp only [spelled_escaped_segment]
  rw [← hencode, Utf8.decode?_encode]

theorem of_mem_pieces (h : s ∈ pieces file) :
    s ≠ ['.', '.'] ∧ ∀ c ∈ s, separates c = false ∧ c ∈ file := by
  unfold pieces at h
  split at h
  · obtain rfl := List.mem_singleton.mp h
    simp
  · obtain ⟨hs, hfile⟩ := segment_of_mem h
    exact ⟨hs.ne_dots, fun c hc => ⟨hs.free c hc, hfile c hc⟩⟩

theorem split_pieces (file : Text) :
    Text.split '/' ((pieces file).flatMap ('/' :: ·)) = [] :: pieces file := by
  refine Text.splitBy_flatMap (by decide) fun s hs c hc => ?_
  have hsep := ((of_mem_pieces hs).2 c hc).1
  exact (Bool.or_eq_false_iff.mp hsep).1

theorem names_pieces (file : Text) :
    SiteRoot.names ((pieces file).flatMap ('/' :: ·)) = segments file := by
  have hkept : (segments file).filter (fun c => c ≠ [] ∧ c ≠ ['.']) = segments file :=
    List.filter_eq_self.mpr fun s hs => by
      obtain ⟨h, -⟩ := segment_of_mem hs
      simp [h.ne_nil, h.ne_dot]
  rw [SiteRoot.names, split_pieces, List.filter_cons_of_neg (by simp)]
  unfold pieces
  split
  · rename_i h
    rw [h]
    rfl
  · exact hkept

theorem stays_pieces (hnul : '\x00' ∉ file) :
    SiteRoot.stays ((pieces file).flatMap ('/' :: ·)) = true := by
  have hfree (c : Char) (hc : c ∈ (pieces file).flatMap ('/' :: ·)) : c ≠ '\\' ∧ c ≠ '\x00' := by
    obtain ⟨s, hs, hc⟩ := List.mem_flatMap.mp hc
    rcases List.mem_cons.mp hc with rfl | hc
    · decide
    · obtain ⟨hsep, hfile⟩ := (of_mem_pieces hs).2 c hc
      constructor
      · rintro rfl
        exact absurd hsep (by decide)
      · rintro rfl
        exact hnul hfile
  have hslash : '\\' ∉ (pieces file).flatMap ('/' :: ·) := fun h => (hfree _ h).1 rfl
  have hzero : '\x00' ∉ (pieces file).flatMap ('/' :: ·) := fun h => (hfree _ h).2 rfl
  have hdots : ['.', '.'] ∉ pieces file := fun h => (of_mem_pieces h).1 rfl
  rw [SiteRoot.stays, split_pieces]
  simp [hslash, hzero, hdots]

theorem resolve?_target (root : Bytes) (hnul : '\x00' ∉ file) :
    SiteRoot.resolve? root (target file) =
      some (SiteRoot.joinAll root ((segments file).map Utf8.encode)) := by
  rw [SiteRoot.resolve?, decode?_target]
  change (if SiteRoot.stays _ = true then _ else _) = _
  rw [if_pos (stays_pieces hnul), names_pieces]

theorem segment_of_properName (h : ProperName name) (hb : '\\' ∉ name) : Segment name where
  ne_nil := h.ne_nil
  ne_dot := h.ne_dot
  ne_dots := h.ne_dots
  free c hc := by
    have hs : c ≠ '/' := fun he => h.noSlash (he ▸ hc)
    have hb : c ≠ '\\' := fun he => hb (he ▸ hc)
    simp [separates, hs, hb]

/-- The request path leads to the file unless its name has a backslash. -/
theorem resolve?_target_eq_iff (h : ProperName name) :
    SiteRoot.resolve? root (target name) = some (SiteRoot.join root (Utf8.encode name)) ↔
      '\\' ∉ name := by
  rw [resolve?_target root h.noNul, Option.some_inj]
  constructor
  · intro heq hb
    have hbyte : 0x5C ∈ Utf8.encode name := List.mem_flatMap.mpr ⟨'\\', hb, by decide⟩
    obtain ⟨slash, -, hjoin⟩ := SiteRoot.exists_join_eq root
    obtain ⟨rest, hrest, hmem⟩ := SiteRoot.joinAll_eq_append root ((segments name).map Utf8.encode)
    have hin : 0x5C ∈ rest := by
      rw [hrest, hjoin] at heq
      rw [List.append_cancel_left heq]
      exact List.mem_append_right slash hbyte
    rcases hmem _ hin with hslash | ⟨n, hn, hin⟩
    · exact absurd hslash (by decide)
    · -- the segments were cut at every backslash
      obtain ⟨s, hs, rfl⟩ := List.mem_map.mp hn
      have hsep := (segment_of_mem hs).1.free '\\' (Utf8.mem_of_mem_encode (by decide) hin)
      exact absurd hsep (by decide)
  · intro hb
    rw [segments_of_segment (segment_of_properName h hb)]
    rfl

/-! ### A name that is a segment -/

theorem target_of_segment (h : Segment name) : target name = '/' :: escaped name := by
  rw [target, segments_of_segment h]
  rfl

theorem slash_notMem_escaped (h : '/' ∉ name) : '/' ∉ escaped name := by
  intro hs
  have hbyte : 0x2F ∈ Utf8.encode (escaped name) :=
    List.mem_flatMap.mpr ⟨'/', hs, by decide⟩
  have := Percent.mem_of_mem_encode (by decide) (by decide) hbyte
  exact h (Utf8.mem_of_mem_encode (by decide) this)

theorem escaped_inj : escaped s = escaped t ↔ s = t := by
  refine ⟨fun h => ?_, fun h => h ▸ rfl⟩
  have := congrArg spelled h
  rwa [spelled_escaped_segment, spelled_escaped_segment, Utf8.encode_inj] at this

theorem Segment.noSlash (h : Segment name) : '/' ∉ name := fun hs =>
  absurd (h.free '/' hs) (by decide)

theorem asksDirectory_target (h : Segment name) : Site.asksDirectory (target name) = false := by
  have hne : escaped name ≠ [] := by
    rw [Ne, show ([] : Text) = escaped [] from rfl, escaped_inj]
    exact h.ne_nil
  have hslash := slash_notMem_escaped h.noSlash
  rw [target_of_segment h, Site.asksDirectory, List.getLast?_cons_of_ne_nil hne,
    beq_eq_false_iff_ne]
  exact fun hl => hslash (List.mem_of_getLast? hl)

theorem isSuffixOf_target (h : Segment name) :
    "/index.html".toList.isSuffixOf (target name) = decide (name = "index.html".toList) := by
  have hslash := slash_notMem_escaped h.noSlash
  have hindex : "/index.html".toList = '/' :: escaped "index.html".toList := by rfl
  rw [Bool.eq_iff_iff, List.isSuffixOf_iff_suffix, decide_eq_true_iff, hindex, target_of_segment h]
  constructor
  · rintro ⟨front, hfront⟩
    cases front with
    | nil => exact (escaped_inj.mp (List.tail_eq_of_cons_eq hfront)).symm
    | cons c front =>
      rw [List.cons_append, List.cons.injEq] at hfront
      rw [← hfront.2] at hslash
      simp at hslash
  · rintro rfl
    exact List.suffix_refl _

end InitialFile

end SiteGateway
