import SiteGateway.Proofs.Files.Linkless
import SiteGateway.Proofs.Site.InitialTarget

/-!
# What a request path names

The names between the slashes of a text are the names between the slashes of its bytes
(`names_encode`), so whether a request path leads anywhere, and where, can be read off the bytes
that it spells (`SiteRoot.resolve?_eq_some_iff`). The path it leads to has the steps of the root and
then its own (`steps_joinAll`), none of which goes up; and every list of proper names is spelled by
some request path, however its names are escaped (`SiteRoot.resolve?_join`).
-/

namespace SiteGateway

open Percent (spelled)
open Settings (ProperName)

namespace FileTree

variable {t : Text} {c : Char} {a b path : Bytes} {n : FileName}

theorem names_encode (t : Text) : names (Utf8.encode t) = (Text.split '/' t).map Utf8.encode := by
  refine Text.splitBy_induction (· == '/') t (fun x hx => ?_) fun x c y hx hc ih => ?_
  · rw [Text.split, Text.splitBy_of_free hx]
    refine names_of_noSlash fun hb => ?_
    have := hx '/' (Utf8.mem_of_mem_encode (by decide) hb)
    exact absurd this (by decide)
  · obtain rfl := eq_of_beq hc
    have hs : 0x2F ∉ Utf8.encode x := fun hb => by
      have := hx '/' (Utf8.mem_of_mem_encode (by decide) hb)
      exact absurd this (by decide)
    have hsplit : Text.split '/' (x ++ '/' :: y) = x :: Text.split '/' y := by
      have := Text.splitBy_append_cons (x := x) (y := y) (p := (· == '/')) hc
      rwa [Text.splitBy_of_free hx] at this
    rw [Utf8.encode_append, Percent.encode_slash_cons, names_append_slash, ih, names_of_noSlash hs,
      hsplit]
    rfl

/-- The names of a path that lead somewhere. -/
def steps (path : Bytes) : List FileName := (names path).filter fun n => n ≠ [] ∧ n ≠ [0x2E]

theorem steps_append_slash (a b : Bytes) : steps (a ++ 0x2F :: b) = steps a ++ steps b := by
  rw [steps, names_append_slash, List.filter_append, steps, steps]

theorem steps_of_name (hn : 0x2F ∉ n) (h₀ : n ≠ []) (h₁ : n ≠ [0x2E]) : steps n = [n] := by
  rw [steps, names_of_noSlash hn]
  simp [h₀, h₁]

theorem noSlash_of_mem_steps (h : n ∈ steps path) : 0x2F ∉ n :=
  noSlash_of_mem_names (List.mem_filter.mp h).1

theorem steps_join (path : Bytes) (hn : 0x2F ∉ n) :
    steps (SiteRoot.join path n) = steps path ++ steps n := by
  have hsteps : steps n = [n].filter fun n => n ≠ [] ∧ n ≠ [0x2E] := by
    rw [steps, names_of_noSlash hn]
  rw [hsteps]
  rcases names_join path hn with h | ⟨front, hp, h⟩
  · rw [steps, h, List.filter_append, steps]
  · rw [steps, h, List.filter_append, steps, hp, List.filter_append, List.filter_singleton]
    simp

theorem steps_joinAll (path : Bytes) {ns : List FileName} (h : ∀ n ∈ ns, 0x2F ∉ n) :
    steps (SiteRoot.joinAll path ns) = steps path ++ ns.flatMap steps := by
  induction ns generalizing path with
  | nil => exact (List.append_nil _).symm
  | cons n ns ih =>
    rw [SiteRoot.joinAll, List.foldl_cons, ← SiteRoot.joinAll,
      ih _ fun n hn => h n (List.mem_cons_of_mem _ hn), steps_join path (h n List.mem_cons_self),
      List.append_assoc, List.flatMap_cons]

theorem flatMap_steps (path : Bytes) : (steps path).flatMap steps = steps path := by
  have h : ∀ n ∈ steps path, steps n = [n] := fun n hn => by
    have := of_decide_eq_true (List.mem_filter.mp hn).2
    exact steps_of_name (noSlash_of_mem_steps hn) this.1 this.2
  rw [List.flatMap_congr h, List.flatMap_singleton']

end FileTree

namespace Utf8

variable {t : Text} {c : Char}

theorem mem_encode_iff (hc : c.toNat < 0x80) : UInt8.ofNat c.toNat ∈ encode t ↔ c ∈ t := by
  have hb : (UInt8.ofNat c.toNat).toNat = c.toNat := toNat_ofNat_of_lt (by omega)
  constructor
  · intro h
    have := mem_of_mem_encode (by omega) h
    rwa [hb, Char.ofNat_toNat] at this
  · intro h
    refine List.mem_flatMap.mpr ⟨c, h, ?_⟩
    rw [utf8EncodeChar_of_lt hc]
    exact List.mem_singleton_self _

end Utf8

namespace SiteRoot

open FileTree (names_encode steps steps_joinAll flatMap_steps)

variable {root f : Bytes} {p t : Text} {ns : List Text}

theorem map_encode_names (t : Text) : (names t).map Utf8.encode = steps (Utf8.encode t) := by
  rw [names, steps, names_encode, List.filter_map]
  congr 1
  refine List.filter_congr fun s _ => ?_
  have h₀ : Utf8.encode s = [] ↔ s = [] := Utf8.encode_inj (t := [])
  have h₁ : Utf8.encode s = [0x2E] ↔ s = ['.'] := Utf8.encode_inj (t := ['.'])
  simp only [Function.comp, ne_eq, h₀, h₁]

/-- The bytes that a path spells keep below the root. -/
structure Stays (bs : Bytes) : Prop where
  text : ∃ t, bs = Utf8.encode t
  noBackslash : 0x5C ∉ bs
  noNul : 0x00 ∉ bs
  noDots : [0x2E, 0x2E] ∉ FileTree.names bs

theorem stays_iff : stays t = true ↔ Stays (Utf8.encode t) := by
  have h₁ : 0x5C ∈ Utf8.encode t ↔ '\\' ∈ t := Utf8.mem_encode_iff (c := '\\') (by decide)
  have h₂ : 0x00 ∈ Utf8.encode t ↔ '\x00' ∈ t := Utf8.mem_encode_iff (c := '\x00') (by decide)
  have h₃ : [0x2E, 0x2E] ∈ FileTree.names (Utf8.encode t) ↔ ['.', '.'] ∈ Text.split '/' t := by
    rw [names_encode]
    change Utf8.encode ['.', '.'] ∈ _ ↔ _
    exact List.mem_map_of_injective fun _ _ => Utf8.encode_inj.mp
  have h : stays t = true ↔ '\\' ∉ t ∧ '\x00' ∉ t ∧ ['.', '.'] ∉ Text.split '/' t := by
    simp [stays, and_assoc]
  rw [h, ← h₁, ← h₂, ← h₃]
  constructor
  · rintro ⟨hb, hn, hd⟩
    exact ⟨⟨t, rfl⟩, hb, hn, hd⟩
  · rintro ⟨_, hb, hn, hd⟩
    exact ⟨hb, hn, hd⟩

theorem Stays.entryName {bs : Bytes} {n : FileName} (h : Stays bs) (hn : n ∈ steps bs) :
    FileTree.EntryName n := by
  obtain ⟨hm, hkeep⟩ := List.mem_filter.mp hn
  have hkeep := of_decide_eq_true hkeep
  exact {
    ne_nil := hkeep.1
    ne_dot := hkeep.2
    ne_dots := fun he => h.noDots (he ▸ hm)
    noSlash := FileTree.noSlash_of_mem_steps hn }

theorem resolve?_eq_some_iff :
    resolve? root p = some f ↔ Stays (spelled p) ∧ f = joinAll root (steps (spelled p)) := by
  have hdecode : decode? p = Utf8.decode? (spelled p) := rfl
  rw [resolve?, hdecode]
  cases ht : Utf8.decode? (spelled p) with
  | none =>
    refine iff_of_false (by rintro ⟨⟩) fun h => ?_
    obtain ⟨t, ht'⟩ := h.1.text
    rw [ht', Utf8.decode?_encode] at ht
    cases ht
  | some t =>
    rw [Utf8.decode?_eq_some_iff.mp ht, ← stays_iff, ← map_encode_names]
    change (if stays t = true then some _ else none) = some f ↔ _
    rw [Option.ite_none_right_eq_some, Option.some.injEq]
    exact and_congr_right fun _ => eq_comm

example : resolve? (Utf8.encode "/srv".toList) "/docs/%2e%2E/x".toList = none := by rfl

example : resolve? (Utf8.encode "/srv".toList) "//docs/./%252e%2Fx".toList =
    some (Utf8.encode "/srv/docs/%2e/x".toList) := by rfl

theorem steps_of_resolve? (h : resolve? root p = some f) :
    steps f = steps root ++ steps (spelled p) ∧ [0x2E, 0x2E] ∉ steps (spelled p) ∧ root <+: f := by
  obtain ⟨hs, rfl⟩ := resolve?_eq_some_iff.mp h
  refine ⟨?_, fun hm => hs.noDots (List.mem_filter.mp hm).1, ?_⟩
  · rw [steps_joinAll root fun _ => FileTree.noSlash_of_mem_steps, flatMap_steps]
  · obtain ⟨rest, hrest, -⟩ := joinAll_eq_append root (steps (spelled p))
    exact ⟨rest, hrest.symm⟩

/-! ### Every list of names is reached -/

/-- A name that a path can spell. -/
structure Reachable (n : Text) : Prop extends ProperName n where
  noBackslash : '\\' ∉ n

theorem join_cons {s : Text} {ss : List Text} (h : ss ≠ []) :
    Text.join ['/'] (s :: ss) = s ++ '/' :: Text.join ['/'] ss := by
  cases ss with
  | nil => exact absurd rfl h
  | cons s' ss =>
    rw [Text.join, List.append_assoc]
    · rfl
    · rintro ⟨⟩

/-- A path whose pieces spell names spells the names between slashes. -/
theorem spelled_join {e : Text → Text} (h : ∀ n ∈ ns, spelled (e n) = Utf8.encode n) :
    spelled (Text.join ['/'] (ns.map e)) = Utf8.encode (Text.join ['/'] ns) := by
  induction ns with
  | nil => rfl
  | cons n ns ih =>
    have hn := h n List.mem_cons_self
    cases ns with
    | nil => exact hn
    | cons n' ns =>
      rw [List.map_cons, join_cons (by simp), join_cons (by simp), Percent.spelled_append_slash, hn,
        ih fun m hm => h m (List.mem_cons_of_mem n hm), Utf8.encode_append,
        Percent.encode_slash_cons]

theorem split_join (hne : ns ≠ []) (h : ∀ n ∈ ns, '/' ∉ n) :
    Text.split '/' (Text.join ['/'] ns) = ns := by
  have hsplit : Text.splitBy (· == '/') (ns.flatMap ('/' :: ·)) = [] :: ns :=
    Text.splitBy_flatMap rfl fun n hn c hc => beq_eq_false_iff_ne.mpr fun he => h n hn (he ▸ hc)
  rw [← InitialFile.slash_cons_join hne, Text.splitBy, if_pos (beq_self_eq_true _)] at hsplit
  exact (List.cons.inj hsplit).2

theorem mem_join {c : Char} (h : c ∈ Text.join ['/'] ns) : c = '/' ∨ ∃ n ∈ ns, c ∈ n := by
  induction ns with
  | nil => cases h
  | cons n ns ih =>
    cases ns with
    | nil => exact .inr ⟨n, List.mem_singleton_self n, h⟩
    | cons n' ns =>
      rw [join_cons (by simp)] at h
      rcases List.mem_append.mp h with h | h
      · exact .inr ⟨n, List.mem_cons_self, h⟩
      rcases List.mem_cons.mp h with rfl | h
      · exact .inl rfl
      rcases ih h with rfl | ⟨m, hm, hc⟩
      · exact .inl rfl
      · exact .inr ⟨m, List.mem_cons_of_mem n hm, hc⟩

theorem names_join (h : ∀ n ∈ ns, Reachable n) : names (Text.join ['/'] ns) = ns := by
  cases ns with
  | nil => rfl
  | cons n ns =>
    rw [names, split_join (by simp) fun m hm => (h m hm).noSlash, List.filter_eq_self]
    exact fun m hm => decide_eq_true ⟨(h m hm).ne_nil, (h m hm).ne_dot⟩

theorem stays_join (h : ∀ n ∈ ns, Reachable n) : stays (Text.join ['/'] ns) = true := by
  have hfree : ∀ c, c ≠ '/' → (∀ n ∈ ns, c ∉ n) → c ∉ Text.join ['/'] ns := by
    intro c hc hns hm
    rcases mem_join hm with rfl | ⟨n, hn, hm⟩
    · exact hc rfl
    · exact hns n hn hm
  have hdots : ['.', '.'] ∉ Text.split '/' (Text.join ['/'] ns) := by
    cases ns with
    | nil => decide
    | cons n ns =>
      rw [split_join (by simp) fun m hm => (h m hm).noSlash]
      exact fun hm => (h _ hm).ne_dots rfl
  have hb := hfree '\\' (by decide) fun n hn => (h n hn).noBackslash
  have hz := hfree '\x00' (by decide) fun n hn => (h n hn).noNul
  simp [stays, hb, hz, hdots]

/-- However its names are escaped, a list of names is reached below the root. -/
theorem resolve?_join {e : Text → Text} (h : ∀ n ∈ ns, Reachable n)
    (he : ∀ n ∈ ns, spelled (e n) = Utf8.encode n) :
    resolve? root (Text.join ['/'] (ns.map e)) = some (joinAll root (ns.map Utf8.encode)) := by
  rw [resolve?_eq_some_iff, spelled_join he, ← stays_iff, ← map_encode_names, names_join h]
  exact ⟨stays_join h, rfl⟩

end SiteRoot

end SiteGateway
