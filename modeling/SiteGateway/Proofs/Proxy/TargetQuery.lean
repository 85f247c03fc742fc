import SiteGateway.Proofs.Proxy.TargetPath

/-!
# The query that is forwarded

`TargetUrl.Merges` says what two queries become: both with a separator between them, the one that
says something, or none. The setter of a URL escapes the merged text once more, but percent signs
and digits are left alone (`Url.keepsEscapes_query`), so that the same bytes are spelled and every
escape stands where it stood (`Url.query_forRequest`).
-/

namespace SiteGateway

open Percent (spelled)

namespace Percent
variable {b hi lo : UInt8} {x y : Bytes} {set : UInt8 → Bool}

theorem encode_append (set : UInt8 → Bool) (x y : Bytes) :
    encode set (x ++ y) = encode set x ++ encode set y :=
  List.flatMap_append

/-- An escape is left alone, whatever its surroundings are encoded to. -/
theorem KeepsEscapes.encode_append_escape (hset : KeepsEscapes set) (h : escape? hi lo = some b) :
    Utf8.encode (encode set (x ++ 0x25 :: hi :: lo :: y)) =
      Utf8.encode (encode set x) ++ 0x25 :: hi :: lo :: Utf8.encode (encode set y) := by
  obtain ⟨hhi, hlo⟩ := hset.clean_of_escape? h
  rw [encode_append, Utf8.encode_append, encode_cons_of_clean hset.percent,
    encode_cons_of_clean hhi, encode_cons_of_clean hlo]

theorem spelled_append_ampersand (s t : Text) :
    spelled (s ++ '&' :: t) = spelled s ++ 0x26 :: spelled t := by
  rw [spelled, Utf8.encode_append, show Utf8.encode ('&' :: t) = 0x26 :: Utf8.encode t from rfl]
  exact decode_append_cons (by decide) (by decide)

theorem spelled_eq_nil_iff {t : Text} : spelled t = [] ↔ t = [] := by
  rw [spelled, decode_eq_nil_iff, show ([] : Bytes) = Utf8.encode [] from rfl, Utf8.encode_inj]

/-- Every escape of the one text stands in the other, between parts that spell the same. -/
def EscapesStand (raw sent : Text) : Prop :=
  ∀ x hi lo y b, Utf8.encode raw = x ++ 0x25 :: hi :: lo :: y → escape? hi lo = some b →
    ∃ x' y', Utf8.encode sent = x' ++ 0x25 :: hi :: lo :: y' ∧
      decode x' = decode x ∧ decode y' = decode y

theorem KeepsEscapes.escapesStand (hset : KeepsEscapes set) (raw : Text) :
    EscapesStand raw (encode set (Utf8.encode raw)) := by
  intro x hi lo y b hraw h
  refine ⟨Utf8.encode (encode set x), Utf8.encode (encode set y), ?_, hset.decode_encode x,
    hset.decode_encode y⟩
  rw [hraw, hset.encode_append_escape h]

end Percent

namespace TargetUrl

/-- What two queries become: both with the separator between them, the one that says something, or
none if neither does. -/
inductive Merges {α : Type} (sep : α) : Option (List α) → Option (List α) → Option (List α) → Prop
  | both {b r : List α} (hb : b ≠ []) (hr : r ≠ []) :
      Merges sep (some b) (some r) (some (b ++ sep :: r))
  | base {b : List α} {query : Option (List α)} (hb : b ≠ []) (hr : ∀ r ∈ query, r = []) :
      Merges sep (some b) query (some b)
  | request {base : Option (List α)} {r : List α} (hb : ∀ b ∈ base, b = []) (hr : r ≠ []) :
      Merges sep base (some r) (some r)
  | neither {base query : Option (List α)} (hb : ∀ b ∈ base, b = []) (hr : ∀ r ∈ query, r = []) :
      Merges sep base query none

variable {base query merged : Option Text}

theorem nonEmpty_cases (query : Option Text) :
    (∃ t, query = some t ∧ t ≠ [] ∧ nonEmpty query = some t) ∨
      (∀ t ∈ query, t = []) ∧ nonEmpty query = none := by
  rcases query with _ | (_ | ⟨c, t⟩)
  · exact .inr ⟨nofun, rfl⟩
  · exact .inr ⟨by rintro _ ⟨⟩; rfl, rfl⟩
  · exact .inl ⟨c :: t, rfl, List.cons_ne_nil c t, rfl⟩

theorem merges_joinQueries (base query : Option Text) :
    Merges '&' base query (joinQueries base query) := by
  unfold joinQueries
  rcases nonEmpty_cases base with ⟨b, rfl, hb, hbase⟩ | ⟨hb, hbase⟩ <;>
    rcases nonEmpty_cases query with ⟨r, rfl, hr, hquery⟩ | ⟨hr, hquery⟩ <;>
    rw [hbase, hquery]
  · exact .both hb hr
  · exact .base hb hr
  · exact .request hb hr
  · exact .neither hb hr

/-- The spelled queries are merged as the queries are. -/
theorem Merges.spelled (h : Merges '&' base query merged) :
    Merges 0x26 (base.map spelled) (query.map spelled) (merged.map spelled) := by
  have hne {t : Text} (ht : t ≠ []) : Percent.spelled t ≠ [] :=
    fun h => ht (Percent.spelled_eq_nil_iff.mp h)
  have hnil {q : Option Text} (hq : ∀ t ∈ q, t = []) : ∀ bs ∈ q.map Percent.spelled, bs = [] := by
    intro bs hbs
    obtain ⟨t, ht, rfl⟩ := Option.mem_map.mp hbs
    exact Percent.spelled_eq_nil_iff.mpr (hq t ht)
  cases h with
  | both hb hr =>
    simp only [Option.map_some, Percent.spelled_append_ampersand]
    exact .both (hne hb) (hne hr)
  | base hb hr => exact .base (hne hb) (hnil hr)
  | request hb hr => exact .request (hnil hb) (hne hr)
  | neither hb hr => exact .neither (hnil hb) (hnil hr)

theorem Merges.of_mem (h : Merges '&' base query merged) {t : Text} (ht : t ∈ merged) {c : Char}
    (hc : c ∈ t) : c = '&' ∨ (∃ b ∈ base, c ∈ b) ∨ ∃ r ∈ query, c ∈ r := by
  cases h with
  | both hb hr =>
    cases ht
    rcases List.mem_append.mp hc with hc | hc
    · exact .inr (.inl ⟨_, rfl, hc⟩)
    · rcases List.mem_cons.mp hc with rfl | hc
      · exact .inl rfl
      · exact .inr (.inr ⟨_, rfl, hc⟩)
  | base hb hr =>
    cases ht
    exact .inr (.inl ⟨_, rfl, hc⟩)
  | request hb hr =>
    cases ht
    exact .inr (.inr ⟨_, rfl, hc⟩)
  | neither hb hr => cases ht

end TargetUrl

namespace Url

theorem keepsEscapes_query (kind : SchemeKind) :
    Percent.KeepsEscapes (if kind.special then specialQuerySet else querySet) := by
  split
  · exact ⟨by decide +kernel, Percent.forall_byte (by decide +kernel)⟩
  · exact ⟨by decide +kernel, Percent.forall_byte (by decide +kernel)⟩

theorem exists_query_of_parse? {t : Text} {u : Url} (h : parse? t = some u) :
    ∀ q ∈ u.query, ∃ kind raw, q = escapedQuery kind raw := by
  simp only [parse?, Option.bind_eq_bind, Option.pure_def] at h
  obtain ⟨⟨scheme, rest⟩, -, h⟩ := Option.bind_eq_some_iff.mp h
  have hquery : ∃ raw : Option Text, u.query = raw.map (escapedQuery (schemeKind scheme)) := by
    split at h
    case' h_3 => split at h
    all_goals
      obtain ⟨u₀, -, h⟩ := Option.bind_eq_some_iff.mp h
      cases h
      exact ⟨_, rfl⟩
  obtain ⟨raw, hraw⟩ := hquery
  intro q hq
  rw [hraw] at hq
  obtain ⟨t, -, rfl⟩ := Option.mem_map.mp hq
  exact ⟨schemeKind scheme, t, rfl⟩

theorem noLineBreak_of_mem_escapedQuery {kind : SchemeKind} {raw : Text} {c : Char}
    (h : c ∈ escapedQuery kind raw) : c ≠ '\t' ∧ c ≠ '\n' ∧ c ≠ '\r' := by
  have hclean := (clean_of_mem_escaped (keepsEscapes_query kind) h).2
  clear h
  refine ⟨?_, ?_, ?_⟩
  all_goals
    rintro rfl
    revert hclean
    split <;> decide

end Url

theorem Target.noLineBreak_of_queryChar {c : Char} (h : queryChar c = true) :
    c ≠ '\t' ∧ c ≠ '\n' ∧ c ≠ '\r' := by
  refine ⟨?_, ?_, ?_⟩
  all_goals
    rintro rfl
    revert h
    decide

theorem Target.Reads.queryChar_of_mem {u : Text} {t : Target} (h : Reads u t) :
    ∀ q ∈ t.query, ∀ c ∈ q, queryChar c = true := by
  cases h with
  | asterisk => nofun
  | authority => nofun
  | origin hs ha hu h => exact (of_pathAndQuery? h).2.1
  | absolute hs ha hfront hrest h => exact (of_pathAndQuery? h).2.1

namespace Url
open TargetUrl

theorem exists_withPath (u : Url) (t : Text) : ∃ path, u.withPath t = { u with path := path } := by
  unfold withPath
  cases u.path with
  | whole shown => exact ⟨_, rfl⟩
  | segments ss => exact ⟨_, rfl⟩

/-- What is merged for a request holds no line breaks, so that the setter only escapes it. -/
theorem exists_forRequest {b u : Text} {backend : Url} {target : Target}
    (hb : parse? b = some backend) (ht : Target.parse? u = some target) :
    ∃ path, backend.forRequest target =
      { backend with
        path := path
        query := (joinQueries backend.query target.query).map
          (escapedQuery (schemeKind backend.scheme)) } := by
  obtain ⟨path, hpath⟩ :=
    exists_withPath backend (joinPaths backend.path.text target.path)
  refine ⟨path, ?_⟩
  rw [forRequest, hpath, withQuery]
  congr 1
  refine Option.map_congr fun q hq => ?_
  have hlines : withoutLineBreaks q = q := by
    refine withoutLineBreaks_eq_self fun c hc => ?_
    have hmerges := merges_joinQueries backend.query target.query
    rcases hmerges.of_mem hq hc with rfl | ⟨q, hq, hc⟩ | ⟨q, hq, hc⟩
    · decide
    · obtain ⟨kind, t, rfl⟩ := exists_query_of_parse? hb q hq
      exact noLineBreak_of_mem_escapedQuery hc
    · have hreads := (Target.reads_of_parse? ht).2
      exact Target.noLineBreak_of_queryChar (hreads.queryChar_of_mem q hq c hc)
  rw [hlines]

/-- A request is sent to the backend's scheme, credentials, host, port and fragment. The query that
is sent spells what both queries spell, joined by an ampersand, and holds their escapes. -/
theorem query_forRequest {b u : Text} {backend : Url} {target : Target}
    (hb : parse? b = some backend) (ht : Target.parse? u = some target) :
    let sent := backend.forRequest target
    (sent.scheme = backend.scheme ∧ sent.username = backend.username ∧
      sent.password = backend.password ∧ sent.host = backend.host ∧ sent.port = backend.port ∧
      sent.fragment = backend.fragment) ∧
    Merges 0x26 (backend.query.map spelled) (target.query.map spelled) (sent.query.map spelled) ∧
    ∃ raw, Merges '&' backend.query target.query raw ∧
      Option.Rel Percent.EscapesStand raw sent.query := by
  obtain ⟨path, hsent⟩ := exists_forRequest hb ht
  have hmerges := merges_joinQueries backend.query target.query
  have hset := keepsEscapes_query (schemeKind backend.scheme)
  rw [hsent]
  generalize joinQueries backend.query target.query = raw at hmerges ⊢
  have hspelled : (raw.map (escapedQuery (schemeKind backend.scheme))).map spelled =
      raw.map spelled := by
    rw [Option.map_map]
    exact Option.map_congr fun q _ => hset.decode_encode _
  refine ⟨⟨rfl, rfl, rfl, rfl, rfl, rfl⟩, ?_, raw, hmerges, ?_⟩
  · rw [hspelled]
    exact hmerges.spelled
  · cases raw with
    | none => exact .none
    | some q => exact .some (hset.escapesStand q)

/-- Credentials, port and fragment stay; an apostrophe is escaped, and an escape is not. -/
theorem query_forRequest_credentials :
    ∃ backend target, parse? "http://u:p@h:81/base?a=%26b#f".toList = some backend ∧
      Target.parse? "/x?it\x27s=%2f".toList = some target ∧
      (backend.forRequest target).text =
        "http://u:p@h:81/base/x?a=%26b&it%27s=%2f#f".toList ∧
      Merges 0x26 (backend.query.map spelled) (target.query.map spelled)
        ((backend.forRequest target).query.map spelled) := by
  have hb : parse? "http://u:p@h:81/base?a=%26b#f".toList = some
      { scheme := "http".toList, username := "u".toList, password := "p".toList,
        host := some (.domain "h".toList), port := some 81, path := .segments ["base".toList],
        query := some "a=%26b".toList, fragment := some "f".toList } := by rfl
  have ht : Target.parse? "/x?it\x27s=%2f".toList =
      some ⟨none, none, "/x".toList, some "it\x27s=%2f".toList⟩ := by rfl
  exact ⟨_, _, hb, ht, by rfl, (query_forRequest hb ht).2.1⟩

end Url

end SiteGateway
