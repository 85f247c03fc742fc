import SiteGateway.Proofs.Http.Target
import SiteGateway.Proofs.Route.Backend
import SiteGateway.Proxy.TargetUrl

/-!
# The path that is forwarded

The path of a forwarded request is read again as the path of a URL. The segments of the backend are
`Normal` and come through, and so do segments of the request that hold no backslash and are no dot
segments; `spelled_forRequest_iff` says that these are the only requests whose path the backend is
asked for.
-/

namespace SiteGateway

open Percent (spelled spelled_slash_cons spelled_append_backslash spelled_flatMap)

namespace TargetUrl
variable {ss : List Text} {rest : Text}

/-- A path without a slash at its end. -/
def withoutSlash (base : Text) : Text := if base.getLast? = some '/' then base.dropLast else base

theorem joinPaths_slash (base rest : Text) :
    joinPaths base ('/' :: rest) = withoutSlash base ++ '/' :: rest := by
  unfold joinPaths withoutSlash
  by_cases h : base.getLast? = some '/'
  · obtain ⟨ini, rfl⟩ := List.getLast?_eq_some_iff.mp h
    simp
  · have hb : (base.getLast? == some '/') = false := by simpa using h
    rw [hb, if_neg h]
    rfl

/-- Without the slash at its end a path loses a last segment that is empty. -/
theorem exists_withoutSlash (h : ∀ s ∈ ss, Url.Normal s) :
    ∃ ss' : List Text, (∀ s ∈ ss', Url.Normal s) ∧
      withoutSlash (ss.flatMap ('/' :: ·)) = ss'.flatMap ('/' :: ·) := by
  rcases List.eq_nil_or_concat ss with rfl | ⟨front, last, rfl⟩
  · exact ⟨[], h, rfl⟩
  rw [List.concat_eq_append] at h ⊢
  rw [List.flatMap_append, List.flatMap_singleton]
  rcases List.eq_nil_or_concat last with rfl | ⟨s, c, rfl⟩
  · refine ⟨front, fun s hs => h s (by simp [hs]), ?_⟩
    simp [withoutSlash]
  · refine ⟨front ++ [s ++ [c]], by simpa using h, ?_⟩
    have hc : c ≠ '/' := by
      have := (h (s.concat c) (by simp)).free c (by simp)
      exact (Url.isSlash_eq_false_iff.mp this).1
    have hlast : (front.flatMap ('/' :: ·) ++ '/' :: (s ++ [c])).getLast? = some c := by
      rw [← List.cons_append, ← List.append_assoc, List.getLast?_concat]
    rw [withoutSlash, List.concat_eq_append, hlast, if_neg (by simpa using hc)]
    simp

end TargetUrl

namespace Url
variable {ss pieces : List Text} {rest x y : Text}

/-- The segments of a backend and what follows them are told apart. -/
theorem readSegments_flatMap_append (h : ∀ s ∈ ss, Normal s) (rest : Text) :
    readSegments .network (ss.flatMap ('/' :: ·) ++ '/' :: rest) =
      resolveSegments .network ss (Text.splitBy (isSlash .network) rest) := by
  have hslash : isSlash .network '/' = true := rfl
  have hread (inner : Text) : readSegments .network ('/' :: inner) =
      resolveSegments .network [] (Text.splitBy (isSlash .network) inner) := rfl
  have hres : resolveSegments .network [] (ss ++ Text.splitBy (isSlash .network) rest) =
      resolveSegments .network ss (Text.splitBy (isSlash .network) rest) :=
    resolveSegments_append_of_normal h
  rw [← hres]
  cases ss with
  | nil => exact hread rest
  | cons s ss =>
    have hfree : ∀ s' ∈ s :: ss, ∀ c ∈ s', isSlash .network c = false := fun s' hs => (h s' hs).free
    rw [List.flatMap_cons, List.cons_append, List.cons_append, hread, List.append_assoc,
      Text.splitBy_append_flatMap_append hslash (fun s' hs => hfree s' (by simp [hs])),
      Text.splitBy_of_free (hfree s (by simp))]
    rfl

theorem Normal.noLineBreak {s : Text} (h : Normal s) : ∀ c ∈ s, c ≠ '\t' ∧ c ≠ '\n' ∧ c ≠ '\r' := by
  intro c hc
  rw [← h.escaped] at hc
  have hclean := (clean_of_mem_escaped keepsEscapes_pathSet hc).2
  refine ⟨?_, ?_, ?_⟩
  all_goals
    rintro rfl
    revert hclean
    decide +kernel

end Url

theorem Target.noLineBreak_of_pathChar {c : Char} (h : pathChar c = true) :
    c ≠ '\t' ∧ c ≠ '\n' ∧ c ≠ '\r' := by
  refine ⟨?_, ?_, ?_⟩
  all_goals
    rintro rfl
    revert h
    decide

/-- The segments of a forwarded path: those of the backend, and after them the pieces of the
request's path, read as the path of a URL. -/
theorem Url.path_forRequest {p b u : Text} {route : Route} {target : Target} {rest : Text}
    (hr : Route.ofParts p b = .ok route) (ht : Target.parse? u = some target)
    (hp : target.path = '/' :: rest) :
    ∃ ss, (∀ s ∈ ss, Normal s) ∧
      TargetUrl.withoutSlash route.backend.path.text = ss.flatMap ('/' :: ·) ∧
      (route.backend.forRequest target).path =
        .segments (resolveSegments .network ss (Text.splitBy (isSlash .network) rest)) := by
  obtain ⟨hk, ss, hss, hn⟩ := Route.backend_path hr
  obtain ⟨ss', hn', hbase⟩ := TargetUrl.exists_withoutSlash hn
  refine ⟨ss', hn', by rw [hss]; exact hbase, ?_⟩
  have hchars := ((Target.reads_of_parse? ht).2.parts (by rw [hp]; rfl)).1
  have hlines : withoutLineBreaks (ss'.flatMap ('/' :: ·) ++ '/' :: rest) =
      ss'.flatMap ('/' :: ·) ++ '/' :: rest := by
    refine withoutLineBreaks_eq_self fun c hc => ?_
    rcases List.mem_append.mp hc with hc | hc
    · obtain ⟨s, hs, hc⟩ := List.mem_flatMap.mp hc
      rcases List.mem_cons.mp hc with rfl | hc
      · decide
      · exact (hn' s hs).noLineBreak c hc
    · exact Target.noLineBreak_of_pathChar (hchars c (hp ▸ hc))
  have hjoin : TargetUrl.joinPaths route.backend.path.text target.path =
      ss'.flatMap ('/' :: ·) ++ '/' :: rest := by
    rw [hp, TargetUrl.joinPaths_slash, hss]
    exact congrArg (· ++ '/' :: rest) hbase
  have hpath : (route.backend.forRequest target).path =
      readPath .network (ss'.flatMap ('/' :: ·) ++ '/' :: rest) := by
    rw [forRequest, hjoin]
    simp only [withQuery, withPath, hss, hk, hlines]
  rw [hpath, ← readSegments_flatMap_append hn']
  simp [readPath, SchemeKind.special]

namespace Url
variable {ss pieces : List Text} {rest : Text}

theorem length_spelled_lt (ss : List Text) {d : Text} (hd : d ∈ pieces)
    (h : isDot d = true ∨ isDotDot d = true) :
    (spelled ((resolveSegments .network ss pieces).flatMap ('/' :: ·))).length <
      weight ss + weight pieces := by
  have hcount : 0 < pieces.countP (fun s => isDot s || isDotDot s) :=
    List.countP_pos_iff.mpr ⟨d, hd, by simpa using h⟩
  have := weight_resolveSegments ss pieces
  rw [length_spelled_flatMap]
  omega

theorem spelled_of_noDots (h : ∀ s ∈ pieces, isDot s = false ∧ isDotDot s = false) :
    spelled ((resolveSegments .network ss pieces).flatMap ('/' :: ·)) =
      spelled (ss.flatMap ('/' :: ·)) ++ spelled (pieces.flatMap ('/' :: ·)) := by
  rw [resolveSegments_of_noDots h, spelled_flatMap, spelled_flatMap, spelled_flatMap,
    List.flatMap_append, List.flatMap_map]
  simp only [spelled_escaped]

theorem splitBy_isSlash_of_noBackslash (h : '\\' ∉ rest) :
    Text.splitBy (isSlash .network) rest = Text.split '/' rest := by
  refine Text.splitBy_congr fun c hc => ?_
  have hne : c ≠ '\\' := by
    rintro rfl
    exact h hc
  simp [isSlash, hne]

theorem spelled_splitBy_ne (h : '\\' ∈ rest) :
    spelled ((Text.splitBy (isSlash .network) rest).flatMap ('/' :: ·)) ≠
      spelled ('/' :: rest) := by
  obtain ⟨x, y, rfl, hx⟩ := List.eq_append_cons_of_mem h
  have hx' : spelled ((Text.splitBy (isSlash .network) x).flatMap ('/' :: ·)) =
      spelled ('/' :: x) := by
    rw [splitBy_isSlash_of_noBackslash hx, Text.flatMap_split]
  rw [Text.splitBy_append_cons rfl, spelled_flatMap, List.flatMap_append, ← spelled_flatMap,
    ← spelled_flatMap, hx', ← List.cons_append, spelled_append_backslash]
  intro heq
  have heq := List.append_cancel_left heq
  cases hy : Text.splitBy (isSlash .network) y with
  | nil => exact absurd hy (Text.splitBy_ne_nil _ y)
  | cons s ss =>
    rw [hy, List.flatMap_cons, List.cons_append, spelled_slash_cons] at heq
    exact absurd (List.head_eq_of_cons_eq heq) (by decide)

/-- The backend is asked for the path of the backend and the path of the request, joined by one
slash, exactly when the request's path holds no backslash and no dot segment. -/
theorem spelled_forRequest_iff {p b u : Text} {route : Route} {target : Target}
    (hr : Route.ofParts p b = .ok route) (ht : Target.parse? u = some target)
    (hp : target.path.head? = some '/') :
    spelled (route.backend.forRequest target).path.text =
        spelled (TargetUrl.withoutSlash route.backend.path.text) ++ target.decodedPath ↔
      '\\' ∉ target.path ∧
        ∀ s ∈ Text.split '/' target.path, isDot s = false ∧ isDotDot s = false := by
  obtain ⟨rest, hrest⟩ : ∃ rest, target.path = '/' :: rest := by
    cases htp : target.path with
    | nil => rw [htp] at hp; cases hp
    | cons c rest => rw [htp] at hp; cases hp; exact ⟨rest, rfl⟩
  obtain ⟨ss, hn, hbase, hpath⟩ := path_forRequest hr ht hrest
  have hdecoded : target.decodedPath = spelled ('/' :: rest) := by rw [← hrest]; rfl
  have hlength : (spelled (ss.flatMap ('/' :: ·)) ++ spelled ('/' :: rest)).length =
      weight ss + weight (Text.splitBy (isSlash .network) rest) := by
    rw [List.length_append, length_spelled_flatMap, ← length_spelled_splitBy, spelled_slash_cons]
    simp
    omega
  have hsplit : Text.split '/' ('/' :: rest) = [] :: Text.split '/' rest := rfl
  rw [hbase, hpath, hdecoded, hrest, hsplit]
  change spelled (List.flatMap _ _) = _ ↔ _
  constructor
  · intro heq
    -- a dot segment would leave the text too short; without one, only a backslash can change it
    have hnodots : ∀ s ∈ Text.splitBy (isSlash .network) rest,
        isDot s = false ∧ isDotDot s = false := by
      intro s hs
      rw [← Bool.not_eq_true, ← Bool.not_eq_true, ← not_or]
      intro hdot
      have := length_spelled_lt ss hs hdot
      rw [heq, hlength] at this
      exact absurd this (Nat.lt_irrefl _)
    rw [spelled_of_noDots hnodots] at heq
    have hbs : '\\' ∉ rest := fun h => spelled_splitBy_ne h (List.append_cancel_left heq)
    rw [splitBy_isSlash_of_noBackslash hbs] at hnodots
    refine ⟨by simpa using hbs, fun s hs => ?_⟩
    rcases List.mem_cons.mp hs with rfl | hs
    · exact ⟨rfl, rfl⟩
    · exact hnodots s hs
  · rintro ⟨hbs, hnodots⟩
    have hbs : '\\' ∉ rest := fun h => hbs (List.mem_cons_of_mem _ h)
    rw [splitBy_isSlash_of_noBackslash hbs,
      spelled_of_noDots fun s hs => hnodots s (List.mem_cons_of_mem _ hs), Text.flatMap_split]

end Url

/-- The route that is written `/api=http://h/base/`. -/
def Route.base : Route where
  pathPrefix := "/api".toList
  backend :=
    { scheme := "http".toList, username := [], password := [], host := some (.domain "h".toList),
      port := none, path := .segments ["base".toList, []], query := none, fragment := none }

theorem Route.ofParts_base : ofParts "/api".toList "http://h/base/".toList = .ok base :=
  Except.toOption_eq_some_iff.mp (by rfl)

/-- The target of a path alone. -/
def Target.ofPath (path : String) : Target := ⟨none, none, path.toList, none⟩

/-- Escapes that spell neither dots nor anything else of note come through. -/
theorem Url.spelled_forRequest_base :
    let target := Target.ofPath "/api/a%20b//%2F."
    Route.ofParts "/api".toList "http://h/base/".toList = .ok Route.base ∧
      Target.parse? "/api/a%20b//%2F.".toList = some target ∧
      target.path.head? = some '/' ∧
      spelled (Route.base.backend.forRequest target).path.text =
        spelled (TargetUrl.withoutSlash Route.base.backend.path.text) ++ target.decodedPath := by
  intro target
  have ht : Target.parse? "/api/a%20b//%2F.".toList = some target := by rfl
  exact ⟨Route.ofParts_base, ht, rfl,
    (spelled_forRequest_iff Route.ofParts_base ht rfl).mpr (by decide +kernel)⟩

/-- Not every request is forwarded with its own path: dot segments lead out of the backend's. -/
theorem Url.not_forall_spelled_forRequest :
    ¬ ∀ (p b u : Text) (route : Route) (target : Target), Route.ofParts p b = .ok route →
      Target.parse? u = some target → target.path.head? = some '/' →
      spelled (route.backend.forRequest target).path.text =
        spelled (TargetUrl.withoutSlash route.backend.path.text) ++ target.decodedPath := by
  intro h
  have ht : Target.parse? "/api/../../secret".toList = some (.ofPath "/api/../../secret") := by
    rfl
  exact absurd (h _ _ _ _ _ Route.ofParts_base ht rfl) (by decide +kernel)

end SiteGateway
