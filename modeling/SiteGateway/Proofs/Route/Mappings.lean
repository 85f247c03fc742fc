import SiteGateway.Proofs.Text.Split
import SiteGateway.Proofs.Text.Trim
import SiteGateway.Settings.Resolve

/-!
# Mappings written together

A value may hold several mappings between commas. A comma ends a mapping wherever it stands
(`pieces_append_comma`), so that all values may as well be written in one (`mappings_eq_pieces`),
and what is read is a list of single mappings, which are read as they are (`mappings_eq_self`).
Settings read their mappings in this way before anything else, also before it is decided whether
there are any, so their routes do not depend on the grouping either.
-/

namespace SiteGateway

namespace RouteTable
open Settings (resolveRoutes)
variable {m x y : Text} {vs ws : List Text}

/-- What stands between commas, without the blanks around it; blank pieces do not count. -/
def pieces (t : Text) : List Text := ((t.splitOn ',').map Text.trim).filter (· ≠ [])

/-- A single mapping with nothing around it. -/
structure Piece (m : Text) : Prop where
  ne_nil : m ≠ []
  trimmed : Text.Trimmed m
  noComma : ',' ∉ m

theorem pieces_append_comma (x y : Text) : pieces (x ++ ',' :: y) = pieces x ++ pieces y := by
  rw [pieces, List.splitOn, List.splitOnP_append_cons x y rfl, List.map_append, List.filter_append]
  rfl

theorem Piece.pieces_eq (h : Piece m) : pieces m = [m] := by
  rw [pieces, List.splitOn_eq_singleton h.noComma, List.map_singleton, h.trimmed.trim_eq]
  exact List.filter_cons_of_pos (decide_eq_true h.ne_nil)

theorem Piece.of_mem_pieces (h : m ∈ pieces x) : Piece m := by
  obtain ⟨hm, hne⟩ := List.mem_filter.mp h
  obtain ⟨s, hs, rfl⟩ := List.mem_map.mp hm
  rw [← Text.split_eq_splitOn] at hs
  refine ⟨of_decide_eq_true hne, Text.trimmed_trim s, fun hc => ?_⟩
  have := (Text.of_mem_splitBy hs ',' (Text.mem_of_mem_trim hc)).1
  exact absurd this (by decide)

theorem mappings_eq_flatMap (vs : List Text) : mappings vs = vs.flatMap pieces := by
  have hsplit : vs.flatMap (Text.split ',') = vs.flatMap (List.splitOn ',') :=
    List.flatMap_congr fun v _ => Text.split_eq_splitOn ',' v
  have hkeep : (fun m : Text => !m.isEmpty) = fun m => decide (m ≠ []) := by
    funext m
    cases m <;> rfl
  rw [mappings, hsplit, List.map_flatMap, List.filter_flatMap, hkeep]
  rfl

theorem mappings_append (vs ws : List Text) : mappings (vs ++ ws) = mappings vs ++ mappings ws := by
  simp only [mappings_eq_flatMap, List.flatMap_append]

theorem mappings_eq_pieces (vs : List Text) : mappings vs = pieces ([','].intercalate vs) := by
  rw [mappings_eq_flatMap]
  induction vs with
  | nil => rfl
  | cons v vs ih =>
    cases vs with
    | nil => rw [List.flatMap_singleton, List.intercalate_singleton]
    | cons w vs =>
      rw [List.flatMap_cons, ih, List.intercalate_cons_cons, List.append_assoc,
        List.singleton_append, pieces_append_comma]

theorem Piece.of_mem_mappings (h : m ∈ mappings vs) : Piece m := by
  rw [mappings_eq_pieces] at h
  exact of_mem_pieces h

theorem mappings_eq_self (h : ∀ m ∈ vs, Piece m) : mappings vs = vs := by
  rw [mappings_eq_flatMap, List.flatMap_congr fun m hm => (h m hm).pieces_eq,
    List.flatMap_singleton']

theorem resolveRoutes_congr (h : mappings vs = mappings ws) (p b : Text) :
    resolveRoutes vs p b = resolveRoutes ws p b := by
  simp only [resolveRoutes, h]

/-- How mappings are grouped into values plays no part in what is read, nor in the routes that come
of it. What is read are single mappings, and reading them again changes nothing. -/
theorem mappings_grouping :
    (∀ vs ws : List Text, pieces ([','].intercalate vs) = pieces ([','].intercalate ws) →
      mappings vs = mappings ws ∧ ∀ p b, resolveRoutes vs p b = resolveRoutes ws p b) ∧
    (∀ vs, mappings vs = mappings [[','].intercalate vs]) ∧
    (∀ vs ws, mappings (vs ++ ws) = mappings vs ++ mappings ws) ∧
    (∀ vs, mappings (mappings vs) = mappings vs) ∧
    ∀ vs, ∀ m ∈ mappings vs, Piece m := by
  refine ⟨fun vs ws h => ?_, fun vs => ?_, mappings_append, fun vs => ?_,
    fun vs m => Piece.of_mem_mappings⟩
  · have hm : mappings vs = mappings ws := by rw [mappings_eq_pieces, h, ← mappings_eq_pieces]
    exact ⟨hm, resolveRoutes_congr hm⟩
  · rw [mappings_eq_pieces vs, mappings_eq_flatMap, List.flatMap_singleton]
  · exact mappings_eq_self fun m => Piece.of_mem_mappings

/-- Two values with blanks and spare commas against four plain ones. -/
theorem mappings_grouping_spare :
    let vs := ["/a=http://h , ,/b=http://g,".toList, "\u00a0".toList]
    let ws := ["".toList, "/a=http://h".toList, " /b=http://g".toList, ",".toList]
    pieces ([','].intercalate vs) = pieces ([','].intercalate ws) ∧ mappings vs = mappings ws ∧
      resolveRoutes vs [] " ".toList = resolveRoutes ws [] " ".toList ∧
      "/b=http://g".toList ∈ mappings vs ∧ Piece "/b=http://g".toList := by
  intro vs ws
  have h : pieces ([','].intercalate vs) = pieces ([','].intercalate ws) := by rfl
  have hm : "/b=http://g".toList ∈ mappings vs := by decide +kernel
  obtain ⟨hmappings, hroutes⟩ := mappings_grouping.1 vs ws h
  exact ⟨h, hmappings, hroutes [] " ".toList, hm, mappings_grouping.2.2.2.2 vs _ hm⟩

end RouteTable

end SiteGateway
