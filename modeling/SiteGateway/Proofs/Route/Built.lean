import SiteGateway.Proofs.Except
import SiteGateway.Settings.Resolve

/-!
# Tables that can be built

A route table comes from written mappings, from a prefix and a backend given apart, or it is empty.
Whatever way it came, every prefix in it starts with a slash, so no route covers the empty path. A
table of several routes is built exactly when their prefixes differ (`ofRoutes_eq_ok_iff`).
-/

namespace SiteGateway

namespace Route
variable {p b : Text} {r : Route}

theorem of_ofParts (h : ofParts p b = .ok r) :
    r.pathPrefix = p ∧ (∃ q, p = '/' :: q) ∧ readBackend b = .ok r.backend := by
  rw [ofParts, Except.mapError_eq_ok_iff] at h
  unfold check at h
  split at h
  · cases h
  · rename_i q
    obtain ⟨url, hurl, rfl⟩ := Except.map_eq_ok_iff.mp h
    exact ⟨rfl, ⟨q, rfl⟩, hurl⟩
  · cases h

theorem pathPrefix_of_ofParts (h : ofParts p b = .ok r) : ∃ q, r.pathPrefix = '/' :: q := by
  obtain ⟨he, ⟨q, hq⟩, -⟩ := of_ofParts h
  exact ⟨q, he.trans hq⟩

theorem exists_ofParts_of_parse {m : Text} (h : parse m = .ok r) : ∃ p b, ofParts p b = .ok r := by
  simp only [parse] at h
  split at h
  · cases h
  · split at h
    · cases h
    · exact ⟨_, _, h⟩

theorem pathPrefix_of_parse {m : Text} (h : parse m = .ok r) : ∃ q, r.pathPrefix = '/' :: q := by
  obtain ⟨p, b, h⟩ := exists_ofParts_of_parse h
  exact pathPrefix_of_ofParts h

end Route

namespace RouteTable

/-- A table that some settings lead to. -/
inductive Built : RouteTable → Prop
  | empty : Built .empty
  | build {mappings : List Text} {t : RouteTable} (h : build mappings = .ok t) : Built t
  | ofPair {p b : Text} {t : RouteTable} (h : ofPair p b = .ok t) : Built t

variable {rs : List Route} {t : RouteTable}

theorem firstRepeated?_eq_none_iff {seen : List Text} :
    firstRepeated? seen rs = none ↔
      (rs.map (·.pathPrefix)).Nodup ∧ ∀ r ∈ rs, r.pathPrefix ∉ seen := by
  induction rs generalizing seen with
  | nil => simp [firstRepeated?]
  | cons r rs ih =>
    rw [firstRepeated?]
    split
    · rename_i h
      rw [List.contains_iff_mem] at h
      simp [h]
    · rename_i h
      rw [List.contains_iff_mem] at h
      rw [ih, List.map_cons, List.nodup_cons]
      constructor
      · rintro ⟨hn, hs⟩
        refine ⟨⟨?_, hn⟩, ?_⟩
        · intro hm
          obtain ⟨s, hsm, he⟩ := List.mem_map.mp hm
          exact hs s hsm (he ▸ List.mem_cons_self ..)
        · intro s hsm
          rcases List.mem_cons.mp hsm with rfl | hsm
          · exact h
          · exact fun hm => hs s hsm (List.mem_cons_of_mem _ hm)
      · rintro ⟨⟨hr, hn⟩, hs⟩
        refine ⟨hn, fun s hsm hm => ?_⟩
        rcases List.mem_cons.mp hm with he | hm
        · exact hr (List.mem_map.mpr ⟨s, hsm, he⟩)
        · exact hs s (List.mem_cons_of_mem _ hsm) hm

theorem ofRoutes_eq_ok_iff :
    ofRoutes rs = .ok t ↔
      (rs.map (·.pathPrefix)).Nodup ∧ t = ⟨rs.mergeSort fun a b => weight b ≤ weight a⟩ := by
  have hn : firstRepeated? [] rs = none ↔ (rs.map (·.pathPrefix)).Nodup := by
    rw [firstRepeated?_eq_none_iff]
    simp
  rw [ofRoutes, ← hn]
  split
  · rename_i h
    simp [h]
  · rename_i h
    simp [h, eq_comm]

theorem perm_of_ofRoutes (h : ofRoutes rs = .ok t) : t.routes.Perm rs := by
  obtain ⟨-, rfl⟩ := ofRoutes_eq_ok_iff.mp h
  exact List.mergeSort_perm rs _

namespace Built

/-- Every route of a table went through the check of its prefix and its backend. -/
theorem exists_ofParts (h : Built t) : ∀ r ∈ t.routes, ∃ p b, Route.ofParts p b = .ok r := by
  cases h with
  | empty => simp [RouteTable.empty]
  | @build ms _ h =>
    obtain ⟨rs, hms, hrs⟩ := Except.bind_eq_ok_iff.mp h
    intro r hr
    obtain ⟨m, -, hm⟩ := Except.exists_of_mem_mapM hms ((perm_of_ofRoutes hrs).mem_iff.mp hr)
    exact Route.exists_ofParts_of_parse hm
  | @ofPair p b _ h =>
    simp only [RouteTable.ofPair] at h
    split at h
    · cases h; simp [RouteTable.empty]
    · obtain ⟨r₀, hr₀, rfl⟩ := Except.map_eq_ok_iff.mp h
      intro r hr
      obtain rfl := List.mem_singleton.mp hr
      exact ⟨_, _, hr₀⟩

theorem pathPrefix_eq (h : Built t) : ∀ r ∈ t.routes, ∃ q, r.pathPrefix = '/' :: q := by
  intro r hr
  obtain ⟨p, b, hr⟩ := h.exists_ofParts r hr
  exact Route.pathPrefix_of_ofParts hr

theorem find?_nil (h : Built t) : t.find? [] = none := by
  unfold find?
  rw [List.find?_eq_none]
  intro r hr
  obtain ⟨q, hq⟩ := h.pathPrefix_eq r hr
  simp [Route.covers, hq]

theorem of_resolveRoutes {ms : List Text} {p b : Text} (h : Settings.resolveRoutes ms p b = .ok t) :
    Built t := by
  simp only [Settings.resolveRoutes] at h
  split at h
  · split at h
    · cases h
    · exact .build (Except.mapError_eq_ok_iff.mp h)
  · split at h
    · cases h
    · exact .ofPair (Except.mapError_eq_ok_iff.mp h)

end Built

end RouteTable

end SiteGateway
