import SiteGateway.Proofs.Route.Selection
import SiteGateway.Proofs.Sort

/-!
# What comes of building a table

Building reads all mappings before it compares any prefixes, and compares all prefixes before it
sorts. So a mapping that cannot be read hides every repeated prefix, also one in front of it.
`RouteTable.Builds` lists the three ways this ends, and each of them leaves a single result, since
routes can be arranged in one way only (`Arranges.routes_eq`). So the list says of every result
whether it is the one (`RouteTable.build_eq_iff`).
-/

namespace SiteGateway

theorem Route.exists_invalid_of_parse {m : Text} {e : RouteError} (h : Route.parse m = .error e) :
    ∃ mapping fault, e = .invalid mapping fault := by
  simp only [Route.parse] at h
  split at h
  · exact ⟨_, _, (Except.error.inj h).symm⟩
  split at h
  · exact ⟨_, _, (Except.error.inj h).symm⟩
  · obtain ⟨fault, -, rfl⟩ := Except.mapError_eq_error_iff.mp h
    exact ⟨_, _, rfl⟩

namespace RouteTable
variable {ms : List Text} {rs : List Route} {t : RouteTable} {x : Except RouteError RouteTable}

/-! ## The prefix that occurs again -/

theorem firstRepeated?_eq_some_iff {seen : List Text} {p : Text} :
    firstRepeated? seen rs = some p ↔ ∃ front r back, rs = front ++ r :: back ∧
      firstRepeated? seen front = none ∧ p = r.pathPrefix ∧
      (p ∈ seen ∨ p ∈ front.map (·.pathPrefix)) := by
  induction rs generalizing seen with
  | nil => simp [firstRepeated?]
  | cons r rs ih =>
    by_cases hr : seen.contains r.pathPrefix = true
    · rw [firstRepeated?, if_pos hr, List.contains_iff_mem] at *
      constructor
      · rintro h
        obtain rfl := Option.some.inj h
        exact ⟨[], r, rs, rfl, rfl, rfl, .inl hr⟩
      · rintro ⟨_ | ⟨r', front⟩, r'', back, heq, hfront, rfl, -⟩
        · rw [(List.cons.inj heq).1]
        · obtain ⟨rfl, -⟩ := List.cons.inj heq
          rw [firstRepeated?, if_pos (List.contains_iff_mem.mpr hr)] at hfront
          cases hfront
    · rw [firstRepeated?, if_neg hr, ih]
      constructor
      -- the first route counts as seen further on, so it moves between the two lists
      · rintro ⟨front, r', back, rfl, hfront, rfl, hmem⟩
        refine ⟨r :: front, r', back, rfl, ?_, rfl, ?_⟩
        · rw [firstRepeated?, if_neg hr, hfront]
        · rw [List.map_cons, List.mem_cons]
          rcases hmem with hmem | hmem
          · rcases List.mem_cons.mp hmem with he | hmem
            · exact .inr (.inl he)
            · exact .inl hmem
          · exact .inr (.inr hmem)
      · rintro ⟨_ | ⟨r', front⟩, r'', back, heq, hfront, rfl, hmem⟩
        · obtain ⟨rfl, rfl⟩ := List.cons.inj heq
          exact absurd (List.contains_iff_mem.mpr (hmem.resolve_right List.not_mem_nil)) hr
        · obtain ⟨rfl, rfl⟩ := List.cons.inj heq
          rw [firstRepeated?, if_neg hr] at hfront
          refine ⟨front, r'', back, rfl, hfront, rfl, ?_⟩
          rw [List.map_cons, List.mem_cons] at hmem
          rcases hmem with hmem | he | hmem
          · exact .inl (List.mem_cons_of_mem _ hmem)
          · exact .inl (he ▸ List.mem_cons_self ..)
          · exact .inr hmem

theorem firstRepeated?_nil_eq_none_iff :
    firstRepeated? [] rs = none ↔ (rs.map (·.pathPrefix)).Nodup := by
  rw [firstRepeated?_eq_none_iff]
  simp

theorem ofRoutes_eq_error_iff {e : RouteError} :
    ofRoutes rs = .error e ↔ ∃ front r back, rs = front ++ r :: back ∧
      (front.map (·.pathPrefix)).Nodup ∧ r.pathPrefix ∈ front.map (·.pathPrefix) ∧
      e = .duplicatePrefix r.pathPrefix := by
  have hrepeated : ofRoutes rs = .error e ↔
      ∃ p, firstRepeated? [] rs = some p ∧ e = .duplicatePrefix p := by
    rw [ofRoutes]
    split
    next p hp => simp [hp, eq_comm]
    next hp => simp [hp]
  rw [hrepeated]
  constructor
  · rintro ⟨p, hp, rfl⟩
    obtain ⟨front, r, back, rfl, hfront, rfl, hmem⟩ := firstRepeated?_eq_some_iff.mp hp
    exact ⟨front, r, back, rfl, firstRepeated?_nil_eq_none_iff.mp hfront,
      hmem.resolve_left List.not_mem_nil, rfl⟩
  · rintro ⟨front, r, back, rfl, hfront, hmem, rfl⟩
    exact ⟨r.pathPrefix, firstRepeated?_eq_some_iff.mpr ⟨front, r, back, rfl,
      firstRepeated?_nil_eq_none_iff.mpr hfront, rfl, .inr hmem⟩, rfl⟩

/-! ## The order of a table -/

/-- The routes of a table, and the order in which they were written. -/
structure Arranges (rs : List Route) (t : RouteTable) : Prop where
  perm : t.routes.Perm rs
  ordered : t.Ordered
  rooted : ∀ r ∈ t.routes, ∃ q, r.pathPrefix = '/' :: q
  /-- Prefixes of one length stay in the order in which they were written. -/
  stable : ∀ n, (t.routes.filter fun r => weight r = n) = rs.filter fun r => weight r = n

theorem arranges_mergeSort (hn : (rs.map (·.pathPrefix)).Nodup)
    (hrooted : ∀ r ∈ rs, ∃ q, r.pathPrefix = '/' :: q) :
    Arranges rs ⟨rs.mergeSort fun a b => weight b ≤ weight a⟩ where
  perm := List.mergeSort_perm rs _
  ordered := ordered_of_ofRoutes (ofRoutes_eq_ok_iff.mpr ⟨hn, rfl⟩)
  rooted r hr := hrooted r ((List.mergeSort_perm rs _).mem_iff.mp hr)
  stable n := by
    refine List.filter_mergeSort weight_trans weight_total fun a b ha hb => ?_
    simp only [decide_eq_true_eq] at *
    omega

theorem Ordered.pairwise (h : t.Ordered) :
    t.routes.Pairwise fun a b => decide (weight b ≤ weight a) = true :=
  h.falling.imp fun h => decide_eq_true h

/-- Routes can be arranged in one way only. -/
theorem Arranges.routes_eq (h : Arranges rs t) :
    t.routes = rs.mergeSort fun a b => weight b ≤ weight a := by
  have hn : (rs.map (·.pathPrefix)).Nodup := (h.perm.map _).nodup_iff.mp h.ordered.distinct
  have hsorted := arranges_mergeSort hn fun r hr => h.rooted r (h.perm.mem_iff.mpr hr)
  have hclass (a : Route) :
      (fun b => decide (weight b ≤ weight a) && decide (weight a ≤ weight b)) =
        fun b => decide (weight b = weight a) := by
    funext b
    rw [← Bool.decide_and]
    exact decide_eq_decide.mpr Nat.le_antisymm_iff.symm
  refine List.eq_of_pairwise_of_filter ?_ h.ordered.pairwise hsorted.ordered.pairwise fun a => ?_
  · exact fun a => decide_eq_true (Nat.le_refl _)
  · rw [hclass, h.stable, hsorted.stable]

/-! ## The three ways -/

/-- What comes of building a table from written mappings. -/
inductive Builds (ms : List Text) : Except RouteError RouteTable → Prop
  /-- The first mapping that cannot be read is named, whatever prefixes stand in front of it. -/
  | unreadable {front back : List Text} {m mapping : Text} {fault : RouteFault}
      (hms : ms = front ++ m :: back) (hfront : ∀ x ∈ front, ∃ r, Route.parse x = .ok r)
      (hm : Route.parse m = .error (.invalid mapping fault)) :
      Builds ms (.error (.invalid mapping fault))
  /-- All can be read, and the first prefix that occurred before is named. -/
  | repeated {front back : List Route} {r : Route}
      (hrs : List.Forall₂ (fun m r => Route.parse m = .ok r) ms (front ++ r :: back))
      (hfront : (front.map (·.pathPrefix)).Nodup) (hr : r.pathPrefix ∈ front.map (·.pathPrefix)) :
      Builds ms (.error (.duplicatePrefix r.pathPrefix))
  | arranged {rs : List Route} {t : RouteTable}
      (hrs : List.Forall₂ (fun m r => Route.parse m = .ok r) ms rs) (ht : Arranges rs t) :
      Builds ms (.ok t)

theorem rooted_of_forall₂ (hrs : List.Forall₂ (fun m r => Route.parse m = .ok r) ms rs) :
    ∀ r ∈ rs, ∃ q, r.pathPrefix = '/' :: q := by
  intro r hr
  obtain ⟨m, -, hm⟩ := Except.exists_of_mem_mapM (Except.mapM_eq_ok_iff.mpr hrs) hr
  exact Route.pathPrefix_of_parse hm

theorem build_of_forall₂ (hrs : List.Forall₂ (fun m r => Route.parse m = .ok r) ms rs) :
    build ms = ofRoutes rs := by
  rw [build, Except.mapM_eq_ok_iff.mpr hrs]
  rfl

theorem builds_build (ms : List Text) : Builds ms (build ms) := by
  cases hms : ms.mapM Route.parse with
  | error e =>
    obtain ⟨front, m, back, heq, hfront, hm⟩ := Except.mapM_eq_error_iff.mp hms
    obtain ⟨mapping, fault, rfl⟩ := Route.exists_invalid_of_parse hm
    rw [build, hms]
    exact .unreadable heq hfront hm
  | ok rs =>
    have hrs := Except.mapM_eq_ok_iff.mp hms
    rw [build_of_forall₂ hrs]
    cases ht : ofRoutes rs with
    | error e =>
      obtain ⟨front, r, back, rfl, hfront, hr, rfl⟩ := ofRoutes_eq_error_iff.mp ht
      exact .repeated hrs hfront hr
    | ok t =>
      obtain ⟨hn, rfl⟩ := ofRoutes_eq_ok_iff.mp ht
      exact .arranged hrs (arranges_mergeSort hn (rooted_of_forall₂ hrs))

/-- The table of written mappings, or what is wrong with them. A mapping that cannot be read comes
before a repeated prefix, the first of each is named, and a table holds all routes, by falling
length of their prefixes and otherwise as they were written. -/
theorem build_eq_iff : build ms = x ↔ Builds ms x := by
  constructor
  · rintro rfl
    exact builds_build ms
  · intro h
    cases h with
    | unreadable hms hfront hm =>
      rw [build, Except.mapM_eq_error_iff.mpr ⟨_, _, _, hms, hfront, hm⟩]
      rfl
    | repeated hrs hfront hr =>
      rw [build_of_forall₂ hrs]
      exact ofRoutes_eq_error_iff.mpr ⟨_, _, _, rfl, hfront, hr, rfl⟩
    | @arranged rs t hrs ht =>
      rw [build_of_forall₂ hrs]
      have hn : (rs.map (·.pathPrefix)).Nodup := (ht.perm.map _).nodup_iff.mp ht.ordered.distinct
      exact ofRoutes_eq_ok_iff.mpr ⟨hn, congrArg RouteTable.mk ht.routes_eq⟩

example : build (["/a=http://h", "/a=http://h", "/b"].map String.toList) =
    .error (.invalid "/b".toList .noSeparator) := by
  rfl

end RouteTable
end SiteGateway
