import Mathlib.Data.List.Nodup
import SiteGateway.Proofs.Percent
import SiteGateway.Proofs.Site.Policy

/-!
# The most specific route

A table that was built holds its routes by falling length of their prefixes, and no prefix twice
(`Ordered`). The prefixes that one path starts with are all different in length, so the first route
found is the one with the longest prefix (`Ordered.find?_eq_some_iff`), whatever order the mappings
were written in.
-/

namespace SiteGateway

/-- The path starts with the prefix of the route, byte by byte. -/
def Route.Starts (r : Route) (path : Text) : Prop :=
  Utf8.encode r.pathPrefix <+: Utf8.encode path

theorem Route.covers_iff {r : Route} {path : Text} : r.covers path = true ↔ r.Starts path := by
  rw [covers, List.isPrefixOf_iff_prefix, Starts, Utf8.encode_prefix_iff]

namespace RouteTable
variable {ms ms' : List Text} {rs : List Route} {t t' : RouteTable} {path : Text} {r s : Route}

theorem find?_eq_none_iff : t.find? path = none ↔ ∀ r ∈ t.routes, ¬ r.Starts path := by
  rw [find?, List.find?_eq_none]
  simp only [Route.covers_iff]

/-- Longer prefixes come first, and no prefix comes twice. -/
structure Ordered (t : RouteTable) : Prop where
  distinct : (t.routes.map (·.pathPrefix)).Nodup
  falling : t.routes.Pairwise fun r s => weight s ≤ weight r

theorem weight_trans (a b c : Route) (hab : decide (weight b ≤ weight a) = true)
    (hbc : decide (weight c ≤ weight b) = true) : decide (weight c ≤ weight a) = true := by
  simp only [decide_eq_true_eq] at *
  omega

theorem weight_total (a b : Route) :
    (decide (weight b ≤ weight a) || decide (weight a ≤ weight b)) = true := by
  simp only [Bool.or_eq_true, decide_eq_true_eq]
  omega

theorem ordered_of_ofRoutes (h : ofRoutes rs = .ok t) : t.Ordered := by
  obtain ⟨hn, rfl⟩ := ofRoutes_eq_ok_iff.mp h
  refine ⟨((List.mergeSort_perm rs _).map _).nodup_iff.mpr hn, ?_⟩
  exact (List.pairwise_mergeSort weight_trans weight_total rs).imp fun h => of_decide_eq_true h

theorem ordered_of_build (h : build ms = .ok t) : t.Ordered := by
  obtain ⟨rs, -, hrs⟩ := Except.bind_eq_ok_iff.mp h
  exact ordered_of_ofRoutes hrs

theorem Built.ordered (h : Built t) : t.Ordered := by
  cases h with
  | empty => exact ⟨List.nodup_nil, .nil⟩
  | build h => exact ordered_of_build h
  | ofPair h =>
    simp only [RouteTable.ofPair] at h
    split at h
    · cases h
      exact ⟨List.nodup_nil, .nil⟩
    · obtain ⟨r, -, rfl⟩ := Except.map_eq_ok_iff.mp h
      exact ⟨List.nodup_singleton _, List.pairwise_singleton ..⟩

/-- The order of the mappings does not decide whether a table can be built, nor what is in it. -/
theorem exists_build_of_perm (hp : ms.Perm ms') (h : build ms = .ok t) :
    ∃ t', build ms' = .ok t' ∧ t'.routes.Perm t.routes := by
  obtain ⟨rs, hms, hrs⟩ := Except.bind_eq_ok_iff.mp h
  obtain ⟨hn, rfl⟩ := ofRoutes_eq_ok_iff.mp hrs
  obtain ⟨rs', hms', hperm⟩ := Except.mapM_perm hp hms
  refine ⟨_, Except.bind_eq_ok_iff.mpr ⟨rs', hms', ofRoutes_eq_ok_iff.mpr
    ⟨(hperm.map _).nodup_iff.mpr hn, rfl⟩⟩, ?_⟩
  exact (List.mergeSort_perm rs' _).trans (hperm.trans (List.mergeSort_perm rs _).symm)

/-- Among the routes whose prefix the path starts with, this one has the longest prefix. -/
structure Selects (t : RouteTable) (path : Text) (r : Route) : Prop where
  mem : r ∈ t.routes
  starts : r.Starts path
  longest : ∀ s ∈ t.routes, s.Starts path → s ≠ r → weight s < weight r

theorem Selects.unique (hr : t.Selects path r) (hs : t.Selects path s) : s = r := by
  by_cases h : s = r
  · exact h
  have h₁ := hr.longest s hs.mem hs.starts h
  have h₂ := hs.longest r hr.mem hr.starts (Ne.symm h)
  omega

theorem selects_perm (hp : t'.routes.Perm t.routes) : t'.Selects path r ↔ t.Selects path r := by
  constructor <;> rintro ⟨hm, hs, hl⟩
  · exact ⟨hp.mem_iff.mp hm, hs, fun s hsm => hl s (hp.mem_iff.mpr hsm)⟩
  · exact ⟨hp.mem_iff.mpr hm, hs, fun s hsm => hl s (hp.mem_iff.mp hsm)⟩

namespace Ordered

/-- Prefixes of one path that are equally long are one prefix. -/
theorem eq_of_starts (h : t.Ordered) (hr : r ∈ t.routes) (hs : s ∈ t.routes) (hpr : r.Starts path)
    (hps : s.Starts path) (hw : weight r = weight s) : r = s := by
  have hpre : Utf8.encode r.pathPrefix <+: Utf8.encode s.pathPrefix :=
    List.prefix_of_prefix_length_le hpr hps (Nat.le_of_eq hw)
  have he : r.pathPrefix = s.pathPrefix := Utf8.encode_inj.mp (hpre.eq_of_length hw)
  exact List.inj_on_of_nodup_map h.distinct hr hs he

theorem selects_of_find? (h : t.Ordered) (hf : t.find? path = some r) : t.Selects path r := by
  obtain ⟨hc, before, after, hsplit, hbefore⟩ := List.find?_eq_some_iff_append.mp hf
  have hr : r ∈ t.routes := by rw [hsplit]; simp
  have hstarts := Route.covers_iff.mp hc
  refine ⟨hr, hstarts, fun s hs hps hne => ?_⟩
  have hle : weight s ≤ weight r := by
    have hfall := h.falling
    rw [hsplit] at hs hfall
    rcases List.mem_append.mp hs with hs | hs
    · have hcov := hbefore s hs
      rw [Route.covers_iff.mpr hps] at hcov
      cases hcov
    rcases List.mem_cons.mp hs with rfl | hs
    · exact absurd rfl hne
    · exact (List.pairwise_cons.mp (List.pairwise_append.mp hfall).2.1).1 s hs
  rcases Nat.lt_or_eq_of_le hle with hlt | heq
  · exact hlt
  · exact absurd (h.eq_of_starts hs hr hps hstarts heq) hne

/-- The route that is found is the one with the longest prefix. -/
theorem find?_eq_some_iff (h : t.Ordered) : t.find? path = some r ↔ t.Selects path r := by
  refine ⟨h.selects_of_find?, fun hr => ?_⟩
  cases hf : t.find? path with
  | none => exact absurd hr.starts (find?_eq_none_iff.mp hf r hr.mem)
  | some s => rw [hr.unique (h.selects_of_find? hf)]

theorem exists_selects (h : t.Ordered) (hs : ∃ r ∈ t.routes, r.Starts path) :
    ∃ r, t.Selects path r := by
  cases hf : t.find? path with
  | none =>
    obtain ⟨r, hr, hp⟩ := hs
    exact absurd hp (find?_eq_none_iff.mp hf r hr)
  | some r => exact ⟨r, h.selects_of_find? hf⟩

end Ordered

end RouteTable

namespace Stage
variable {w : World} {t : RouteTable} {r : Request} {x : Route}

/-- The dispatcher finds this route for a request and answers through it. -/
structure SendsTo (w : World) (t : RouteTable) (r : Request) (x : Route) : Prop where
  found : t.find? (SiteRoot.display r.path) = some x
  answered : ∃ a, (Ruling.route x).answer? w r = some a ∧ runProxy w t r = .handled a

theorem runProxy_eq_passed_iff :
    runProxy w t r = .passed r ↔ t.find? (SiteRoot.display r.path) = none := by
  rw [runProxy_eq]
  split
  · rename_i h
    simp [h]
  · rename_i h
    simp [h]

theorem sendsTo_iff : SendsTo w t r x ↔ t.find? (SiteRoot.display r.path) = some x := by
  refine ⟨SendsTo.found, fun h => ⟨h, ?_⟩⟩
  have hf := follows_proxy (w := w) (r := r) t
  have hrule : firstRule ((Stage.proxy t).rules w.site r.path) = some (.route x) := by
    simp [rules, h]
  rw [Follows, hrule] at hf
  exact hf

end Stage

open Stage in
/-- A table that was built sends every request through the route with the longest prefix that its
decoded path starts with, or passes it on if there is none. Neither the order of the mappings nor
the way in which the path is escaped plays a part. -/
theorem RouteTable.sendsTo_longest_of_build {ms : List Text} {t : RouteTable}
    (h : build ms = .ok t) :
    (∀ w r,
      (runProxy w t r = .passed r ↔ ∀ x ∈ t.routes, ¬ x.Starts (SiteRoot.display r.path)) ∧
      ((∃ x ∈ t.routes, x.Starts (SiteRoot.display r.path)) →
        ∃ x, t.Selects (SiteRoot.display r.path) x ∧ SendsTo w t r x ∧
          ∀ y, t.Selects (SiteRoot.display r.path) y → y = x)) ∧
    (∀ ms', ms.Perm ms' → ∃ t', build ms' = .ok t' ∧ ∀ path, t'.find? path = t.find? path) ∧
    (∀ w r r', SiteRoot.display r.path = SiteRoot.display r'.path →
      ∀ x, SendsTo w t r x ↔ SendsTo w t r' x) ∧
    ∀ x : Route, '\uFFFD' ∉ x.pathPrefix → ∀ path,
      (x.Starts (SiteRoot.display path) ↔ Utf8.encode x.pathPrefix <+: Percent.spelled path) := by
  have ho := ordered_of_build h
  refine ⟨fun w r => ⟨?_, fun hs => ?_⟩, fun ms' hp => ?_, fun w r r' he x => ?_,
    fun x hx path => ?_⟩
  · rw [runProxy_eq_passed_iff, find?_eq_none_iff]
  · obtain ⟨x, hx⟩ := ho.exists_selects hs
    exact ⟨x, hx, sendsTo_iff.mpr (ho.find?_eq_some_iff.mpr hx), fun y hy => hx.unique hy⟩
  · obtain ⟨t', ht', hperm⟩ := exists_build_of_perm hp h
    refine ⟨t', ht', fun path => Option.ext fun x => ?_⟩
    rw [(ordered_of_build ht').find?_eq_some_iff, ho.find?_eq_some_iff, selects_perm hperm]
  · rw [sendsTo_iff, sendsTo_iff, he]
  · rw [Route.Starts, Utf8.encode_prefix_iff, SiteRoot.display,
      ← Utf8.encode_prefix_iff_decodeLossy hx]
    rfl

/-- Two routes, one below the other. -/
def RouteTable.nested : RouteTable :=
  let backend (host : String) : Url :=
    ⟨"http".toList, [], [], some (.domain host.toList), none, .segments [[]], none, none⟩
  ⟨[⟨"/api/internal".toList, backend "b"⟩, ⟨"/api".toList, backend "a"⟩]⟩

theorem RouteTable.build_nested :
    build (["/api=http://a", "/api/internal=http://b"].map String.toList) = .ok nested := by
  have hr : (["/api=http://a", "/api/internal=http://b"].map String.toList).mapM Route.parse =
      .ok nested.routes.reverse := Except.toOption_eq_some_iff.mp (by rfl)
  obtain ⟨t, ht⟩ : ∃ t, build (["/api=http://a", "/api/internal=http://b"].map String.toList) =
      .ok t ∧ t = ⟨nested.routes.reverse.mergeSort fun a b => weight b ≤ weight a⟩ :=
    ⟨_, Except.bind_eq_ok_iff.mpr ⟨_, hr, ofRoutes_eq_ok_iff.mpr ⟨by decide +kernel, rfl⟩⟩, rfl⟩
  have hperm : t.routes.Perm nested.routes := by
    rw [ht.2]
    exact (List.mergeSort_perm _ _).trans (List.reverse_perm _)
  have hdiffer : ∀ a ∈ nested.routes, ∀ b ∈ nested.routes, weight b ≤ weight a →
      weight a ≤ weight b → a = b := by
    decide +kernel
  have hroutes : t.routes = nested.routes :=
    List.Perm.eq_of_pairwise (fun a b ha hb => hdiffer a (hperm.mem_iff.mp ha) b hb)
      (ordered_of_build ht.1).falling (by decide +kernel) hperm
  rw [ht.1]
  exact congrArg (fun rs => Except.ok (RouteTable.mk rs)) hroutes

/-- Both prefixes start the path; the longer one is taken. -/
theorem RouteTable.sendsTo_nested :
    build (["/api=http://a", "/api/internal=http://b"].map String.toList) = .ok nested ∧
      ∃ x, x.pathPrefix = "/api/internal".toList ∧
        Stage.SendsTo ⟨.ofTexts [], .offline, true⟩ nested (.get "/%61pi/internal/x") x := by
  refine ⟨build_nested, ?_⟩
  have hlong : ∃ y ∈ nested.routes, weight y = 13 ∧
      y.Starts (SiteRoot.display (Request.get "/%61pi/internal/x").path) :=
    ⟨_, .head _, by rfl, Route.covers_iff.mp (by rfl)⟩
  obtain ⟨y, hy, hw, hs⟩ := hlong
  obtain ⟨x, hx, hsends, -⟩ :=
    ((sendsTo_longest_of_build build_nested).1 ⟨.ofTexts [], .offline, true⟩ _).2 ⟨y, hy, hs⟩
  refine ⟨x, ?_, hsends⟩
  have hxw : 13 ≤ weight x := by
    by_cases hne : y = x
    · exact hne ▸ Nat.le_of_eq hw.symm
    · have := hx.longest y hy hs hne
      omega
  have hall : ∀ z ∈ nested.routes, 13 ≤ weight z → z.pathPrefix = "/api/internal".toList := by
    decide +kernel
  exact hall x hx.mem hxw

end SiteGateway
