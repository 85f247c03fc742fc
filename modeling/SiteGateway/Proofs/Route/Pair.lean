import SiteGateway.Proofs.Route.Built
import SiteGateway.Proofs.Route.Mappings

/-!
# One route written in two ways

A prefix and a backend are written as one mapping, or given apart. Blanks around the mapping are
blanks around its halves (`Route.parse_append_cons`), so both ways come to the same check of the
same two texts (`build_eq_map_ofParts`, `ofPair_eq_map_ofParts`). Given apart, two blank texts are
no route at all, which a mapping cannot say.
-/

namespace SiteGateway

open Text (Blank trim)

namespace Route
variable {m p b : Text}

theorem parse_append_cons (hp : '=' ∉ p) (b : Text) :
    parse (p ++ '=' :: b) = ofParts (trim p) (trim b) := by
  have hp' : '=' ∉ Text.trimStart p := fun h => hp ((List.dropWhile_suffix isBlank).subset h)
  have hne : (Text.trimStart p ++ '=' :: b.rdropWhile isBlank).isEmpty = false := by simp
  simp only [parse, Text.trim_append_cons (by decide : isBlank '=' = false), hne,
    Text.cut?_append_cons hp', Text.trim_trimStart, Text.trim_rdropWhile]
  rfl

theorem parse_trim (h : ¬ Blank m) : parse (trim m) = parse m := by
  have hne : (trim m).isEmpty = false :=
    List.isEmpty_eq_false_iff.mpr fun he => h (Text.trim_eq_nil_iff.mp he)
  simp only [parse, Text.trim_trim, hne]
  rfl

theorem exists_fault_of_ofParts {e : RouteError} (h : ofParts p b = .error e) :
    ∃ fault, e = .invalid (p ++ '=' :: b) fault := by
  obtain ⟨fault, -, rfl⟩ := Except.mapError_eq_error_iff.mp h
  exact ⟨fault, rfl⟩

end Route

namespace RouteTable
open Settings (resolveRoutes)
variable {m p b : Text}

theorem build_singleton (m : Text) : build [m] = (Route.parse m).map fun r => ⟨[r]⟩ := by
  cases hm : Route.parse m with
  | error e => rw [build, List.mapM_cons, hm]; rfl
  | ok r =>
    rw [build, List.mapM_cons, hm]
    change ofRoutes [r] = .ok ⟨[r]⟩
    exact ofRoutes_eq_ok_iff.mpr ⟨by simp, by rw [List.mergeSort_singleton]⟩

theorem build_eq_map_ofParts (hp : '=' ∉ p) (b : Text) :
    build [p ++ '=' :: b] = (Route.ofParts (trim p) (trim b)).map fun r => ⟨[r]⟩ := by
  rw [build_singleton, Route.parse_append_cons hp]

theorem ofPair_eq_map_ofParts (h : ¬ (Blank p ∧ Blank b)) :
    ofPair p b = (Route.ofParts (trim p) (trim b)).map fun r => ⟨[r]⟩ := by
  have hne : ((trim p).isEmpty && (trim b).isEmpty) = false := by
    rw [← Text.trim_eq_nil_iff, ← Text.trim_eq_nil_iff] at h
    simpa [Bool.and_eq_false_iff, or_iff_not_imp_left] using h
  simp only [ofPair, hne]
  rfl

theorem ofPair_trim (p b : Text) : ofPair (trim p) (trim b) = ofPair p b := by
  simp only [ofPair, Text.trim_trim]

theorem mappings_append_cons (hp : ',' ∉ p) (hb : ',' ∉ b) :
    mappings [p ++ '=' :: b] = [trim (p ++ '=' :: b)] := by
  have hcomma : ',' ∉ p ++ '=' :: b := by simp [hp, hb]
  have hne : trim (p ++ '=' :: b) ≠ [] := fun h =>
    absurd (Text.trim_eq_nil_iff.mp h '=' (by simp)) (by decide)
  rw [mappings_eq_flatMap, List.flatMap_singleton, pieces, List.splitOn_eq_singleton hcomma]
  exact List.filter_cons_of_pos (decide_eq_true hne)

theorem resolveRoutes_of_mapping (hp : ',' ∉ p) (hb : ',' ∉ b) :
    resolveRoutes [p ++ '=' :: b] [] [] = (build [p ++ '=' :: b]).mapError .route := by
  have hblank : ¬ Blank (p ++ '=' :: b) := fun h => absurd (h '=' (by simp)) (by decide)
  rw [build_singleton, ← Route.parse_trim hblank, ← build_singleton]
  simp only [resolveRoutes, mappings_append_cons hp hb]
  rfl

theorem resolveRoutes_of_pair (hp : ¬ Blank p) (hb : ¬ Blank b) :
    resolveRoutes [] p b = (ofPair p b).mapError .route := by
  have hp' : (trim p).isEmpty = false :=
    List.isEmpty_eq_false_iff.mpr fun h => hp (Text.trim_eq_nil_iff.mp h)
  have hb' : (trim b).isEmpty = false :=
    List.isEmpty_eq_false_iff.mpr fun h => hb (Text.trim_eq_nil_iff.mp h)
  simp only [resolveRoutes, hp', hb', ofPair_trim]
  rfl

/-! ### Mappings beside a pair -/

theorem resolveRoutes_congr_trim {p' b' : Text} (hp : trim p = trim p') (hb : trim b = trim b')
    (ms : List Text) : resolveRoutes ms p b = resolveRoutes ms p' b' := by
  simp only [resolveRoutes, hp, hb]

theorem blank_of_resolveRoutes {ms : List Text} {t : RouteTable} (hm : mappings ms ≠ [])
    (h : resolveRoutes ms p b = .ok t) : Blank p ∧ Blank b := by
  have hne : (!(mappings ms).isEmpty) = true := by simpa using hm
  simp only [resolveRoutes, hne, if_true] at h
  split at h
  · cases h
  next hpair => simpa [Text.trim_eq_nil_iff] using hpair

/-- Without mappings there is a route or none, and so there are both a prefix and a backend or
neither. -/
theorem blank_iff_of_resolveRoutes {ms : List Text} {t : RouteTable} (hm : mappings ms = [])
    (h : resolveRoutes ms p b = .ok t) : (Blank p ↔ t = .empty) ∧ (Blank b ↔ t = .empty) := by
  simp only [resolveRoutes, hm, List.isEmpty_nil, Bool.not_true, Bool.false_eq_true, if_false] at h
  split at h
  · cases h
  next hne =>
    have hsame : (trim p).isEmpty = (trim b).isEmpty := by simpa using hne
    have hiff : Blank p ↔ Blank b := by
      rw [← Text.trim_eq_nil_iff, ← Text.trim_eq_nil_iff, ← List.isEmpty_iff, ← List.isEmpty_iff,
        hsame]
    have hpair := Except.mapError_eq_ok_iff.mp h
    rw [ofPair_trim] at hpair
    rw [← hiff, and_self]
    by_cases hp : Blank p
    · rw [ofPair, Text.trim_eq_nil_iff.mpr hp, Text.trim_eq_nil_iff.mpr (hiff.mp hp)] at hpair
      cases hpair
      exact iff_of_true hp rfl
    · rw [ofPair_eq_map_ofParts fun h => hp h.1] at hpair
      obtain ⟨r, -, rfl⟩ := Except.map_eq_ok_iff.mp hpair
      refine iff_of_false hp fun hempty => ?_
      cases hempty

/-- A prefix and a backend of which one at least is not blank come to the same single route, or to
the same error about the same mapping, whichever way they are written. So they do as settings, where
both have to be there and a comma would end the mapping. -/
theorem build_eq_ofPair (hp : '=' ∉ p) (hne : ¬ (Blank p ∧ Blank b)) :
    build [p ++ '=' :: b] = ofPair p b ∧
    ((∃ r, ofPair p b = .ok ⟨[r]⟩) ∨
      ∃ fault, ofPair p b = .error (.invalid (trim p ++ '=' :: trim b) fault)) ∧
    (¬ Blank p → ¬ Blank b → ',' ∉ p → ',' ∉ b →
      resolveRoutes [p ++ '=' :: b] [] [] = resolveRoutes [] p b) := by
  have heq : build [p ++ '=' :: b] = ofPair p b := by
    rw [build_eq_map_ofParts hp, ofPair_eq_map_ofParts hne]
  refine ⟨heq, ?_, fun hpb hbb hpc hbc => ?_⟩
  · rw [ofPair_eq_map_ofParts hne]
    cases h : Route.ofParts (trim p) (trim b) with
    | ok r => exact .inl ⟨r, rfl⟩
    | error e =>
      obtain ⟨fault, rfl⟩ := Route.exists_fault_of_ofParts h
      exact .inr ⟨fault, rfl⟩
  · rw [resolveRoutes_of_mapping hpc hbc, heq, resolveRoutes_of_pair hpb hbb]

/-- Blanks of several kinds around both halves, and a second separator in the backend. -/
theorem build_eq_ofPair_spaced :
    let p := "\t/api\u2003".toList
    let b := "\u00a0http://h?x=1 \n".toList
    ('=' ∉ p ∧ ¬ (Blank p ∧ Blank b)) ∧ build [p ++ '=' :: b] = ofPair p b ∧
      (¬ Blank p ∧ ¬ Blank b ∧ ',' ∉ p ∧ ',' ∉ b) ∧
      resolveRoutes [p ++ '=' :: b] [] [] = resolveRoutes [] p b := by
  intro p b
  have hp : '=' ∉ p := by decide
  have hne : ¬ (Blank p ∧ Blank b) := by decide
  have hboth : ¬ Blank p ∧ ¬ Blank b ∧ ',' ∉ p ∧ ',' ∉ b := by decide
  obtain ⟨heq, -, hsettings⟩ := build_eq_ofPair hp hne
  exact ⟨⟨hp, hne⟩, heq, hboth, hsettings hboth.1 hboth.2.1 hboth.2.2.1 hboth.2.2.2⟩

end RouteTable

end SiteGateway
