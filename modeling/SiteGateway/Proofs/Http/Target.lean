import Mathlib.Data.List.TakeWhile
import SiteGateway.Http.Target
import SiteGateway.Proofs.Text.Split
import SiteGateway.Proofs.Text.Utf8

/-!
# Request targets that were read

`Target.Reads` has the four forms in which a target is read. A path and a query that were read may
be written one after the other and are read again (`Target.pathAndQuery?_append`), so the path and
the query of a whole URL make a target of their own (`Target.parse?_origin`).
-/

namespace SiteGateway

namespace Target
variable {t : Target} {u x path : Text} {c : Char}

theorem apart_of_pathChar (h : pathChar c = true) : c ≠ '?' ∧ c ≠ '#' := by
  constructor <;> rintro rfl <;> exact absurd h (by decide)

theorem apart_of_queryChar (h : queryChar c = true) : c ≠ '#' := by
  rintro rfl
  exact absurd h (by decide)

theorem queryText_of_none (h : t.query = none) : t.queryText = [] := by rw [queryText, h]

theorem queryText_of_some {q : Text} (h : t.query = some q) : t.queryText = '?' :: q := by
  rw [queryText, h]

/-- Path and query were checked, and only a fragment is lost. -/
theorem of_pathAndQuery? (h : pathAndQuery? x = some (t.rawPath, t.query)) :
    (∀ c ∈ t.rawPath, pathChar c = true) ∧ (∀ q ∈ t.query, ∀ c ∈ q, queryChar c = true) ∧
      x.takeWhile (· != '#') = t.rawPath ++ t.queryText := by
  rw [pathAndQuery?] at h
  generalize x.takeWhile (· != '#') = y at h ⊢
  by_cases hmark : '?' ∈ y
  · obtain ⟨front, back, rfl, hfront⟩ := List.eq_append_cons_of_mem hmark
    simp only [Text.cut?_append_cons hfront] at h
    obtain ⟨hall, h⟩ := Option.ite_none_right_eq_some.mp h
    obtain ⟨rfl, hq⟩ := Prod.mk.inj (Option.some.inj h)
    rw [Bool.and_eq_true, List.all_eq_true, List.all_eq_true] at hall
    rw [queryText, ← hq]
    exact ⟨hall.1, by rintro q ⟨⟩; exact hall.2, rfl⟩
  · simp only [Text.cut?_eq_none hmark] at h
    obtain ⟨hall, h⟩ := Option.ite_none_right_eq_some.mp h
    obtain ⟨rfl, hq⟩ := Prod.mk.inj (Option.some.inj h)
    rw [queryText, ← hq]
    exact ⟨List.all_eq_true.mp hall, nofun, (List.append_nil _).symm⟩

theorem pathAndQuery?_append (hp : ∀ c ∈ path, pathChar c = true)
    (hq : ∀ q ∈ t.query, ∀ c ∈ q, queryChar c = true) :
    pathAndQuery? (path ++ t.queryText) = some (path, t.query) := by
  have hall : path.all pathChar = true := List.all_eq_true.mpr hp
  have hmark : '?' ∉ path := fun hc => (apart_of_pathChar (hp _ hc)).1 rfl
  have hhash : ∀ c ∈ path ++ t.queryText, (c != '#') = true := by
    intro c hc
    rw [bne_iff_ne]
    rcases List.mem_append.mp hc with hc | hc
    · exact (apart_of_pathChar (hp c hc)).2
    · cases hquery : t.query with
      | none => rw [queryText_of_none hquery] at hc; cases hc
      | some q =>
        rw [queryText_of_some hquery] at hc
        rcases List.mem_cons.mp hc with rfl | hc
        · decide
        · exact apart_of_queryChar (hq q hquery c hc)
  rw [pathAndQuery?, List.takeWhile_eq_self_iff.mpr hhash]
  cases hquery : t.query with
  | none => simp [queryText_of_none hquery, Text.cut?_eq_none hmark, hall]
  | some q =>
    have hall' : q.all queryChar = true := List.all_eq_true.mpr (hq q hquery)
    simp [queryText_of_some hquery, Text.cut?_append_cons hmark, hall, hall']

/-- The forms in which a target is read. -/
inductive Reads : Text → Target → Prop
  | asterisk : Reads ['*'] ⟨none, none, ['*'], none⟩
  | origin {u : Text} {t : Target} (hs : t.scheme = none) (ha : t.authority = none)
      (hu : u.head? = some '/') (h : pathAndQuery? u = some (t.rawPath, t.query)) : Reads u t
  | authority (u : Text) : Reads u ⟨none, some u, [], none⟩
  | absolute {front rest scheme authority : Text} {t : Target} (hs : t.scheme = some scheme)
      (ha : t.authority = some authority) (hfront : front ≠ [])
      (hrest : ∀ c ∈ rest.head?, c = '/' ∨ c = '?' ∨ c = '#')
      (h : pathAndQuery? rest = some (t.rawPath, t.query)) : Reads (front ++ rest) t

theorem exists_of_scheme? {scheme rest : Text} (h : scheme? u = some (scheme, rest)) :
    ∃ front, front ≠ [] ∧ u = front ++ rest := by
  obtain ⟨⟨written, rest'⟩, hcut, h⟩ := Option.bind_eq_some_iff.mp h
  refine ⟨written ++ "://".toList, List.append_ne_nil_of_right_ne_nil _ (by decide), ?_⟩
  dsimp only at h
  split at h
  · cases h
  · obtain ⟨-, rfl⟩ := Prod.mk.inj (Option.some.inj h)
    rw [List.append_assoc]
    exact Text.eq_append_of_cutAt? hcut

theorem reads_of_parse? (h : parse? u = some t) :
    (Utf8.encode u).length ≤ maxLength ∧ Reads u t := by
  unfold parse? at h
  split at h
  · cases h
  next hlen =>
    refine ⟨Nat.le_of_not_lt hlen, ?_⟩
    split at h
    · cases h
    · cases h
      exact .asterisk
    · obtain ⟨⟨path, query⟩, hq, rfl⟩ := Option.map_eq_some_iff.mp h
      exact .origin rfl rfl rfl hq
    · split at h
      · split at h
        · cases h
          exact .authority u
        · cases h
      next scheme rest hscheme =>
        extract_lets inside authority at h
        split at h
        · cases h
        · obtain ⟨⟨path, query⟩, hq, rfl⟩ := Option.map_eq_some_iff.mp h
          obtain ⟨front, hfront, rfl⟩ := exists_of_scheme? hscheme
          rw [← List.takeWhile_append_dropWhile (p := inside) (l := rest), ← List.append_assoc]
          refine .absolute rfl rfl (List.append_ne_nil_of_left_ne_nil hfront _) (fun c hc => ?_) hq
          have hstop := List.head?_dropWhile_not inside rest
          rw [Option.mem_def.mp hc] at hstop
          simpa [inside, or_iff_not_imp_left] using hstop

/-! ### The path -/

theorem head?_rawPath (h : pathAndQuery? x = some (t.rawPath, t.query))
    (hx : ∀ c ∈ x.head?, c = '/' ∨ c = '?' ∨ c = '#') :
    t.rawPath = [] ∨ t.rawPath.head? = some '/' := by
  obtain ⟨hall, -, htake⟩ := of_pathAndQuery? h
  cases hpath : t.rawPath with
  | nil => exact .inl rfl
  | cons c path =>
    rw [hpath] at hall htake
    have hhead : x.head? = some c := by
      cases x with
      | nil => cases htake
      | cons d x =>
        rw [List.takeWhile_cons] at htake
        split at htake
        · rw [(List.cons.inj htake).1, List.head?_cons]
        · cases htake
    have hc := apart_of_pathChar (hall c List.mem_cons_self)
    rcases hx c hhead with rfl | rfl | rfl
    · exact .inr rfl
    · exact absurd rfl hc.1
    · exact absurd rfl hc.2

theorem path_of_ne_nil (h : t.rawPath ≠ []) : t.path = t.rawPath := by
  rw [path, List.isEmpty_eq_false_iff.mpr h, Bool.false_and, if_neg Bool.false_ne_true]

theorem Reads.path_cases (h : Reads u t) :
    t.path = [] ∨ t.path = ['*'] ∨ t.path.head? = some '/' := by
  cases h with
  | asterisk => exact .inr (.inl rfl)
  | authority => exact .inl rfl
  | origin hs ha hu h =>
    have hslash : ∀ c ∈ u.head?, c = '/' ∨ c = '?' ∨ c = '#' := by
      rw [hu]
      rintro c ⟨⟩
      exact .inl rfl
    rcases head?_rawPath h hslash with hraw | hraw
    · exact .inl (by simp [path, hraw, hs])
    · exact .inr (.inr (by rwa [path_of_ne_nil (by rintro hn; simp [hn] at hraw)]))
  | absolute hs ha hfront hrest h =>
    rcases head?_rawPath h hrest with hraw | hraw
    · exact .inr (.inr (by simp [path, hraw, hs]))
    · exact .inr (.inr (by rwa [path_of_ne_nil (by rintro hn; simp [hn] at hraw)]))

theorem length_encode_pos (h : x ≠ []) : 0 < (Utf8.encode x).length := by
  obtain ⟨c, x, rfl⟩ := List.exists_cons_of_ne_nil h
  rw [Utf8.encode_cons, List.length_append]
  have := List.length_pos_iff.mpr (String.utf8EncodeChar_ne_nil (c := c))
  omega

theorem length_encode_le (h : pathAndQuery? x = some (t.rawPath, t.query)) :
    (Utf8.encode (t.rawPath ++ t.queryText)).length ≤ (Utf8.encode x).length := by
  obtain ⟨-, -, htake⟩ := of_pathAndQuery? h
  have hx : t.rawPath ++ t.queryText ++ x.dropWhile (· != '#') = x := by
    rw [← htake, List.takeWhile_append_dropWhile]
  rw [← hx, Utf8.encode_append (_ ++ _), List.length_append]
  omega

/-- What a target with a path is made of, and how long its path and its query are. -/
theorem Reads.parts (h : Reads u t) (hp : t.path.head? = some '/') :
    (∀ c ∈ t.path, pathChar c = true) ∧ (∀ q ∈ t.query, ∀ c ∈ q, queryChar c = true) ∧
      (Utf8.encode (t.path ++ t.queryText)).length ≤ (Utf8.encode u).length ∧
      t.scheme.isSome = t.authority.isSome := by
  cases h with
  | asterisk => cases hp
  | authority => cases hp
  | origin hs ha hu h =>
    have hpath : t.path = t.rawPath := by simp [path, hs]
    obtain ⟨hall, hquery, -⟩ := of_pathAndQuery? h
    rw [hpath, hs, ha]
    exact ⟨hall, hquery, length_encode_le h, rfl⟩
  | @absolute front rest _ _ _ hs ha hfront hrest h =>
    obtain ⟨hall, hquery, -⟩ := of_pathAndQuery? h
    have hlen := length_encode_le h
    have hpos := length_encode_pos hfront
    rw [hs, ha]
    by_cases hraw : t.rawPath = []
    · -- the slash in place of the path is no longer than what stood before it
      have hpath : t.path = ['/'] := by simp [path, hraw, hs]
      rw [hpath]
      refine ⟨List.forall_mem_singleton.mpr (by decide), hquery, ?_, rfl⟩
      rw [hraw] at hlen
      simp only [Utf8.encode_append, List.length_append, List.nil_append] at hlen ⊢
      have hslash : (Utf8.encode ['/']).length = 1 := by decide
      omega
    · rw [path_of_ne_nil hraw]
      refine ⟨hall, hquery, ?_, rfl⟩
      rw [Utf8.encode_append front, List.length_append]
      omega

theorem parse?_origin (h : parse? u = some t) (hp : t.path.head? = some '/') :
    parse? (t.path ++ t.queryText) = some ⟨none, none, t.path, t.query⟩ := by
  obtain ⟨hmax, hreads⟩ := reads_of_parse? h
  obtain ⟨hall, hquery, hlen, -⟩ := hreads.parts hp
  have hread := pathAndQuery?_append hall hquery
  obtain ⟨rest, hrest⟩ := List.head?_eq_some_iff.mp hp
  rw [hrest, List.cons_append] at hread hlen ⊢
  rw [parse?, if_neg (Nat.not_lt.mpr (hlen.trans hmax)), hread]
  rfl

end Target

end SiteGateway
