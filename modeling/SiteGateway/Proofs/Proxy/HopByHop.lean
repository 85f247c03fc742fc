import SiteGateway.Proofs.Text.Ascii
import SiteGateway.Proofs.Text.Split
import SiteGateway.Proofs.Text.Trim
import SiteGateway.Proxy.HopByHop

/-!
# What stays on one hop

`Headers.Lists` says which names a message's own `connection` field takes back, value by value and
token by token; `Headers.endToEnd` is then read off by name: nothing is left of a fixed or listed
name (`values_endToEnd_of_hop`), and every other name keeps its values
(`values_endToEnd_of_not_hop`). `Headers.OneHop` counts `upgrade` among the fixed names, which
stripping does not.

`Headers.Names` says the same of the values as they are written, without cutting them up: a name
stands between commas or ends, with blanks around it. `Headers.endToEnd_exact` puts the whole of
stripping together in its terms.
-/

namespace SiteGateway

namespace Headers

/-- A readable `connection` value names `n` between its commas. -/
def Lists (hs : Headers) (n : HeaderName) : Prop :=
  ∃ v ∈ hs.values "connection".toList, ∃ t, HeaderValue.readable? v = some t ∧
    ∃ token ∈ Text.split ',' t, HeaderName.parse? (Text.trim token) = some n

variable {hs : Headers} {n : HeaderName}

theorem mem_listedNames : n ∈ hs.listedNames ↔ hs.Lists n := by
  simp only [listedNames, List.mem_flatMap, List.mem_filterMap, Lists]
  constructor
  · rintro ⟨t, ⟨v, hv, ht⟩, token, htoken, hn⟩
    exact ⟨v, hv, t, ht, token, htoken, hn⟩
  · rintro ⟨v, hv, t, ht, token, htoken, hn⟩
    exact ⟨t, ⟨v, hv, ht⟩, token, htoken, hn⟩

theorem values_endToEnd : hs.endToEnd.values n =
    if !(hs.listedNames.contains n || hopByHopNames.contains n) then hs.values n else [] :=
  values_filter (fun k => !(hs.listedNames.contains k || hopByHopNames.contains k)) hs n

theorem values_endToEnd_of_hop (h : hs.Lists n ∨ n ∈ hopByHopNames) :
    hs.endToEnd.values n = [] := by
  rw [← mem_listedNames] at h
  rw [values_endToEnd, if_neg (by simpa using fun h' => h.resolve_left h')]

theorem values_endToEnd_of_not_hop (hl : ¬ hs.Lists n) (hn : n ∉ hopByHopNames) :
    hs.endToEnd.values n = hs.values n := by
  rw [← mem_listedNames] at hl
  rw [values_endToEnd, if_pos (by simp [hl, hn])]

def upgradeName : HeaderName := "upgrade".toList

/-- The names that stay on one hop in every message. -/
def singleHopNames : List HeaderName :=
  ["connection", "keep-alive", "proxy-connection", "proxy-authenticate", "proxy-authorization",
    "te", "trailer", "transfer-encoding", "upgrade"].map String.toList

/-- A name whose fields stay on the hop of their message. -/
def OneHop (hs : Headers) (n : HeaderName) : Prop := n ∈ singleHopNames ∨ hs.Lists n

theorem mem_singleHopNames : n ∈ singleHopNames ↔ n ∈ hopByHopNames ∨ n = upgradeName := by
  have happend : singleHopNames = hopByHopNames ++ [upgradeName] := rfl
  rw [happend, List.mem_append, List.mem_singleton]

theorem values_endToEnd_of_oneHop (h : hs.OneHop n) (hn : n ≠ upgradeName) :
    hs.endToEnd.values n = [] := by
  refine values_endToEnd_of_hop ?_
  rcases h with h | h
  · exact .inr ((mem_singleHopNames.mp h).resolve_right hn)
  · exact .inl h

theorem values_endToEnd_of_not_oneHop (h : ¬ hs.OneHop n) : hs.endToEnd.values n = hs.values n :=
  values_endToEnd_of_not_hop (fun hl => h (.inr hl))
    fun hn => h (.inl (mem_singleHopNames.mpr (.inl hn)))

theorem upgradeName_notMem_hopByHopNames : upgradeName ∉ hopByHopNames := by decide

/-! ### One name after the other -/

theorem remove_eq (hs : Headers) (n : HeaderName) : hs.remove n = hs.filter fun f => !f.1 == n :=
  List.filter_congr fun f _ => by rw [Bool.eq_iff_iff]; simp

theorem endToEnd_eq (hs : Headers) :
    hs.endToEnd = hs.filter fun f => !(hs.listedNames.contains f.1 || hopByHopNames.contains f.1) :=
  rfl

theorem foldl_remove (ns : List HeaderName) (hs : Headers) :
    ns.foldl remove hs = hs.filter fun f => !ns.contains f.1 := by
  induction ns generalizing hs with
  | nil => simp
  | cons m ns ih =>
    rw [List.foldl_cons, ih, remove_eq, List.filter_filter]
    refine List.filter_congr fun f _ => ?_
    rw [List.contains_cons, Bool.not_or, Bool.and_comm]

/-- Taking the names away one after the other comes to the same fields. -/
theorem foldl_remove_eq_endToEnd (hs : Headers) :
    hopByHopNames.foldl remove (hs.listedNames.foldl remove hs) = hs.endToEnd := by
  rw [foldl_remove, foldl_remove, List.filter_filter, endToEnd_eq]
  refine List.filter_congr fun f _ => ?_
  rw [Bool.not_or, Bool.and_comm]

theorem listedNames_endToEnd (hs : Headers) : hs.endToEnd.listedNames = [] := by
  rw [listedNames, values_endToEnd_of_hop (.inr (by decide))]
  rfl

theorem endToEnd_endToEnd (hs : Headers) : hs.endToEnd.endToEnd = hs.endToEnd := by
  rw [endToEnd_eq hs.endToEnd, listedNames_endToEnd]
  refine List.filter_eq_self.mpr fun f hf => ?_
  rw [endToEnd_eq] at hf
  have hkept := (List.mem_filter.mp hf).2
  rw [Bool.not_or, Bool.and_eq_true] at hkept
  rw [List.contains_nil, Bool.false_or, hkept.2]

end Headers

/-! ### Values as they are written -/

theorem Ascii.of_isTokenChar {c : Char} (h : isTokenChar c = true) : Ascii c := by
  rcases Bool.or_eq_true_iff.mp h with h | h
  · exact .of_isAlphanum h
  · have hall : ∀ c ∈ "!#$%&\x27*+-.^_\x60|~".toList, Ascii c :=
      forall_mem_text (by decide)
    exact hall c (List.contains_iff_mem.mp h)

theorem apart_of_isTokenChar {c : Char} (h : isTokenChar c = true) :
    isBlank c = false ∧ c ≠ ',' := by
  have hall : ∀ n < 0x80, isTokenChar (Char.ofNat n) = true →
      isBlank (Char.ofNat n) = false ∧ Char.ofNat n ≠ ',' := by decide
  exact forall_ascii (p := fun c => isTokenChar c = true → isBlank c = false ∧ c ≠ ',') hall c
    (.of_isTokenChar h) h

theorem trim_of_isToken {t : Text} (h : isToken t = true) : Text.trim t = t := by
  have hchars := List.all_eq_true.mp (Bool.and_eq_true_iff.mp h).2
  exact Text.Trimmed.trim_eq
    ⟨fun c hc => (apart_of_isTokenChar (hchars c (List.mem_of_head? hc))).1,
      fun c hc => (apart_of_isTokenChar (hchars c (List.mem_of_getLast? hc))).1⟩

theorem HeaderName.parse?_eq_some_iff {t : Text} {n : HeaderName} :
    HeaderName.parse? t = some n ↔ isToken t = true ∧ Text.lower t = n := by
  rw [HeaderName.parse?, Option.ite_none_right_eq_some, Option.some.injEq]

namespace HeaderValue
variable {v w : HeaderValue} {n : HeaderName} {t s : Text} {ps qs : List Text}

/-- A token in some letter case is the name, and nothing but blanks stands between it and the commas
or ends around it. -/
def Names (v : HeaderValue) (n : HeaderName) : Prop :=
  ∃ t, readable? v = some t ∧ ∃ token front x y back, t = front ++ (x ++ (token ++ y) ++ back) ∧
    isToken token = true ∧ Text.lower token = n ∧ Text.Blank x ∧ Text.Blank y ∧
    (∀ c ∈ front.getLast?, c = ',') ∧ ∀ c ∈ back.head?, c = ','

theorem Names.not_readable (h : readable? v = none) : ¬ v.Names n := by
  rintro ⟨t, ht, -⟩
  rw [h] at ht
  cases ht

theorem names_iff (h : readable? v = some t) :
    v.Names n ↔ ∃ s ∈ Text.split ',' t, HeaderName.parse? (Text.trim s) = some n := by
  have hcomma : isBlank ',' = false := by decide
  rw [Names]
  simp only [h, Option.some.injEq, exists_eq_left', HeaderName.parse?_eq_some_iff, Text.split,
    Text.mem_splitBy_iff, beq_iff_eq, beq_eq_false_iff_ne]
  constructor
  · rintro ⟨token, front, x, y, back, rfl, htoken, hn, hx, hy, hfront, hback⟩
    have htrim : Text.trim (x ++ (token ++ y)) = token := by
      rw [Text.trim_blank_append hx, Text.trim_append_blank hy, trim_of_isToken htoken]
    refine ⟨x ++ (token ++ y), ⟨?_, front, back, rfl, hfront, hback⟩, by rwa [htrim],
      by rwa [htrim]⟩
    intro c hc hcomma'
    subst hcomma'
    rcases List.mem_append.mp hc with hc | hc
    · exact absurd (hx _ hc) (by rw [hcomma]; exact Bool.false_ne_true)
    rcases List.mem_append.mp hc with hc | hc
    · have hchars := List.all_eq_true.mp (Bool.and_eq_true_iff.mp htoken).2
      exact (apart_of_isTokenChar (hchars _ hc)).2 rfl
    · exact absurd (hy _ hc) (by rw [hcomma]; exact Bool.false_ne_true)
  · rintro ⟨s, ⟨-, front, back, rfl, hfront, hback⟩, htoken, hn⟩
    obtain ⟨x, y, hx, hy, hs⟩ := Text.exists_trim s
    exact ⟨Text.trim s, front, x, y, back, by rw [← hs], htoken, hn, hx, hy, hfront, hback⟩

/-- A value written as pieces names what its pieces spell. -/
theorem names_iff_of_intercalate (h : readable? v = some ([','].intercalate ps))
    (hps : ∀ p ∈ ps, ',' ∉ p) :
    v.Names n ↔ ∃ p ∈ ps, HeaderName.parse? (Text.trim p) = some n := by
  rw [names_iff h, Text.split_eq_splitOn]
  cases ps with
  | nil =>
    have hparse : HeaderName.parse? (Text.trim []) = none := by decide
    simp [hparse]
  | cons p ps => rw [List.splitOn_intercalate ',' hps (List.cons_ne_nil p ps)]

end HeaderValue

namespace Headers
variable {hs hs' : Headers} {n : HeaderName} {v w : HeaderValue} {front back : Headers}

def connectionName : HeaderName := "connection".toList

/-- Some `connection` value names `n`. -/
def Names (hs : Headers) (n : HeaderName) : Prop := ∃ v, (connectionName, v) ∈ hs ∧ v.Names n

theorem mem_values_iff : v ∈ hs.values n ↔ (n, v) ∈ hs := by
  rw [values, List.mem_filterMap]
  constructor
  · rintro ⟨⟨m, w⟩, hm, hw⟩
    simp only [Option.ite_none_right_eq_some, Option.some.injEq] at hw
    obtain ⟨rfl, rfl⟩ := hw
    exact hm
  · exact fun h => ⟨(n, v), h, if_pos rfl⟩

theorem lists_iff_names : hs.Lists n ↔ hs.Names n := by
  unfold Lists Names
  refine exists_congr fun v => ?_
  rw [mem_values_iff]
  refine and_congr_right fun _ => ⟨?_, ?_⟩
  · rintro ⟨t, ht, hs⟩
    exact (HeaderValue.names_iff ht).mpr hs
  · intro hnames
    obtain ⟨t, ht⟩ : ∃ t, HeaderValue.readable? v = some t := hnames.imp fun _ => And.left
    exact ⟨t, ht, (HeaderValue.names_iff ht).mp hnames⟩

/-- Stripping depends on the `connection` fields by the names in them only. -/
theorem endToEnd_congr (hrest : hs.remove connectionName = hs'.remove connectionName)
    (hnames : ∀ n, hs.Names n ↔ hs'.Names n) : hs.endToEnd = hs'.endToEnd := by
  have hlisted (n : HeaderName) : hs.listedNames.contains n = hs'.listedNames.contains n := by
    rw [Bool.eq_iff_iff, List.contains_iff_mem, List.contains_iff_mem, mem_listedNames,
      mem_listedNames, lists_iff_names, lists_iff_names, hnames]
  have hremove (hs : Headers) :
      hs.endToEnd = (hs.remove connectionName).filter fun f =>
        !(hs.listedNames.contains f.1 || hopByHopNames.contains f.1) := by
    rw [remove_eq, List.filter_filter, endToEnd_eq]
    refine List.filter_congr fun f _ => ?_
    cases hf : f.1 == connectionName with
    | false => rw [Bool.not_false, Bool.and_true]
    | true =>
      have hhop : hopByHopNames.contains connectionName = true := by decide
      rw [eq_of_beq hf, hhop, Bool.or_true]
      rfl
  rw [hremove hs, hremove hs', hrest]
  refine List.filter_congr fun f _ => ?_
  rw [hlisted]

theorem remove_append (n : HeaderName) (hs hs' : Headers) :
    (hs ++ hs').remove n = hs.remove n ++ hs'.remove n := List.filter_append ..

theorem remove_cons_self (n : HeaderName) (v : HeaderValue) (hs : Headers) :
    Headers.remove ((n, v) :: hs) n = hs.remove n :=
  List.filter_cons_of_neg (by simp)

theorem names_append_cons :
    Names (front ++ (connectionName, v) :: back) n ↔ v.Names n ∨ Names (front ++ back) n := by
  simp only [Names, List.mem_append, List.mem_cons, Prod.mk.injEq, true_and]
  constructor
  · rintro ⟨w, hw | rfl | hw, hn⟩
    · exact .inr ⟨w, .inl hw, hn⟩
    · exact .inl hn
    · exact .inr ⟨w, .inr hw, hn⟩
  · rintro (hn | ⟨w, hw | hw, hn⟩)
    · exact ⟨v, .inr (.inl rfl), hn⟩
    · exact ⟨w, .inl hw, hn⟩
    · exact ⟨w, .inr (.inr hw), hn⟩

/-- Stripping takes away the fixed names and the names in the `connection` values, and no field
else. A value that cannot be read takes nothing away, nor does a piece that is no token. Whether the
names are taken away at once or one after the other makes no difference, nor does doing it again. -/
theorem endToEnd_exact :
    (∀ (hs : Headers) n, hs.Names n ∨ n ∈ hopByHopNames → hs.endToEnd.values n = []) ∧
    (∀ (hs : Headers) n, ¬ hs.Names n → n ∉ hopByHopNames →
      hs.endToEnd.values n = hs.values n) ∧
    (∀ (front back : Headers) v, HeaderValue.readable? v = none →
      endToEnd (front ++ (connectionName, v) :: back) = endToEnd (front ++ back)) ∧
    (∀ (front back : Headers) v w (ps : List Text) s qs,
      HeaderValue.readable? v = some ([','].intercalate (ps ++ s :: qs)) →
      HeaderValue.readable? w = some ([','].intercalate (ps ++ qs)) →
      (∀ p ∈ ps ++ s :: qs, ',' ∉ p) → HeaderName.parse? (Text.trim s) = none →
      endToEnd (front ++ (connectionName, v) :: back) =
        endToEnd (front ++ (connectionName, w) :: back)) ∧
    (∀ hs : Headers,
      hopByHopNames.foldl remove (hs.listedNames.foldl remove hs) = hs.endToEnd) ∧
    ∀ hs : Headers, hs.endToEnd.endToEnd = hs.endToEnd := by
  refine ⟨fun hs n h => ?_, fun hs n hl hn => ?_, fun front back v hv => ?_,
    fun front back v w ps s qs hv hw hps hs => ?_, foldl_remove_eq_endToEnd, endToEnd_endToEnd⟩
  · rw [← lists_iff_names] at h
    exact values_endToEnd_of_hop h
  · rw [← lists_iff_names] at hl
    exact values_endToEnd_of_not_hop hl hn
  · refine endToEnd_congr ?_ fun n => ?_
    · rw [remove_append, remove_cons_self, remove_append]
    · rw [names_append_cons, or_iff_right (HeaderValue.Names.not_readable hv)]
  · refine endToEnd_congr ?_ fun n => ?_
    · simp only [remove_append, remove_cons_self]
    · have hpieces : ∀ p ∈ ps ++ qs, ',' ∉ p := fun p hp =>
        hps p (by rw [List.mem_append] at hp ⊢; exact hp.imp_right (List.mem_cons_of_mem s))
      -- both values name the same, for the piece that only one of them has names nothing
      rw [names_append_cons, names_append_cons, HeaderValue.names_iff_of_intercalate hv hps,
        HeaderValue.names_iff_of_intercalate hw hpieces]
      refine or_congr_left ?_
      simp only [List.mem_append, List.mem_cons, or_and_right, exists_or, exists_eq_left, hs,
        reduceCtorEq, false_or]

/-- Two `connection` values, of which one lists a session, and two fields that stay. -/
def sessionHeaders : Headers :=
  [field "accept" "a", field "connection" "close", field "x-session" "1",
    field "connection" "x y,\t X-Session ", field "accept" "b"]

/-- The session is taken away with the field that lists it, by that name alone. -/
theorem endToEnd_exact_session :
    sessionHeaders.Names "x-session".toList ∧
      sessionHeaders.endToEnd.values "x-session".toList = [] ∧
      ¬ sessionHeaders.Names "accept".toList ∧ "accept".toList ∉ hopByHopNames ∧
      sessionHeaders.endToEnd.values "accept".toList =
        ["a", "b"].map (fun v => Utf8.encode v.toList) ∧
      HeaderValue.readable? [0xFF] = none ∧
      endToEnd ((connectionName, [0xFF]) :: sessionHeaders) = endToEnd sessionHeaders ∧
      HeaderName.parse? (Text.trim "x y".toList) = none ∧
      endToEnd [field "connection" "x y,X-Session"] =
        endToEnd [field "connection" "X-Session"] := by
  have hlisted : sessionHeaders.listedNames = ["close".toList, "x-session".toList] := by
    rfl
  have hsession : sessionHeaders.Names "x-session".toList := by
    rw [← lists_iff_names, ← mem_listedNames, hlisted]
    decide
  have haccept : ¬ sessionHeaders.Names "accept".toList := by
    rw [← lists_iff_names, ← mem_listedNames, hlisted]
    decide
  have hvalues : sessionHeaders.endToEnd.values "accept".toList =
      ["a", "b"].map fun v => Utf8.encode v.toList := by
    rw [endToEnd_exact.2.1 _ _ haccept (by decide)]
    rfl
  have hpiece := endToEnd_exact.2.2.2.1 [] [] (Utf8.encode "x y,X-Session".toList)
    (Utf8.encode "X-Session".toList) [] "x y".toList ["X-Session".toList] (by rfl)
    (by rfl) (by decide) (by decide)
  exact ⟨hsession, endToEnd_exact.1 _ _ (.inl hsession), haccept, by decide, hvalues, by decide,
    endToEnd_exact.2.2.1 [] sessionHeaders [0xFF] (by decide), by decide, hpiece⟩

end Headers

end SiteGateway
