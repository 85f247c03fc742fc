import SiteGateway.Proofs.Sort
import SiteGateway.Proofs.Text.Ascii
import SiteGateway.Proofs.Text.Split
import SiteGateway.Url.Punycode

/-!
# Punycode is read back

A label is what its Punycode writes (`decode?_encode`). The writer goes through the code points in
increasing order and, for each, through the label. Between two gaps the reader holds the part of the
label that was written so far, and the two agree on how far it is from there to where the writer is
(`Between`, and `Inside` while the label is gone through).
-/

namespace SiteGateway

namespace Punycode
variable {r : Reader} {w : Writer} {c : Char} {n m q k bias : Nat} {x y label : Text}

/-! ### Numbers -/

theorem threshold_pos (k bias : Nat) : 1 ≤ threshold k bias := by
  rw [threshold]
  omega

theorem threshold_le (k bias : Nat) : threshold k bias ≤ 26 := by
  rw [threshold]
  omega

theorem digitValue?_digit (h : n < 36) : digitValue? (digit n) = some n := by
  have hall : ∀ n < 36, digitValue? (digit n) = some n := by decide
  exact hall n h

theorem exists_of_mem_number (h : c ∈ number q k bias) : ∃ n < 36, c = digit n := by
  induction q using Nat.strongRecOn generalizing k with
  | ind q ih =>
    have hle := threshold_le k bias
    have hpos := threshold_pos k bias
    rw [number] at h
    split at h
    next hq => exact ⟨q, by omega, List.mem_singleton.mp h⟩
    next hq =>
      have hmod := Nat.mod_lt (q - threshold k bias) (y := 36 - threshold k bias) (by omega)
      have hdiv := Nat.div_le_self (q - threshold k bias) (36 - threshold k bias)
      rcases List.mem_cons.mp h with rfl | h
      · exact ⟨_, by omega, rfl⟩
      · exact ih _ (by omega) h

/-- The reader after a gap that leads to the character `c` at the position `i`. -/
def Reader.inserted (r : Reader) (c : Char) (i : Nat) : Reader where
  text := r.text.take i ++ c :: r.text.drop i
  origin := i + 1
  gap := i + 1
  weight := 1
  k := 36
  point := c.toNat
  bias := adapt ((c.toNat - r.point) * (r.text.length + 1) + i - r.origin) (r.text.length + 1)
    (r.origin == 0)

section
variable {a : Char} {d i : Nat} (hi : i ≤ r.text.length) (ha : r.point ≤ a.toNat)

include hi ha in
theorem Reader.push?_of_lt (hd : digitValue? c = some d) (hlt : d < threshold r.k r.bias)
    (hgap : r.gap + d * r.weight = (a.toNat - r.point) * (r.text.length + 1) + i) :
    r.push? c = some (r.inserted a i) := by
  have hdiv : ((a.toNat - r.point) * (r.text.length + 1) + i) / (r.text.length + 1) =
      a.toNat - r.point := by
    rw [Nat.add_comm, Nat.add_mul_div_right _ _ (Nat.succ_pos _), Nat.div_eq_of_lt (by omega),
      Nat.zero_add]
  have hmod : ((a.toNat - r.point) * (r.text.length + 1) + i) % (r.text.length + 1) = i := by
    rw [Nat.add_comm, Nat.add_mul_mod_self_right, Nat.mod_eq_of_lt (by omega)]
  have hvalid : a.toNat < 0xD800 ∨ (0xE000 ≤ a.toNat ∧ a.toNat ≤ 0x10FFFF) := by
    have : a.toNat < 0xD800 ∨ (0xDFFF < a.toNat ∧ a.toNat < 0x110000) := a.valid
    omega
  rw [Reader.push?, hd]
  simp only [Option.bind_eq_bind, Option.bind_some, if_pos hlt, hdiv, hmod,
    Nat.add_sub_cancel' ha, if_pos hvalid, Char.ofNat_toNat, hgap]
  rfl

theorem Reader.push?_of_ge (hd : digitValue? c = some d) (hge : ¬ d < threshold r.k r.bias) :
    r.push? c = some { r with
      gap := r.gap + d * r.weight
      weight := r.weight * (36 - threshold r.k r.bias)
      k := r.k + 36 } := by
  rw [Reader.push?, hd]
  simp only [Option.bind_eq_bind, Option.bind_some, if_neg hge]
  rfl

include hi ha in
/-- A number leads as far as it says. -/
theorem Reader.foldlM_number
    (hgap : r.gap + q * r.weight = (a.toNat - r.point) * (r.text.length + 1) + i) :
    (number q r.k r.bias).foldlM Reader.push? r = some (r.inserted a i) := by
  induction q using Nat.strongRecOn generalizing r with
  | ind q ih =>
    have hle := threshold_le r.k r.bias
    have hpos := threshold_pos r.k r.bias
    rw [number]
    generalize hth : threshold r.k r.bias = th at *
    split
    next hq =>
      have hd := digitValue?_digit (n := q) (by omega)
      rw [List.foldlM_cons, push?_of_lt hi ha hd (by omega) hgap]
      rfl
    next hq =>
      have hmod := Nat.mod_lt (q - th) (y := 36 - th) (by omega)
      have hdiv := Nat.div_le_self (q - th) (36 - th)
      have hd := digitValue?_digit (n := th + (q - th) % (36 - th)) (by omega)
      rw [List.foldlM_cons, push?_of_ge hd (by omega), hth]
      refine ih ((q - th) / (36 - th)) (by omega) (r := { r with
        gap := r.gap + (th + (q - th) % (36 - th)) * r.weight
        weight := r.weight * (36 - th)
        k := r.k + 36 }) hi ha ?_
      rw [← hgap]
      have hq : q = th + (q - th) % (36 - th) + (36 - th) * ((q - th) / (36 - th)) := by
        have := Nat.mod_add_div (q - th) (36 - th)
        omega
      conv_rhs => rw [hq, Nat.add_mul, ← Nat.add_assoc, Nat.mul_comm (36 - th), Nat.mul_assoc,
        Nat.mul_comm (36 - th)]

end

/-! ### Writing and reading together -/

/-- From `w` to `w'` digits are written that lead a reader from `r` to `r'`. -/
def Writes (w : Writer) (r : Reader) (w' : Writer) (r' : Reader) : Prop :=
  ∃ ds, w'.out = w.out ++ ds ∧ (∀ c ∈ ds, ∃ n < 36, c = digit n) ∧
    ds.foldlM Reader.push? r = some r'

theorem Writes.refl (w : Writer) (r : Reader) : Writes w r w r := ⟨[], by simp⟩

theorem Writes.trans {w' w'' : Writer} {r' r'' : Reader} (h : Writes w r w' r')
    (h' : Writes w' r' w'' r'') : Writes w r w'' r'' := by
  obtain ⟨ds, hout, hds, hr⟩ := h
  obtain ⟨ds', hout', hds', hr'⟩ := h'
  refine ⟨ds ++ ds', by rw [hout', hout, List.append_assoc], fun c hc => ?_, ?_⟩
  · rcases List.mem_append.mp hc with hc | hc
    · exact hds c hc
    · exact hds' c hc
  · rw [List.foldlM_append, hr]
    exact hr'

/-- The reader is between two gaps, and has read as much as was written. -/
structure Level (w : Writer) (r : Reader) : Prop where
  gap : r.gap = r.origin
  weight : r.weight = 1
  k : r.k = 36
  bias : w.bias = r.bias
  done : w.done = r.text.length
  first : w.first = (r.origin == 0)

/-- The writer goes through the label for `m`, with `x` behind it and `y` in front. -/
structure Inside (m : Nat) (x y : Text) (w : Writer) (r : Reader) : Prop extends Level w r where
  point : r.point ≤ m
  text : r.text = x.filter (·.toNat ≤ m) ++ y.filter (·.toNat < m)
  delta : w.delta + r.origin =
    (m - r.point) * (w.done + 1) + (x.filter (·.toNat ≤ m)).length

/-- The writer has gone through the label for every code point below `n`. -/
structure Between (label : Text) (n : Nat) (w : Writer) (r : Reader) : Prop extends Level w r where
  point : r.point ≤ n
  text : r.text = label.filter (·.toNat < n)
  delta : w.delta + r.origin = (n - r.point) * (w.done + 1)

/-- One character of the label. -/
def Writer.char (w : Writer) (m : Nat) (c : Char) : Writer :=
  if c.toNat < m then { w with delta := w.delta + 1 }
  else if c.toNat = m then
    { delta := 0, bias := adapt w.delta (w.done + 1) w.first, done := w.done + 1, first := false,
      out := w.out ++ number w.delta 36 w.bias }
  else w

theorem Writer.point_cons (w : Writer) (m : Nat) (c : Char) (t : Text) :
    Writer.point (c :: t) w m = Writer.point t (w.char m c) m := rfl

theorem Inside.char_of_lt (h : Inside m x (c :: y) w r) (hc : c.toNat < m) :
    Inside m (x ++ [c]) y { w with delta := w.delta + 1 } r :=
  { toLevel := { h.toLevel with }
    point := h.point
    text := by rw [h.text]; simp [hc, Nat.le_of_lt hc]
    delta := by
      have := h.delta
      simp [Nat.le_of_lt hc] at this ⊢
      omega }

theorem Inside.char_of_gt (h : Inside m x (c :: y) w r) (hc : m < c.toNat) :
    Inside m (x ++ [c]) y w r :=
  { toLevel := h.toLevel
    point := h.point
    text := by rw [h.text]; simp [Nat.not_le.mpr hc, Nat.not_lt.mpr (Nat.le_of_lt hc)]
    delta := by rw [h.delta]; simp [Nat.not_le.mpr hc] }

/-- For the character itself a number is written, which inserts it. -/
theorem Inside.char_self (h : Inside c.toNat x (c :: y) w r) :
    ∃ r', Writes w r (w.char c.toNat c) r' ∧ Inside c.toNat (x ++ [c]) y (w.char c.toNat c) r' := by
  have hchar : w.char c.toNat c =
      { delta := 0, bias := adapt w.delta (w.done + 1) w.first, done := w.done + 1,
        first := false, out := w.out ++ number w.delta 36 w.bias } := by
    rw [Writer.char, if_neg (Nat.lt_irrefl _), if_pos rfl]
  have htext := h.text
  rw [List.filter_cons_of_neg (by simp)] at htext
  have hdelta := h.delta
  rw [h.done] at hdelta
  generalize hX : x.filter (·.toNat ≤ c.toNat) = X at htext hdelta
  generalize hY : y.filter (·.toNat < c.toNat) = Y at htext
  have hi : X.length ≤ r.text.length := by simp [htext]
  have hread := Reader.foldlM_number (q := w.delta) hi h.point (by
    rw [h.gap, h.weight, Nat.mul_one, Nat.add_comm, hdelta])
  rw [h.k, ← h.bias] at hread
  refine ⟨r.inserted c X.length, ⟨number w.delta 36 w.bias, by rw [hchar],
    fun _ => exists_of_mem_number, hread⟩, ?_⟩
  have hinserted : (r.inserted c X.length).text = X ++ c :: Y := by
    simp [Reader.inserted, htext]
  rw [hchar]
  exact { gap := rfl, weight := rfl, k := rfl, first := rfl, point := Nat.le_refl _
          bias := by
            rw [Reader.inserted, h.done, h.first, ← hdelta, Nat.add_sub_cancel]
          done := by
            rw [hinserted, h.done, htext]
            simp [Nat.add_assoc]
          text := by
            rw [hinserted, List.filter_append, hX, hY]
            simp
          delta := by
            rw [List.filter_append, hX]
            simp [Reader.inserted] }

theorem Inside.char (h : Inside m x (c :: y) w r) :
    ∃ r', Writes w r (w.char m c) r' ∧ Inside m (x ++ [c]) y (w.char m c) r' := by
  rcases Nat.lt_trichotomy c.toNat m with hc | rfl | hc
  · rw [Writer.char, if_pos hc]
    exact ⟨r, ⟨[], by simp⟩, h.char_of_lt hc⟩
  · exact h.char_self
  · rw [Writer.char, if_neg (by omega), if_neg (by omega)]
    exact ⟨r, .refl w r, h.char_of_gt hc⟩

theorem Inside.past (h : Inside m x y w r) :
    ∃ r', Writes w r (Writer.point y w m) r' ∧ Inside m (x ++ y) [] (Writer.point y w m) r' := by
  induction y generalizing x w r with
  | nil => exact ⟨r, .refl w r, by rwa [List.append_nil]⟩
  | cons c y ih =>
    obtain ⟨r₁, hwrites, h₁⟩ := h.char
    obtain ⟨r', hwrites', h'⟩ := ih h₁
    rw [Writer.point_cons, List.append_cons]
    exact ⟨r', hwrites.trans hwrites', h'⟩

/-- The step of the writer from the code points below `n` to those up to `m`. -/
def Writer.round (label : Text) (w : Writer) (n m : Nat) : Writer :=
  let w := Writer.point label { w with delta := w.delta + (m - n) * (w.done + 1) } m
  { w with delta := w.delta + 1 }

theorem Between.round (h : Between label n w r) (hm : n ≤ m)
    (hgap : ∀ c ∈ label, c.toNat < n ∨ m ≤ c.toNat) :
    ∃ r', Writes w r (w.round label n m) r' ∧ Between label (m + 1) (w.round label n m) r' := by
  have htext : label.filter (·.toNat < n) = label.filter (·.toNat < m) := by
    refine List.filter_congr fun c hc => ?_
    have := hgap c hc
    rw [decide_eq_decide]
    omega
  -- the code points between `n` and `m` occur nowhere, so the gap to the first `m` is known at once
  have hstart : Inside m [] label { w with delta := w.delta + (m - n) * (w.done + 1) } r :=
    { toLevel := { h.toLevel with }, point := Nat.le_trans h.point hm
      text := by rw [h.text, htext]; rfl
      delta := by
        have hsum : (m - n) * (w.done + 1) + (n - r.point) * (w.done + 1) =
            (m - r.point) * (w.done + 1) := by
          have := h.point
          rw [← Nat.add_mul]
          congr 1
          omega
        have := h.delta
        simp only [List.filter_nil, List.length_nil]
        omega }
  obtain ⟨r', hwrites, hend⟩ := hstart.past
  refine ⟨r', hwrites, ?_⟩
  have hlabel : r'.text = label.filter (·.toNat < m + 1) := by
    rw [hend.text]
    simp only [List.nil_append, List.filter_nil, List.append_nil, Nat.lt_succ_iff]
  exact { toLevel := { hend.toLevel with }, point := Nat.le_succ_of_le hend.point, text := hlabel
          delta := by
            have hdelta := hend.delta
            have hdone : (label.filter (·.toNat ≤ m)).length = (Writer.point label
                { w with delta := w.delta + (m - n) * (w.done + 1) } m).done := by
              rw [hend.done, hlabel]
              simp only [Nat.lt_succ_iff]
            rw [List.nil_append, hdone] at hdelta
            rw [Nat.succ_sub hend.point, Nat.succ_mul]
            simp only [Writer.round]
            omega }

theorem Between.rounds {ms : List Nat} (h : Between label n w r) (hms : ms.Pairwise (· < ·))
    (hle : ∀ m ∈ ms, n ≤ m) (hall : ∀ c ∈ label, c.toNat < n ∨ c.toNat ∈ ms) :
    ∃ w' r' n', (ms.foldl (fun s m => (s.1.round label s.2 m, m + 1)) (w, n)).1 = w' ∧
      Writes w r w' r' ∧ Between label n' w' r' ∧ ∀ c ∈ label, c.toNat < n' := by
  induction ms generalizing n w r with
  | nil => exact ⟨w, r, n, rfl, .refl w r, h, fun c hc => by simpa using hall c hc⟩
  | cons m ms ih =>
    obtain ⟨hm, hms⟩ := List.pairwise_cons.mp hms
    have hgap : ∀ c ∈ label, c.toNat < n ∨ m ≤ c.toNat := by
      intro c hc
      rcases hall c hc with h | h
      · exact .inl h
      · rcases List.mem_cons.mp h with h | h
        · exact .inr (Nat.le_of_eq h.symm)
        · exact .inr (Nat.le_of_lt (hm _ h))
    obtain ⟨r₁, hwrites, h₁⟩ := h.round (hle m List.mem_cons_self) hgap
    have hall₁ : ∀ c ∈ label, c.toNat < m + 1 ∨ c.toNat ∈ ms := by
      intro c hc
      have hnm := hle m List.mem_cons_self
      rcases hall c hc with h | h
      · exact .inl (by omega)
      · rcases List.mem_cons.mp h with h | h
        · exact .inl (by omega)
        · exact .inr h
    obtain ⟨w', r', n', hw, hwrites', h', hn'⟩ := ih h₁ hms (fun k hk => hm k hk) hall₁
    exact ⟨w', r', n', hw, hwrites.trans hwrites', h', hn'⟩

theorem mem_points : n ∈ points label ↔ ∃ c ∈ label, 0x80 ≤ c.toNat ∧ c.toNat = n := by
  rw [points, List.mem_eraseReps, List.mem_mergeSort, List.mem_map]
  simp [and_assoc]

theorem pairwise_points (label : Text) : (points label).Pairwise (· < ·) := by
  refine List.pairwise_lt_eraseReps ?_
  have hsorted (ns : List Nat) :
      (ns.mergeSort fun a b => decide (a ≤ b)).Pairwise fun a b => decide (a ≤ b) = true :=
    List.pairwise_mergeSort (by grind) (by grind) ns
  simpa using hsorted _

/-- The ASCII characters of a label with the hyphen that ends them. -/
def front (label : Text) : Text :=
  let basic := label.filter (·.toNat < 0x80)
  if basic.isEmpty then [] else basic ++ ['-']

/-- The writer and the reader before the first gap. -/
def Writer.start (label : Text) : Writer where
  delta := 0
  bias := 72
  done := (label.filter (·.toNat < 0x80)).length
  first := true
  out := front label

def Reader.start (basic : Text) : Reader where
  text := basic
  origin := 0
  gap := 0
  weight := 1
  k := 36
  point := 0x80
  bias := 72

theorem between_start (label : Text) :
    Between label 0x80 (.start label) (.start (label.filter (·.toNat < 0x80))) where
  gap := rfl
  weight := rfl
  k := rfl
  bias := rfl
  done := rfl
  first := rfl
  point := Nat.le_refl _
  text := rfl
  delta := by simp [Writer.start, Reader.start]

/-- Punycode is what a label has of ASCII and digits that lead a reader from there to the label. -/
theorem exists_digits (label : Text) : ∃ ds r, encode label = front label ++ ds ∧
    (∀ c ∈ ds, ∃ n < 36, c = digit n) ∧
    ds.foldlM Reader.push? (.start (label.filter (·.toNat < 0x80))) = some r ∧
    r.k = 36 ∧ r.text = label := by
  have hpoints : ∀ m ∈ points label, 0x80 ≤ m := by
    intro m hm
    obtain ⟨c, -, hc, rfl⟩ := mem_points.mp hm
    exact hc
  have hall : ∀ c ∈ label, c.toNat < 0x80 ∨ c.toNat ∈ points label := by
    intro c hc
    by_cases h : c.toNat < 0x80
    · exact .inl h
    · exact .inr (mem_points.mpr ⟨c, hc, Nat.not_lt.mp h, rfl⟩)
  obtain ⟨w, r, n, hw, ⟨ds, hout, hds, hread⟩, h, hn⟩ :=
    (between_start label).rounds (pairwise_points label) hpoints hall
  refine ⟨ds, r, ?_, hds, hread, h.k, ?_⟩
  · change _ = (Writer.start label).out ++ ds
    rw [← hout, ← hw]
    rfl
  · rw [h.text]
    exact List.filter_eq_self.mpr fun c hc => by simpa using hn c hc

theorem digit_spec (h : n < 36) : Ascii (digit n) ∧ digit n ≠ '-' := by
  have hall : ∀ n < 36, Ascii (digit n) ∧ digit n ≠ '-' := by decide
  exact hall n h

theorem decode?_encode (label : Text) : decode? (encode label) = some label := by
  obtain ⟨ds, r, hencode, hds, hread, hk, htext⟩ := exists_digits label
  have hhyphen : '-' ∉ ds.reverse := by
    intro h
    obtain ⟨n, hn, hc⟩ := hds '-' (List.mem_reverse.mp h)
    exact (digit_spec hn).2 hc.symm
  rw [Reader.start] at hread
  rw [hencode, front, decode?]
  generalize label.filter (·.toNat < 0x80) = basic at *
  cases basic with
  | nil => simp [Text.cut?_eq_none hhyphen, hread, hk, htext]
  | cons c basic => simp [Text.cut?_append_cons hhyphen, hread, hk, htext]

theorem of_mem_encode (h : c ∈ encode label) :
    c ∈ label ∧ Ascii c ∨ c = '-' ∨ ∃ n < 36, c = digit n := by
  obtain ⟨ds, -, hencode, hds, -⟩ := exists_digits label
  rw [hencode, front] at h
  rcases List.mem_append.mp h with h | h
  · split at h
    · cases h
    · rcases List.mem_append.mp h with h | h
      · obtain ⟨hc, hascii⟩ := List.mem_filter.mp h
        exact .inl ⟨hc, of_decide_eq_true hascii⟩
      · exact .inr (.inl (List.mem_singleton.mp h))
  · exact .inr (.inr (hds c h))

end Punycode

end SiteGateway
