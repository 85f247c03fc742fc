import Mathlib.Tactic.IntervalCases
import SiteGateway.Time.Calendar

/-!
# The calendar

`CalendarDate.ofDays` numbers the days of the Gregorian calendar: every number is a date that exists
(`valid_ofDays`), the numbers of two dates differ (`toDays_ofDays`, `ofDays_toDays`), the first of
January 1970 has the number zero and each day's successor in the calendar the next number
(`ofDays_zero`, `ofDays_succ`). A year begins with the first second of its January
(`CivilTime.le_year_iff`). Behind all of it stands the year that begins in March: `ofMarch y r`
is the date `r` days after 1 March of the year `y`, and the days before it are counted by
`beforeMarch y`.
-/

namespace SiteGateway

namespace CalendarDate
variable {d : CalendarDate} {y r n : Int}

theorem isLeap_iff : isLeap y = true ↔ y % 4 = 0 ∧ (y % 100 ≠ 0 ∨ y % 400 = 0) := by
  simp [isLeap]

/-! ## Years from March to February -/

/-- Days from 1 March of the year zero to 1 March of a year. -/
def beforeMarch (y : Int) : Int := 365 * y + y / 4 - y / 100 + y / 400

/-- The date some days after 1 March of a year. -/
def ofMarch (y r : Int) : CalendarDate :=
  let monthFromMarch := (5 * r + 2) / 153
  let day := r - (153 * monthFromMarch + 2) / 5 + 1
  let month := if monthFromMarch < 10 then monthFromMarch + 3 else monthFromMarch - 9
  { year := y + (if month ≤ 2 then 1 else 0), month := month.toNat, day := day.toNat }

/-- A day of the year that begins in March; the last one is a leap day. -/
structure MarchDay (y r : Int) : Prop where
  nonneg : 0 ≤ r
  le : r ≤ 365
  leap : r = 365 → isLeap (y + 1) = true

/-- A year and its place in the cycle of 400 years: the cycle, the century in it, the four years of
the century and the year of the four. -/
structure InCycle (y e c q i : Int) : Prop where
  year : y = 400 * e + 100 * c + 4 * q + i
  century : 0 ≤ c ∧ c < 4
  four : 0 ≤ q ∧ q < 25
  one : 0 ≤ i ∧ i < 4

theorem exists_inCycle (y : Int) : ∃ e c q i, InCycle y e c q i :=
  ⟨y / 400, y % 400 / 100, y % 100 / 4, y % 4, by omega, by omega, by omega, by omega⟩

namespace InCycle
variable {e c q i : Int} (h : InCycle y e c q i)
include h

theorem beforeMarch_eq : beforeMarch y = 146097 * e + (36524 * c + 1461 * q + 365 * i) := by
  obtain ⟨rfl, hc, hq, hi⟩ := h
  have h4 : (400 * e + 100 * c + 4 * q + i) / 4 = 100 * e + 25 * c + q := by omega
  have h100 : (400 * e + 100 * c + 4 * q + i) / 100 = 4 * e + c := by omega
  have h400 : (400 * e + 100 * c + 4 * q + i) / 400 = e := by omega
  rw [beforeMarch, h4, h100, h400]
  omega

theorem isLeap_succ_iff : isLeap (y + 1) = true ↔ i = 3 ∧ (q = 24 → c = 3) := by
  obtain ⟨rfl, hc, hq, hi⟩ := h
  rw [isLeap_iff]
  omega

theorem year_eq {d : Int} (hr : 0 ≤ r ∧ r ≤ 365) (hl : r = 365 → i = 3 ∧ (q = 24 → c = 3))
    (hd : d = 36524 * c + 1461 * q + 365 * i + r) :
    (d - d / 1460 + d / 36524 - d / 146096) / 365 = 100 * c + 4 * q + i := by
  obtain ⟨-, hc, hq, hi⟩ := h
  have hcentury : d / 36524 - d / 146096 = c := by
    by_cases hlast : d = 146096
    · omega
    · have : d / 146096 = 0 := by omega
      omega
  -- the days that `d / 1460` takes off are the leap days before the year, or one more
  by_cases hcarry : 24 * c + q + 365 * i + r < 1460
  · have : d / 1460 = 25 * c + q := by omega
    omega
  · have : d / 1460 = 25 * c + q + 1 := by omega
    omega

theorem dayOfYear_eq : 36524 * c + 1461 * q + 365 * i + r - (365 * (100 * c + 4 * q + i) +
    (100 * c + 4 * q + i) / 4 - (100 * c + 4 * q + i) / 100) = r := by
  obtain ⟨-, hc, hq, hi⟩ := h
  have h4 : (100 * c + 4 * q + i) / 4 = 25 * c + q := by omega
  have h100 : (100 * c + 4 * q + i) / 100 = c := by omega
  rw [h4, h100]
  omega

end InCycle

theorem ofDays_beforeMarch (h : MarchDay y r) :
    ofDays (beforeMarch y + r - 719468) = ofMarch y r := by
  obtain ⟨e, c, q, i, hy⟩ := exists_inCycle y
  obtain ⟨hr, hr', hleap⟩ := h
  rw [hy.isLeap_succ_iff] at hleap
  have hz : beforeMarch y + r - 719468 + 719468 =
      146097 * e + (36524 * c + 1461 * q + 365 * i + r) := by
    rw [hy.beforeMarch_eq]
    omega
  have hera : (146097 * e + (36524 * c + 1461 * q + 365 * i + r)).fdiv 146097 = e := by
    obtain ⟨-, hc, hq, hi⟩ := hy
    rw [Int.fdiv_eq_ediv_of_nonneg _ (by decide)]
    omega
  have hday : 146097 * e + (36524 * c + 1461 * q + 365 * i + r) - 146097 * e =
      36524 * c + 1461 * q + 365 * i + r := by omega
  have hyear : 100 * c + 4 * q + i + 400 * e = y := by
    rw [hy.year]
    omega
  simp only [ofDays, hz, hera, hday, hy.year_eq ⟨hr, hr'⟩ hleap rfl, hy.dayOfYear_eq, hyear,
    ofMarch]

theorem exists_marchDay (n : Int) : ∃ y r, MarchDay y r ∧ n = beforeMarch y + r - 719468 := by
  obtain ⟨e, d, hd, hd', hn⟩ : ∃ e d, 0 ≤ d ∧ d < 146097 ∧ n + 719468 = 146097 * e + d :=
    ⟨(n + 719468) / 146097, (n + 719468) % 146097, by omega⟩
  obtain ⟨c, q, i, hc, hq, hi, hr, hr', hl⟩ : ∃ c q i, (0 ≤ c ∧ c < 4) ∧ (0 ≤ q ∧ q < 25) ∧
      (0 ≤ i ∧ i < 4) ∧ 0 ≤ d - (36524 * c + 1461 * q + 365 * i) ∧
      d - (36524 * c + 1461 * q + 365 * i) ≤ 365 ∧
      (d - (36524 * c + 1461 * q + 365 * i) = 365 → i = 3 ∧ (q = 24 → c = 3)) := by
    let c := min (d / 36524) 3
    let q := (d - 36524 * c) / 1461
    let i := min ((d - 36524 * c - 1461 * q) / 365) 3
    exact ⟨c, q, i, by omega⟩
  have hy : InCycle (400 * e + 100 * c + 4 * q + i) e c q i := ⟨rfl, hc, hq, hi⟩
  refine ⟨_, _, ⟨hr, hr', fun h => hy.isLeap_succ_iff.mpr (hl h)⟩, ?_⟩
  rw [hy.beforeMarch_eq]
  omega

/-- The number of a month, counted from one, when March is number zero. -/
def fromMarch (m : Nat) : Nat := if m < 10 then m + 3 else m - 9

theorem fromMarch_mem {m : Nat} (hm : m ≤ 11) : 1 ≤ fromMarch m ∧ fromMarch m ≤ 12 := by
  unfold fromMarch
  split <;> omega

theorem exists_fromMarch {k : Nat} (hk : 1 ≤ k) (hk' : k ≤ 12) : ∃ m ≤ 11, fromMarch m = k := by
  refine ⟨(k + 9) % 12, by omega, ?_⟩
  unfold fromMarch
  split <;> omega

/-- The months are as long as the days between their beginnings, February aside. -/
theorem daysIn_fromMarch (y : Int) {m : Nat} (hm : m < 11) :
    (daysIn y (fromMarch m) : Int) = (153 * (m + 1) + 2) / 5 - (153 * m + 2) / 5 := by
  interval_cases m <;> rfl

theorem ofMarch_eq {m : Nat} (hm : (5 * r + 2) / 153 = m) (hm' : m ≤ 11) : ofMarch y r =
    ⟨y + if m < 10 then 0 else 1, fromMarch m, (r - (153 * m + 2) / 5 + 1).toNat⟩ := by
  simp only [ofMarch, hm, fromMarch]
  by_cases h : m < 10
  · have h' : (m : Int) < 10 := by omega
    have hy : ¬ (m : Int) + 3 ≤ 2 := by omega
    simp only [h, h', hy, if_true, if_false]
    rfl
  · have h' : ¬ (m : Int) < 10 := by omega
    have hy : (m : Int) - 9 ≤ 2 := by omega
    have hmonth : ((m : Int) - 9).toNat = m - 9 := by omega
    simp only [h, h', hy, hmonth, if_true, if_false]

theorem toDays_fromMarch (y : Int) {m : Nat} (hm : m ≤ 11) (k : Nat) :
    toDays ⟨y + if m < 10 then 0 else 1, fromMarch m, k⟩ =
      beforeMarch y + ((153 * m + 2) / 5 + (k - 1)) - 719468 := by
  obtain ⟨e, c, q, i, hy⟩ := exists_inCycle y
  have hyear : (if fromMarch m ≤ 2 then (y + if m < 10 then 0 else 1) - 1
      else y + if m < 10 then 0 else 1) = y := by
    unfold fromMarch
    split <;> omega
  have hmonth : (fromMarch m + 9) % 12 = m := by
    unfold fromMarch
    split <;> omega
  have hera : y.fdiv 400 = e := by
    obtain ⟨rfl, hc, hq, hi⟩ := hy
    rw [Int.fdiv_eq_ediv_of_nonneg _ (by decide)]
    omega
  have hrest : y - 400 * e = 100 * c + 4 * q + i := by
    rw [hy.year]
    omega
  have hday := hy.dayOfYear_eq (r := 0)
  simp only [toDays, hyear, hmonth, hera, hrest]
  rw [hy.beforeMarch_eq]
  omega

theorem toDays_ofMarch (h : MarchDay y r) : (ofMarch y r).toDays = beforeMarch y + r - 719468 := by
  obtain ⟨hr, hr', -⟩ := h
  obtain ⟨m, hm⟩ : ∃ m : Nat, (5 * r + 2) / 153 = m := Int.eq_ofNat_of_zero_le (by omega)
  rw [ofMarch_eq hm (by omega), toDays_fromMarch y (by omega)]
  omega

theorem valid_iff : d.valid = true ↔
    (1 ≤ d.month ∧ d.month ≤ 12) ∧ 1 ≤ d.day ∧ d.day ≤ daysIn d.year d.month := by
  simp only [valid, Bool.and_eq_true, decide_eq_true_eq, and_assoc]

theorem valid_ofMarch (h : MarchDay y r) : (ofMarch y r).valid = true := by
  obtain ⟨hr, hr', hleap⟩ := h
  obtain ⟨m, hm⟩ : ∃ m : Nat, (5 * r + 2) / 153 = m := Int.eq_ofNat_of_zero_le (by omega)
  rw [ofMarch_eq hm (by omega), valid_iff]
  refine ⟨fromMarch_mem (by omega), by dsimp only; omega, ?_⟩
  by_cases hfeb : m < 11
  · have hdays := daysIn_fromMarch (y + if m < 10 then 0 else 1) hfeb
    dsimp only
    omega
  · obtain rfl : m = 11 := by omega
    change (r - 337 + 1).toNat ≤ if isLeap (y + 1) then 29 else 28
    split
    · omega
    · have : r ≠ 365 := fun h => absurd (hleap h) ‹_›
      omega

theorem exists_of_valid (h : d.valid = true) : ∃ y m k, m ≤ 11 ∧
    d = ⟨y + if m < 10 then 0 else 1, fromMarch m, k⟩ ∧ 1 ≤ k ∧
      k ≤ daysIn (y + if m < 10 then 0 else 1) (fromMarch m) := by
  obtain ⟨year, month, day⟩ := d
  obtain ⟨⟨hmonth, hmonth'⟩, hday, hday'⟩ := valid_iff.mp h
  obtain ⟨m, hm, rfl⟩ := exists_fromMarch hmonth hmonth'
  obtain ⟨y, rfl⟩ : ∃ y, year = y + if m < 10 then 0 else 1 :=
    ⟨year - _, (Int.sub_add_cancel ..).symm⟩
  exact ⟨y, m, day, hm, rfl, hday, hday'⟩

theorem exists_ofMarch (h : d.valid = true) : ∃ y r, MarchDay y r ∧ d = ofMarch y r := by
  obtain ⟨y, m, k, hm, rfl, hk, hk'⟩ := exists_of_valid h
  obtain ⟨r, hr⟩ : ∃ r : Int, r = (153 * m + 2) / 5 + (k - 1) := ⟨_, rfl⟩
  have hfrom : (5 * r + 2) / 153 = m ∧ MarchDay y r := by
    by_cases hfeb : m < 11
    · rw [← Int.ofNat_le, daysIn_fromMarch _ hfeb] at hk'
      exact ⟨by omega, by omega, by omega, by omega⟩
    · obtain rfl : m = 11 := by omega
      change k ≤ if isLeap (y + 1) then 29 else 28 at hk'
      split at hk'
      next hl => exact ⟨by omega, by omega, by omega, fun _ => hl⟩
      next => exact ⟨by omega, by omega, by omega, by omega⟩
  refine ⟨y, r, hfrom.2, ?_⟩
  have hday : (r - (153 * m + 2) / 5 + 1).toNat = k := by omega
  rw [ofMarch_eq hfrom.1 hm, hday]

/-! ## Days and dates -/

theorem valid_ofDays (n : Int) : (ofDays n).valid = true := by
  obtain ⟨y, r, h, rfl⟩ := exists_marchDay n
  rw [ofDays_beforeMarch h]
  exact valid_ofMarch h

theorem toDays_ofDays (n : Int) : (ofDays n).toDays = n := by
  obtain ⟨y, r, h, rfl⟩ := exists_marchDay n
  rw [ofDays_beforeMarch h, toDays_ofMarch h]

theorem ofDays_toDays (h : d.valid = true) : ofDays d.toDays = d := by
  obtain ⟨y, r, hr, rfl⟩ := exists_ofMarch h
  rw [toDays_ofMarch hr, ofDays_beforeMarch hr]

/-- The next day of the calendar. -/
def next (d : CalendarDate) : CalendarDate :=
  if d.day < daysIn d.year d.month then { d with day := d.day + 1 }
  else if d.month < 12 then ⟨d.year, d.month + 1, 1⟩
  else ⟨d.year + 1, 1, 1⟩

theorem next_of_last {k m : Nat} (hm : m < 11)
    (hk : ¬ k < daysIn (y + if m < 10 then 0 else 1) (fromMarch m)) :
    next ⟨y + if m < 10 then 0 else 1, fromMarch m, k⟩ =
      ⟨y + if m + 1 < 10 then 0 else 1, fromMarch (m + 1), 1⟩ := by
  rw [next, if_neg hk]
  interval_cases m <;> simp [fromMarch]

theorem beforeMarch_succ (y : Int) :
    beforeMarch (y + 1) = beforeMarch y + 337 + daysIn (y + 1) 2 := by
  change _ = beforeMarch y + 337 + ((if isLeap (y + 1) = true then 29 else 28 : Nat) : Int)
  have h4 : (y + 1) / 4 = y / 4 + if (y + 1) % 4 = 0 then 1 else 0 := by split <;> omega
  have h100 : (y + 1) / 100 = y / 100 + if (y + 1) % 100 = 0 then 1 else 0 := by split <;> omega
  have h400 : (y + 1) / 400 = y / 400 + if (y + 1) % 400 = 0 then 1 else 0 := by split <;> omega
  rw [beforeMarch, beforeMarch, h4, h100, h400]
  by_cases hleap : isLeap (y + 1) = true
  · rw [if_pos hleap]
    rw [isLeap_iff] at hleap
    omega
  · rw [if_neg hleap]
    rw [isLeap_iff] at hleap
    omega

theorem daysIn_pos (y : Int) (m : Nat) : 0 < daysIn y m := by
  unfold daysIn
  split
  · split <;> decide
  all_goals decide

theorem daysIn_le (y : Int) (m : Nat) : daysIn y m ≤ 31 := by
  unfold daysIn
  split
  · split <;> decide
  all_goals decide

theorem valid_next (h : d.valid = true) : d.next.valid = true := by
  obtain ⟨⟨hmonth, hmonth'⟩, hday, hday'⟩ := valid_iff.mp h
  rw [valid_iff]
  unfold next
  split
  next hlt => exact ⟨⟨hmonth, hmonth'⟩, by dsimp only; omega, hlt⟩
  next =>
    split
    next hlt => exact ⟨⟨by dsimp only; omega, hlt⟩, le_rfl, daysIn_pos ..⟩
    next => exact ⟨⟨le_rfl, by dsimp only; omega⟩, le_rfl, daysIn_pos ..⟩

theorem toDays_next (h : d.valid = true) : d.next.toDays = d.toDays + 1 := by
  obtain ⟨y, m, k, hm, rfl, hk, hk'⟩ := exists_of_valid h
  by_cases hlast : k < daysIn (y + if m < 10 then 0 else 1) (fromMarch m)
  · rw [next, if_pos hlast, toDays_fromMarch y hm, toDays_fromMarch y hm]
    dsimp only
    omega
  by_cases hfeb : m < 11
  · -- the month ends inside the year from March
    have hdays := daysIn_fromMarch (y + if m < 10 then 0 else 1) hfeb
    rw [next_of_last hfeb hlast, toDays_fromMarch y hm, toDays_fromMarch y hfeb]
    omega
  · -- February ends it, and the next year begins with the next March
    obtain rfl : m = 11 := by omega
    obtain rfl : k = daysIn (y + 1) 2 := Nat.le_antisymm hk' (Nat.not_lt.mp hlast)
    have hnext : next ⟨y + 1, 2, daysIn (y + 1) 2⟩ =
        ⟨y + 1 + if 0 < 10 then 0 else 1, fromMarch 0, 1⟩ := by
      rw [next, if_neg (lt_irrefl _)]
      simp [fromMarch]
    have hlen := beforeMarch_succ y
    have hleft := toDays_fromMarch (y + 1) (m := 0) (by omega) 1
    have hright := toDays_fromMarch y (m := 11) le_rfl (daysIn (y + 1) 2)
    rw [← hnext] at hleft
    change (next ⟨y + 1, 2, _⟩).toDays = toDays ⟨y + 1, 2, _⟩ + 1
    change toDays ⟨y + 1, 2, _⟩ = _ at hright
    rw [hleft, hright]
    omega

theorem beforeMarch_mono {z : Int} (h : y ≤ z) : beforeMarch y ≤ beforeMarch z :=
  monotone_int_of_le_succ (fun y => by rw [beforeMarch_succ]; omega) h

theorem le_year_iff (h : d.valid = true) : y ≤ d.year ↔ toDays ⟨y, 1, 1⟩ ≤ d.toDays := by
  obtain ⟨z, m, k, hm, rfl, hk, hk'⟩ := exists_of_valid h
  have hfirst := toDays_fromMarch (y - 1) (m := 10) (by decide) 1
  rw [if_neg (by decide), Int.sub_add_cancel] at hfirst
  change toDays ⟨y, 1, 1⟩ = _ at hfirst
  rw [hfirst, toDays_fromMarch z hm]
  -- January is the tenth month from March; the months before it are in the year of that March
  have hlong := daysIn_le (z + if m < 10 then 0 else 1) (fromMarch m)
  by_cases hm' : m < 10
  · have hdays := daysIn_fromMarch (z + if m < 10 then 0 else 1) (m := m) (by omega)
    rw [if_pos hm', Int.add_zero]
    dsimp only
    constructor
    · intro hy
      have hmono := beforeMarch_mono (Int.sub_le_sub_right hy 1)
      have hsucc := beforeMarch_succ (z - 1)
      rw [Int.sub_add_cancel] at hsucc
      omega
    · intro hy
      by_contra hlt
      have hmono := beforeMarch_mono (y := z) (z := y - 1) (by omega)
      omega
  · rw [if_neg hm']
    dsimp only
    constructor
    · intro hy
      have hmono := beforeMarch_mono (y := y - 1) (z := z) (by omega)
      omega
    · intro hy
      by_contra hlt
      have hmono := beforeMarch_mono (y := z + 1) (z := y - 1) (by omega)
      have hsucc := beforeMarch_succ z
      omega

theorem ofDays_zero : ofDays 0 = ⟨1970, 1, 1⟩ := rfl

/-- Days follow each other as the calendar has it. -/
theorem ofDays_succ (n : Int) : ofDays (n + 1) = (ofDays n).next := by
  have hv := valid_ofDays n
  rw [← ofDays_toDays (valid_next hv), toDays_next hv, toDays_ofDays]

end CalendarDate

namespace CivilTime

theorem toSeconds_ofSeconds (s : Int) : (ofSeconds s).toSeconds = s := by
  rw [toSeconds, ofSeconds, CalendarDate.toDays_ofDays, Int.fdiv_eq_ediv_of_nonneg _ (by decide)]
  dsimp only
  omega

theorem second_ofSeconds_lt (s : Int) : (ofSeconds s).second < 86400 := by
  rw [ofSeconds, Int.fdiv_eq_ediv_of_nonneg _ (by decide)]
  dsimp only
  omega

/-- The years are cut at the first seconds of their first days. -/
theorem le_year_iff {y s : Int} :
    y ≤ (ofSeconds s).date.year ↔ 86400 * CalendarDate.toDays ⟨y, 1, 1⟩ ≤ s := by
  have hdiv : s.fdiv 86400 = s / 86400 := Int.fdiv_eq_ediv_of_nonneg _ (by decide)
  change y ≤ (CalendarDate.ofDays (s.fdiv 86400)).year ↔ _
  rw [CalendarDate.le_year_iff (CalendarDate.valid_ofDays _), CalendarDate.toDays_ofDays, hdiv]
  omega

end CivilTime

end SiteGateway
