import SiteGateway.Proofs.Text.Digits
import SiteGateway.Proofs.Text.Split
import SiteGateway.Proofs.Text.Trim
import SiteGateway.Proofs.Time.Calendar
import SiteGateway.Time.HttpDate

/-!
# The three forms of a date

`Form.write` writes the fields of a date in one of the three forms, `HttpDate.write` is the fixed
one (`write_eq`), and `HttpDate.parse?` reads each of them back (`parse?_write`). What it reads lies
in the years that header dates reach (`reaches_iff`, `reaches_of_parse?`).
-/

namespace SiteGateway

namespace HttpDate

namespace Fields

def date (f : Fields) : CalendarDate := ⟨f.year, f.month, f.day⟩

def monthName (f : Fields) : Text := nameAt Calendar.monthNames (f.month - 1)

def clock (f : Fields) : Text :=
  Text.padded 2 f.hour ++ ':' :: (Text.padded 2 f.minute ++ ':' :: Text.padded 2 f.second)

/-- The fields of an instant. -/
def ofSeconds (s : Int) : Fields :=
  let t := CivilTime.ofSeconds s
  { weekday := SiteGateway.weekday t.date.toDays, year := t.date.year.toNat, month := t.date.month,
    day := t.date.day, hour := t.second / 3600, minute := t.second / 60 % 60,
    second := t.second % 60 }

/-- The fields name an instant; the second that a minute may have too many counts as the last
one. -/
structure Names (f : Fields) (s : Int) : Prop where
  valid : f.date.valid = true
  weekday : SiteGateway.weekday f.date.toDays = f.weekday
  year : f.year ≤ 9999
  hour : f.hour < 24
  minute : f.minute < 60
  second : f.second ≤ 60
  seconds : CivilTime.toSeconds ⟨f.date, 3600 * f.hour + 60 * f.minute + min f.second 59⟩ = s

/-- The fields have the width of their places. -/
structure Fit (f : Fields) : Prop where
  weekday : f.weekday < 7
  year : f.year < 10000
  month : f.month - 1 < 12
  day : f.day < 100
  hour : f.hour < 100
  minute : f.minute < 100
  second : f.second < 100
  named : 1 ≤ f.month

end Fields

/-- The forms of a date. -/
inductive Form
  | fixed
  | hyphenated
  | yearLast
deriving DecidableEq

namespace Form

def write : Form → Fields → Text
  | fixed, f =>
    nameAt Calendar.weekdayNames f.weekday ++ ',' :: ' ' :: (Text.padded 2 f.day ++
      ' ' :: (f.monthName ++ ' ' :: (Text.padded 4 f.year ++ ' ' :: (f.clock ++ " GMT".toList))))
  | hyphenated, f =>
    nameAt Calendar.weekdayLongNames f.weekday ++ ',' :: ' ' :: (Text.padded 2 f.day ++
      '-' :: (f.monthName ++ '-' :: (Text.padded 2 (f.year % 100) ++ ' ' :: (f.clock ++
        " GMT".toList))))
  | yearLast, f =>
    nameAt Calendar.weekdayNames f.weekday ++ ' ' :: (f.monthName ++ ' ' ::
      ((if f.day < 10 then ' ' :: Text.padded 1 f.day else Text.padded 2 f.day) ++
        ' ' :: (f.clock ++ ' ' :: Text.padded 4 f.year)))

/-- The years that a form can write. -/
def Covers (form : Form) (year : Nat) : Prop := form = hyphenated → 1970 ≤ year ∧ year < 2070

end Form

/-! ## The parts of a date -/

theorem digits?_padded {n w : Nat} (hw : 0 < w) (h : n < 10 ^ w) :
    digits? w (Text.padded w n) = some n := by
  rw [digits?, if_pos (Text.length_padded hw h), Text.nat?_padded]

theorem exists_twoDigits {n : Nat} (h : n < 100) :
    ∃ a b, Text.padded 2 n = [a, b] ∧ digits? 2 [a, b] = some n := by
  obtain ⟨a, b, hab⟩ := List.length_eq_two.mp (Text.length_padded (w := 2) (by decide) h)
  exact ⟨a, b, hab, by rw [← hab, digits?_padded (by decide) h]⟩

theorem exists_fourDigits {n : Nat} (h : n < 10000) :
    ∃ a b c d, Text.padded 4 n = [a, b, c, d] ∧ digits? 4 [a, b, c, d] = some n := by
  obtain ⟨a, b, c, d, hab⟩ := List.length_eq_four.mp (Text.length_padded (w := 4) (by decide) h)
  exact ⟨a, b, c, d, hab, by rw [← hab, digits?_padded (by decide) h]⟩

theorem exists_weekday {i : Nat} (h : i < 7) : ∃ a b c,
    nameAt Calendar.weekdayNames i = [a, b, c] ∧
      indexOf? Calendar.weekdayNames [a, b, c] = some i := by
  interval_cases i <;> exact ⟨_, _, _, rfl, rfl⟩

theorem exists_month {i : Nat} (h : i < 12) : ∃ a b c,
    nameAt Calendar.monthNames i = [a, b, c] ∧ indexOf? Calendar.monthNames [a, b, c] = some i := by
  interval_cases i <;> exact ⟨_, _, _, rfl, rfl⟩

theorem indexOf?_weekdayLong {i : Nat} (h : i < 7) :
    indexOf? Calendar.weekdayLongNames (nameAt Calendar.weekdayLongNames i) = some i := by
  interval_cases i <;> rfl

theorem exists_weekdayLong {i : Nat} (h : i < 7) : ∃ c x,
    nameAt Calendar.weekdayLongNames i = nameAt Calendar.weekdayNames i ++ c :: x ∧ c ≠ ',' := by
  interval_cases i <;> exact ⟨_, _, rfl, by decide⟩

theorem comma_notMem_weekdayLong {i : Nat} (h : i < 7) :
    ',' ∉ nameAt Calendar.weekdayLongNames i := by
  interval_cases i <;> decide

theorem fixed?_eq_none {t : Text} (h : (t.drop 3).take 2 ≠ [',', ' ']) : fixed? t = none := by
  simp [fixed?, h]

theorem hyphenated?_eq_none {t : Text} (h : ',' ∉ t) : hyphenated? t = none := by
  have hcut : Text.cutAt? [',', ' '] t = none := by
    cases hc : Text.cutAt? [',', ' '] t with
    | none => rfl
    | some xy =>
      refine absurd ?_ h
      rw [Text.eq_append_of_cutAt? hc]
      simp
  simp [hyphenated?, hcut]

theorem notMem_padded {c : Char} (hc : c.isDigit = false) (w n : Nat) : c ∉ Text.padded w n := by
  intro h
  rw [Text.isDigit_of_mem_padded h] at hc
  cases hc

theorem comma_notMem_weekday {i : Nat} (h : i < 7) : ',' ∉ nameAt Calendar.weekdayNames i := by
  interval_cases i <;> decide

theorem comma_notMem_month {i : Nat} (h : i < 12) : ',' ∉ nameAt Calendar.monthNames i := by
  interval_cases i <;> decide

namespace Fields.Fit
variable {f : Fields} (h : f.Fit)
include h

theorem exists_monthName : ∃ a b c, f.monthName = [a, b, c] ∧
    indexOf? Calendar.monthNames [a, b, c] = some (f.month - 1) := exists_month h.month

theorem exists_clock : ∃ a b c d e g, f.clock = [a, b, ':', c, d, ':', e, g] ∧
    clock? [a, b, ':', c, d, ':', e, g] = some (f.hour, f.minute, f.second) := by
  obtain ⟨a, b, hab, hhour⟩ := exists_twoDigits h.hour
  obtain ⟨c, d, hcd, hminute⟩ := exists_twoDigits h.minute
  obtain ⟨e, g, heg, hsecond⟩ := exists_twoDigits h.second
  refine ⟨a, b, c, d, e, g, by rw [clock, hab, hcd, heg]; rfl, ?_⟩
  simp only [clock?, hhour, hminute, hsecond]
  rfl

/-! ## Reading what is written -/

theorem fixed?_write : fixed? (Form.fixed.write f) = some f := by
  obtain ⟨w1, w2, w3, hw, hwi⟩ := exists_weekday h.weekday
  obtain ⟨d1, d2, hd, hdi⟩ := exists_twoDigits h.day
  obtain ⟨m1, m2, m3, hm, hmi⟩ := h.exists_monthName
  obtain ⟨y1, y2, y3, y4, hy, hyi⟩ := exists_fourDigits h.year
  obtain ⟨c1, c2, c3, c4, c5, c6, hc, hci⟩ := h.exists_clock
  simp [Form.write, fixed?, hw, hd, hm, hy, hc, hwi, hdi, hyi, hci, hmi, Nat.sub_add_cancel h.named]

theorem hyphenated?_write (hc : Form.hyphenated.Covers f.year) :
    hyphenated? (Form.hyphenated.write f) = some f := by
  obtain ⟨d1, d2, hd, hdi⟩ := exists_twoDigits h.day
  obtain ⟨m1, m2, m3, hm, hmi⟩ := h.exists_monthName
  obtain ⟨y1, y2, hy, hyi⟩ := exists_twoDigits (Nat.mod_lt f.year (by decide : 0 < 100))
  obtain ⟨c1, c2, c3, c4, c5, c6, hc', hci⟩ := h.exists_clock
  have hwi := indexOf?_weekdayLong h.weekday
  have hcut (rest : Text) : Text.cutAt? [',', ' ']
      (nameAt Calendar.weekdayLongNames f.weekday ++ ',' :: ' ' :: rest) =
        some (nameAt Calendar.weekdayLongNames f.weekday, rest) :=
    Text.cutAt?_append rfl (comma_notMem_weekdayLong h.weekday) rest
  have hyear :
      (if f.year % 100 < 70 then f.year % 100 + 2000 else f.year % 100 + 1900) = f.year := by
    obtain ⟨hlow, hhigh⟩ := hc rfl
    split <;> omega
  simp [Form.write, hyphenated?, hcut, hd, hm, hy, hc', hwi, hdi, hyi, hci, hmi, hyear,
    Nat.sub_add_cancel h.named]

theorem yearLast?_write : yearLast? (Form.yearLast.write f) = some f := by
  obtain ⟨w1, w2, w3, hw, hwi⟩ := exists_weekday h.weekday
  obtain ⟨m1, m2, m3, hm, hmi⟩ := h.exists_monthName
  obtain ⟨y1, y2, y3, y4, hy, hyi⟩ := exists_fourDigits h.year
  obtain ⟨c1, c2, c3, c4, c5, c6, hc, hci⟩ := h.exists_clock
  by_cases hday : f.day < 10
  · obtain ⟨d, hd⟩ := List.length_eq_one_iff.mp (Text.length_padded (w := 1) (by decide) hday)
    have hdi : digits? 1 [d] = some f.day := by rw [← hd, digits?_padded (by decide) hday]
    simp [Form.write, yearLast?, hw, hday, hd, hm, hy, hc, hwi, hdi, hyi, hci, hmi,
      Nat.sub_add_cancel h.named]
  · obtain ⟨d1, d2, hd, hdi⟩ := exists_twoDigits h.day
    have hne : d1 ≠ ' ' := by
      rintro rfl
      have : (' ').isDigit = true := Text.isDigit_of_mem_padded (hd ▸ List.mem_cons_self)
      exact absurd this (by decide)
    simp [Form.write, yearLast?, hw, hday, hd, hm, hy, hc, hwi, hdi, hyi, hci, hmi, hne,
      Nat.sub_add_cancel h.named]

/-! ### Each form is read as itself only -/

/-- Only the fixed form has a comma after three letters. -/
theorem write_of_ne {form : Form} (hform : form ≠ .fixed) : ∃ c x,
    form.write f = nameAt Calendar.weekdayNames f.weekday ++ c :: x ∧ c ≠ ',' := by
  cases form with
  | fixed => exact absurd rfl hform
  | hyphenated =>
    obtain ⟨c, x, hx, hc⟩ := exists_weekdayLong h.weekday
    exact ⟨c, _, by rw [Form.write, hx, List.append_assoc]; rfl, hc⟩
  | yearLast => exact ⟨' ', _, rfl, by decide⟩

theorem fixed?_write_of_ne {form : Form} (hform : form ≠ .fixed) :
    fixed? (form.write f) = none := by
  obtain ⟨c, x, hx, hc⟩ := h.write_of_ne hform
  obtain ⟨w1, w2, w3, hw, -⟩ := exists_weekday h.weekday
  refine fixed?_eq_none ?_
  rw [hx, hw]
  exact fun heq => hc (List.cons.inj heq).1

theorem hyphenated?_yearLast : hyphenated? (Form.yearLast.write f) = none := by
  refine hyphenated?_eq_none ?_
  have hdigits := notMem_padded (c := ',') rfl
  have hweekday := comma_notMem_weekday h.weekday
  have hmonth : ',' ∉ f.monthName := comma_notMem_month h.month
  by_cases hday : f.day < 10
  · simp [Form.write, Fields.clock, hdigits, hweekday, hmonth, hday]
  · simp [Form.write, Fields.clock, hdigits, hweekday, hmonth, hday]

theorem head?_write (form : Form) : ∃ c, (form.write f).head? = some c ∧ isBlank c = false := by
  have hw := h.weekday
  cases form
  all_goals
    rw [Form.write]
    generalize f.weekday = i at hw
    interval_cases i <;> exact ⟨_, rfl, rfl⟩

theorem getLast?_write (form : Form) :
    ∃ c, (form.write f).getLast? = some c ∧ isBlank c = false := by
  obtain ⟨y1, y2, y3, y4, hy, -⟩ := exists_fourDigits h.year
  have hy4 : y4.isDigit = true := Text.isDigit_of_mem_padded (w := 4) (n := f.year) (by simp [hy])
  cases form with
  | fixed => exact ⟨'T', by simp [Form.write, List.getLast?_append, List.getLast?_cons], rfl⟩
  | hyphenated => exact ⟨'T', by simp [Form.write, List.getLast?_append, List.getLast?_cons], rfl⟩
  | yearLast =>
    refine ⟨y4, ?_, Text.isBlank_of_isDigit hy4⟩
    simp [Form.write, hy, List.getLast?_append, List.getLast?_cons]

theorem trim_write (form : Form) : Text.trim (form.write f) = form.write f := by
  obtain ⟨a, ha, ha'⟩ := h.head?_write form
  obtain ⟨b, hb, hb'⟩ := h.getLast?_write form
  refine Text.Trimmed.trim_eq ⟨fun c hc => ?_, fun c hc => ?_⟩
  · rwa [Option.some.inj (hc.symm.trans ha)]
  · rwa [Option.some.inj (hc.symm.trans hb)]

theorem parse?_write {form : Form} (hc : form.Covers f.year) :
    parse? (form.write f) = f.toSeconds? := by
  rw [parse?, h.trim_write form]
  cases form with
  | fixed =>
    rw [h.fixed?_write]
    rfl
  | hyphenated =>
    rw [h.fixed?_write_of_ne (by decide), h.hyphenated?_write hc]
    rfl
  | yearLast =>
    rw [h.fixed?_write_of_ne (by decide), h.hyphenated?_yearLast, h.yearLast?_write]
    rfl

end Fields.Fit

/-! ## Instants -/

theorem weekday_lt (n : Int) : weekday n < 7 := by
  unfold weekday
  omega

/-- The year of the instant has four digits. -/
structure FourDigit (s : Int) : Prop where
  nonneg : 0 ≤ (CivilTime.ofSeconds s).date.year
  le : (CivilTime.ofSeconds s).date.year ≤ 9999

theorem fourDigit_iff {s : Int} : FourDigit s ↔ -62167219200 ≤ s ∧ s < 253402300800 := by
  have hlow : 0 ≤ (CivilTime.ofSeconds s).date.year ↔ -62167219200 ≤ s := CivilTime.le_year_iff
  have hhigh : 10000 ≤ (CivilTime.ofSeconds s).date.year ↔ 253402300800 ≤ s :=
    CivilTime.le_year_iff
  constructor
  · rintro ⟨h, h'⟩
    omega
  · rintro ⟨h, h'⟩
    constructor <;> omega

/-- Header dates reach from 1970 to the last year of four digits. -/
theorem reaches_iff {s : Int} : reaches s = true ↔
    1970 ≤ (CivilTime.ofSeconds s).date.year ∧ (CivilTime.ofSeconds s).date.year ≤ 9999 := by
  have hlow : 1970 ≤ (CivilTime.ofSeconds s).date.year ↔ 0 ≤ s := CivilTime.le_year_iff
  have hhigh : 10000 ≤ (CivilTime.ofSeconds s).date.year ↔ 253402300800 ≤ s :=
    CivilTime.le_year_iff
  rw [reaches, Bool.and_eq_true, decide_eq_true_eq, decide_eq_true_eq]
  omega

namespace Fields
variable {f : Fields} {s : Int}

theorem Names.fit (h : f.Names s) : f.Fit where
  weekday := h.weekday ▸ weekday_lt _
  year := Nat.lt_succ_of_le h.year
  month := by
    have := (CalendarDate.valid_iff.mp h.valid).1.2
    change f.month ≤ 12 at this
    omega
  day := by
    have hday := (CalendarDate.valid_iff.mp h.valid).2.2
    have hlong := CalendarDate.daysIn_le f.date.year f.date.month
    change f.day ≤ _ at hday
    omega
  hour := by
    have := h.hour
    omega
  minute := by
    have := h.minute
    omega
  second := by
    have := h.second
    omega
  named := (CalendarDate.valid_iff.mp h.valid).1.1

theorem Names.toSeconds?_eq (h : f.Names s) :
    f.toSeconds? = if f.second < 60 ∧ 1970 ≤ f.year then some s else none := by
  by_cases hf : f.second < 60 ∧ 1970 ≤ f.year
  · have hsecond : min f.second 59 = f.second := by omega
    have hs := h.seconds
    rw [hsecond] at hs
    rw [if_pos hf, toSeconds?, if_pos ⟨hf.1, h.minute, h.hour, hf.2, h.year, h.valid, h.weekday⟩]
    exact congrArg some hs
  · rw [if_neg hf, toSeconds?, if_neg fun hall => hf ⟨hall.1, hall.2.2.2.1⟩]

/-- The fields name an instant of their year. -/
theorem Names.le_year_iff {y : Int} (h : f.Names s) :
    y ≤ f.year ↔ 86400 * CalendarDate.toDays ⟨y, 1, 1⟩ ≤ s := by
  have hdays := CalendarDate.le_year_iff (y := y) h.valid
  have hhour := h.hour
  have hminute := h.minute
  change y ≤ (f.year : Int) ↔ _ at hdays
  rw [hdays, ← h.seconds, CivilTime.toSeconds]
  dsimp only
  omega

theorem Names.neg_of_year (h : f.Names s) (hy : ¬ 1970 ≤ f.year) : s < 0 := by
  have hcut : (1970 : Int) ≤ f.year ↔ 0 ≤ s := h.le_year_iff
  omega

theorem Names.lt (h : f.Names s) : s < 253402300800 := by
  have hcut : (10000 : Int) ≤ f.year ↔ 253402300800 ≤ s := h.le_year_iff
  have hyear := h.year
  omega

theorem reaches_of_toSeconds? (h : f.toSeconds? = some s) : reaches s = true := by
  obtain ⟨⟨hsecond, hminute, hhour, hfirst, hlast, hvalid, hweekday⟩, h⟩ :=
    Option.ite_none_right_eq_some.mp h
  have hn : f.Names s :=
    { valid := hvalid, weekday := hweekday, year := hlast, hour := hhour, minute := hminute
      second := Nat.le_of_lt hsecond
      seconds := by
        rw [Nat.min_eq_left (Nat.le_of_lt_succ hsecond)]
        exact Option.some.inj h }
  have hcut : (1970 : Int) ≤ f.year ↔ 0 ≤ s := hn.le_year_iff
  rw [reaches, Bool.and_eq_true, decide_eq_true_eq, decide_eq_true_eq]
  exact ⟨hcut.mp (Int.ofNat_le.mpr hfirst), hn.lt⟩

theorem date_ofSeconds (h : FourDigit s) : (ofSeconds s).date = (CivilTime.ofSeconds s).date := by
  have hyear : (((CivilTime.ofSeconds s).date.year.toNat : Nat) : Int) =
      (CivilTime.ofSeconds s).date.year := Int.toNat_of_nonneg h.nonneg
  rw [date, ofSeconds, hyear]

/-- Every instant of the years that have four digits has fields. -/
theorem names_ofSeconds (h : FourDigit s) : (ofSeconds s).Names s := by
  have hdate := date_ofSeconds h
  have hlt := CivilTime.second_ofSeconds_lt s
  have hsecond : 3600 * (ofSeconds s).hour + 60 * (ofSeconds s).minute +
      min (ofSeconds s).second 59 = (CivilTime.ofSeconds s).second := by
    simp only [ofSeconds]
    omega
  exact {
    valid := by
      rw [hdate]
      exact CalendarDate.valid_ofDays _
    weekday := by
      rw [hdate]
      rfl
    year := by
      have := h.le
      simp only [ofSeconds]
      omega
    hour := by
      simp only [ofSeconds]
      omega
    minute := Nat.mod_lt _ (by decide)
    second := (Nat.mod_lt _ (by decide)).le
    seconds := by
      rw [hsecond, hdate]
      exact CivilTime.toSeconds_ofSeconds s }

end Fields

/-- A header date that is read lies where header dates reach. -/
theorem reaches_of_parse? {t : Text} {s : Int} (h : parse? t = some s) : reaches s = true := by
  obtain ⟨f, -, hf⟩ := Option.bind_eq_some_iff.mp h
  exact Fields.reaches_of_toSeconds? hf

theorem writeYear_eq {y : Int} (h : 0 ≤ y) (h' : y ≤ 9999) :
    writeYear y = Text.padded 4 y.toNat := by
  obtain ⟨n, rfl⟩ := Int.eq_ofNat_of_zero_le h
  have hn : n ≤ 9999 := by omega
  exact if_pos hn

theorem write_eq {s : Int} (h : FourDigit s) : write s = Form.fixed.write (.ofSeconds s) := by
  rw [write, writeYear_eq h.nonneg h.le]
  simp [Form.write, Fields.ofSeconds, Fields.monthName, Fields.clock, writeClock, Text.join]

end HttpDate

end SiteGateway
