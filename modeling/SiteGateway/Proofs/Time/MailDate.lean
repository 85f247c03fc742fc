import SiteGateway.Proofs.Time.HttpDate
import SiteGateway.Time.MailDate

/-!
# Dates of headers read as mail dates

The fixed form of a date is a mail date of the same instant (`MailDate.parse?_fixed`). The other two
forms are no mail dates at all: the reader wants a comma after three letters of the weekday
(`MailDate.parse?_of_ne_fixed`).
-/

namespace SiteGateway

open HttpDate (nameAt Fields Form)

namespace Text
variable {t : Text}

theorem trimStart_of_head (h : ∀ c ∈ t.head?, isBlank c = false) : trimStart t = t := by
  cases t with
  | nil => rfl
  | cons c t => exact List.dropWhile_cons_of_neg (by simp [h c rfl])

theorem head?_padded_append (w n : Nat) (rest : Text) :
    ∀ c ∈ (padded w n ++ rest).head?, isBlank c = false := by
  intro c hc
  obtain ⟨d, ds, hds⟩ := List.exists_cons_of_ne_nil (padded_ne_nil (w := w) (n := n))
  rw [hds] at hc
  obtain rfl : d = c := Option.some.inj hc
  exact isBlank_of_isDigit (isDigit_of_mem_padded (hds ▸ List.mem_cons_self))

theorem trimStart_padded_append (w n : Nat) (rest : Text) :
    trimStart (padded w n ++ rest) = padded w n ++ rest :=
  trimStart_of_head (head?_padded_append w n rest)

end Text

namespace MailDate
variable {i n w least most : Nat} {c : Char} {rest : Text} {f : Fields} {s : Int}

/-! ## Names, numbers and blanks -/

theorem name?_weekday (h : i < 7) (rest : Text) :
    name? Calendar.weekdayNames (nameAt Calendar.weekdayNames i ++ rest) = some (i, rest) := by
  interval_cases i <;> rfl

theorem name?_month (h : i < 12) (rest : Text) :
    name? Calendar.monthNames (nameAt Calendar.monthNames i ++ rest) = some (i, rest) := by
  interval_cases i <;> rfl

theorem weekday?_comma (h : i < 7) (rest : Text) :
    weekday? (nameAt Calendar.weekdayNames i ++ ',' :: rest) = some (some i, rest) := by
  rw [weekday?, name?_weekday h]
  rfl

theorem weekday?_of_ne (h : i < 7) (hc : c ≠ ',') :
    weekday? (nameAt Calendar.weekdayNames i ++ c :: rest) = none := by
  rw [weekday?, name?_weekday h]
  split
  next heq => cases heq
  next heq => exact absurd (List.cons.inj (Prod.mk.inj (Option.some.inj heq)).2).1 hc
  next => rfl

theorem number?_append {ds : Text} (htake : ((ds ++ rest).take most).takeWhile Char.isDigit = ds)
    (hl : least ≤ ds.length) (hn : Text.nat? ds = some n) :
    number? least most (ds ++ rest) = some (n, rest) := by
  rw [number?, htake, if_neg (Nat.not_lt.mpr hl), hn, List.drop_left]
  rfl

theorem number?_padded (hl : least ≤ w) (hw : 0 < w) (hn : n < 10 ^ w) (rest : Text) :
    number? least w (Text.padded w n ++ rest) = some (n, rest) := by
  have hlen := Text.length_padded hw hn
  refine number?_append ?_ (hlen.symm ▸ hl) (Text.nat?_padded w n)
  rw [List.take_left' hlen, List.takeWhile_eq_self_iff]
  exact fun c => Text.isDigit_of_mem_padded

/-- All the digits that there are. -/
theorem number?_padded_space (hl : least ≤ w) (hw : 0 < w) (hn : n < 10 ^ w) (rest : Text) :
    number? least (Text.padded w n ++ ' ' :: rest).length (Text.padded w n ++ ' ' :: rest) =
      some (n, ' ' :: rest) := by
  refine number?_append ?_ ((Text.length_padded hw hn).symm ▸ hl) (Text.nat?_padded w n)
  rw [List.take_length, List.takeWhile_append_of_pos fun c => Text.isDigit_of_mem_padded]
  exact List.append_nil _

theorem blanks?_padded (w n : Nat) (rest : Text) :
    blanks? (' ' :: (Text.padded w n ++ rest)) = some (Text.padded w n ++ rest) :=
  congrArg some (Text.trimStart_padded_append w n rest)

theorem fullYear_padded (hn : n < 10000) (rest : Text) :
    fullYear ((Text.padded 4 n ++ rest).length - rest.length) n = n := by
  rw [List.length_append, Nat.add_sub_cancel, Text.length_padded (w := 4) (by decide) hn]
  rfl

/-! ## The fields of a date -/

theorem blanks?_clock (f : Fields) (rest : Text) :
    blanks? (' ' :: (f.clock ++ rest)) = some (f.clock ++ rest) := by
  rw [Fields.clock, List.append_assoc]
  exact blanks?_padded ..

section
variable (h : f.Fit)
include h

theorem trimStart_write (form : Form) : Text.trimStart (form.write f) = form.write f := by
  obtain ⟨a, ha, ha'⟩ := h.head?_write form
  exact Text.trimStart_of_head fun c hc => Option.some.inj (hc.symm.trans ha) ▸ ha'

theorem blanks?_monthName (rest : Text) :
    blanks? (' ' :: (f.monthName ++ rest)) = some (f.monthName ++ rest) := by
  have hmonth := h.month
  unfold Fields.monthName
  generalize f.month - 1 = i at hmonth
  interval_cases i <;> rfl

theorem clock?_write (rest : Text) :
    clock? (f.clock ++ ' ' :: rest) = some ((f.hour, f.minute, f.second), ' ' :: rest) := by
  have hhour := number?_padded (w := 2) le_rfl (by decide) h.hour
  have hminute := number?_padded (w := 2) le_rfl (by decide) h.minute
  have hsecond := number?_padded (w := 2) le_rfl (by decide) h.second
  have hcolon (t : Text) : char? ':' (Text.trimStart (':' :: t)) = some t := rfl
  simp only [clock?, Fields.clock, List.append_assoc, List.cons_append, hhour, hminute, hsecond,
    hcolon, Option.bind_eq_bind, Option.bind_some, Text.trimStart_padded_append]
  rfl

theorem parse?_of_ne_fixed {form : Form} (hform : form ≠ .fixed) :
    parse? (form.write f) = none := by
  obtain ⟨c, x, hx, hc⟩ := h.write_of_ne hform
  rw [parse?, trimStart_write h, hx, weekday?_of_ne h.weekday hc]
  rfl

end

theorem blanks?_gmt : blanks? (' ' :: "GMT".toList) = some "GMT".toList := rfl

theorem zone?_gmt : zone? "GMT".toList = some (0, []) := rfl

theorem parse?_fixed (h : f.Names s) : parse? (Form.fixed.write f) = some s := by
  have hfit := h.fit
  have hday (rest : Text) : number? 1 2 (Text.trimStart (' ' :: (Text.padded 2 f.day ++ rest))) =
      some (f.day, rest) := by
    change number? 1 2 (Text.trimStart (Text.padded 2 f.day ++ rest)) = _
    rw [Text.trimStart_padded_append]
    exact number?_padded (by decide : 1 ≤ 2) (by decide) hfit.day rest
  have hyear := number?_padded_space (by decide : 2 ≤ 4) (by decide) hfit.year
  have hdate : (⟨f.year, f.month - 1 + 1, f.day⟩ : CalendarDate) = f.date := by
    rw [Nat.sub_add_cancel hfit.named]
    rfl
  have hrange : ¬ (f.hour ≥ 24 ∨ f.minute ≥ 60 ∨ f.second > 60 ∨ (!f.date.valid) = true ∨
      f.year > 262142) := by
    rintro (hh | hm | hs | hv | hy)
    · exact Nat.not_lt.mpr hh h.hour
    · exact Nat.not_lt.mpr hm h.minute
    · exact Nat.not_lt.mpr h.second hs
    · rw [h.valid] at hv
      cases hv
    · have := h.year
      omega
  have hweekday : ¬ (some f.weekday).any (· ≠ weekday f.date.toDays) = true := by
    rw [h.weekday]
    simp
  rw [parse?, trimStart_write hfit]
  -- the readers take one part after another from what is written
  refine Option.bind_eq_some_iff.mpr ⟨_, weekday?_comma hfit.weekday _, ?_⟩
  refine Option.bind_eq_some_iff.mpr ⟨_, hday _, ?_⟩
  refine Option.bind_eq_some_iff.mpr ⟨_, blanks?_monthName hfit _, ?_⟩
  refine Option.bind_eq_some_iff.mpr ⟨_, name?_month hfit.month _, ?_⟩
  refine Option.bind_eq_some_iff.mpr ⟨_, blanks?_padded .., ?_⟩
  refine Option.bind_eq_some_iff.mpr ⟨_, hyear _, ?_⟩
  refine Option.bind_eq_some_iff.mpr ⟨_, blanks?_clock f _, ?_⟩
  refine Option.bind_eq_some_iff.mpr ⟨_, clock?_write hfit _, ?_⟩
  refine Option.bind_eq_some_iff.mpr ⟨_, blanks?_gmt, ?_⟩
  refine Option.bind_eq_some_iff.mpr ⟨_, zone?_gmt, ?_⟩
  dsimp only
  rw [fullYear_padded hfit.year, hdate]
  rw [if_neg (by decide), if_neg hrange, if_neg (by decide), if_neg hweekday, h.seconds]
  exact congrArg some (Int.sub_zero s)

theorem parse?_httpDate (h : HttpDate.FourDigit s) : parse? (HttpDate.write s) = some s := by
  rw [HttpDate.write_eq h]
  exact parse?_fixed (Fields.names_ofSeconds h)

end MailDate

end SiteGateway
