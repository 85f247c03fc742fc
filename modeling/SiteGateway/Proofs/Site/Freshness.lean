import SiteGateway.Proofs.Text.Utf8
import SiteGateway.Proofs.Time.MailDate
import SiteGateway.Site.Freshness

/-!
# Revalidation of generated pages

A page's `last-modified` names the second in which its source was last changed, and a client that
sends a date back gets 304 if and only if that second is not after the date
(`Page.respond_revalidated`). Pages have dates as far as their calendar reaches
(`Page.reaches_iff`).
-/

namespace SiteGateway

/-! ## Dates as header values -/

namespace Text
variable {s t : Text} {c : Char}

/-- Only characters that a header value is read with. -/
def Visible (t : Text) : Prop := ∀ c ∈ t, 0x20 ≤ c.toNat ∧ c.toNat < 0x7F

instance (t : Text) : Decidable (Visible t) :=
  List.decidableBAll (fun c : Char => 0x20 ≤ c.toNat ∧ c.toNat < 0x7F) t

theorem visible_append : Visible (s ++ t) ↔ Visible s ∧ Visible t := List.forall_mem_append

theorem visible_cons : Visible (c :: t) ↔ (0x20 ≤ c.toNat ∧ c.toNat < 0x7F) ∧ Visible t :=
  List.forall_mem_cons

theorem visible_padded (w n : Nat) : Visible (padded w n) := by
  intro c hc
  have hdigit := isDigit_of_mem_padded hc
  simp only [Char.isDigit, Bool.and_eq_true, decide_eq_true_eq] at hdigit
  have hlow : 48 ≤ c.toNat := hdigit.1
  have hhigh : c.toNat ≤ 57 := hdigit.2
  omega

end Text

theorem HeaderValue.readable?_encode {t : Text} (h : t.Visible) :
    readable? (Utf8.encode t) = some t := by
  have hbytes : Utf8.encode t = t.map fun c => UInt8.ofNat c.toNat := by
    induction t with
    | nil => rfl
    | cons c t ih =>
      obtain ⟨hc, ht⟩ := Text.visible_cons.mp h
      rw [Utf8.encode_cons_of_lt (by omega), ih ht]
      rfl
  have hbyte (c : Char) (hc : c ∈ t) : (UInt8.ofNat c.toNat).toNat = c.toNat := by
    obtain ⟨-, hhigh⟩ := h c hc
    exact Utf8.toNat_ofNat_of_lt (by omega)
  have hall : (Utf8.encode t).all (fun b => b == 9 || (0x20 ≤ b && b < 0x7F)) = true := by
    rw [hbytes, List.all_map, List.all_eq_true]
    intro c hc
    obtain ⟨hlow, hhigh⟩ := h c hc
    have hrange : 0x20 ≤ UInt8.ofNat c.toNat ∧ UInt8.ofNat c.toNat < 0x7F := by
      rw [UInt8.le_iff_toNat_le, UInt8.lt_iff_toNat_lt, hbyte c hc]
      exact ⟨hlow, hhigh⟩
    simp [hrange]
  rw [readable?, if_pos hall, hbytes, List.map_map]
  refine congrArg some ((List.map_congr_left fun c hc => ?_).trans (List.map_id t))
  exact (congrArg Char.ofNat (hbyte c hc)).trans (Char.ofNat_toNat c)

namespace HttpDate
variable {f : Fields} {i : Nat}

theorem visible_weekday (h : i < 7) : (nameAt Calendar.weekdayNames i).Visible ∧
    (nameAt Calendar.weekdayLongNames i).Visible := by
  interval_cases i <;> decide

theorem visible_month (h : i < 12) : (nameAt Calendar.monthNames i).Visible := by
  interval_cases i <;> decide

theorem Fields.visible_clock (f : Fields) : f.clock.Visible := by
  have hcolon : 0x20 ≤ ':'.toNat ∧ ':'.toNat < 0x7F := by decide
  simp only [clock, Text.visible_append, Text.visible_cons, Text.visible_padded, hcolon, and_self]

theorem Fields.Fit.visible_write (h : f.Fit) (form : Form) : (form.write f).Visible := by
  obtain ⟨hshort, hlong⟩ := visible_weekday h.weekday
  have hmonth : f.monthName.Visible := visible_month h.month
  have hclock := f.visible_clock
  have hzone : Text.Visible " GMT".toList := by decide
  have hspace : 0x20 ≤ ' '.toNat ∧ ' '.toNat < 0x7F := by decide
  have hcomma : 0x20 ≤ ','.toNat ∧ ','.toNat < 0x7F := by decide
  have hhyphen : 0x20 ≤ '-'.toNat ∧ '-'.toNat < 0x7F := by decide
  have hday :
      Text.Visible (if f.day < 10 then ' ' :: Text.padded 1 f.day else Text.padded 2 f.day) := by
    split
    · exact Text.visible_cons.mpr ⟨hspace, Text.visible_padded 1 f.day⟩
    · exact Text.visible_padded 2 f.day
  cases form
  all_goals
    simp only [Form.write, Text.visible_append, Text.visible_cons, Text.visible_padded, hshort,
      hlong, hmonth, hclock, hzone, hspace, hcomma, hhyphen, hday, and_self]

end HttpDate

/-! ## Whole seconds -/

namespace Instant
variable {i : Instant}

/-- Nanoseconds since 1970. -/
def total (i : Instant) : Int := 1000000000 * i.seconds + i.nanos

theorem total_ediv (h : i.nanos < 1000000000) : i.total / 1000000000 = i.seconds := by
  unfold total
  omega

end Instant

/-- The client's copy is good enough. -/
structure Response.NotModified (a : Response) : Prop where
  status : a.status = 304
  body : a.body = .empty

/-- The whole page is sent. -/
structure Response.Sends (a : Response) (html : Text) : Prop where
  status : a.status = 200
  body : a.body.bytes = Utf8.encode html

namespace Page
variable {hs : Headers} {html : Text} {m t : Instant} {s : Int}

/-- The client has a copy from some second, written as pages write it. -/
def CopyOf (hs : Headers) (s : Int) : Prop :=
  hs.get? "if-modified-since".toList = some (Utf8.encode (HttpDate.write s))

theorem readable?_write (h : HttpDate.FourDigit s) :
    HeaderValue.readable? (Utf8.encode (HttpDate.write s)) = some (HttpDate.write s) := by
  rw [HttpDate.write_eq h]
  exact HeaderValue.readable?_encode ((HttpDate.Fields.names_ofSeconds h).fit.visible_write .fixed)

theorem isCurrent_of_copyOf (h : CopyOf hs s) (hs' : HttpDate.FourDigit s) :
    isCurrent hs m = decide (m.seconds ≤ s) := by
  rw [isCurrent, Headers.text?, h, Option.bind_some, readable?_write hs', Option.bind_some,
    MailDate.parse?_httpDate hs', Option.any_some]

/-- The calendar of pages reaches from one year to another. -/
theorem reaches_iff : reaches s = true ↔
    -262143 ≤ (CivilTime.ofSeconds s).date.year ∧ (CivilTime.ofSeconds s).date.year ≤ 262142 := by
  have hlow : -262143 ≤ (CivilTime.ofSeconds s).date.year ↔ -8334601228800 ≤ s :=
    CivilTime.le_year_iff
  have hhigh : 262143 ≤ (CivilTime.ofSeconds s).date.year ↔ 8210266876800 ≤ s :=
    CivilTime.le_year_iff
  rw [reaches, Bool.and_eq_true, decide_eq_true_eq, decide_eq_true_eq]
  omega

theorem reaches_of_fourDigit (h : HttpDate.FourDigit s) : reaches s = true := by
  have hnonneg := h.nonneg
  have hle := h.le
  rw [reaches_iff]
  omega

theorem respond_of_reaches (hm : reaches m.seconds = true) : respond hs html m =
    if isCurrent hs m then .bare 304 [lastModified m]
    else .make 200 [contentType, lastModified m] (Utf8.encode html) := by
  rw [respond, hm]
  rfl

section
variable (hm : reaches m.seconds = true)
include hm

theorem notModified_iff (h : CopyOf hs s) (hs' : HttpDate.FourDigit s) :
    (respond hs html m).NotModified ↔ m.seconds ≤ s := by
  rw [respond_of_reaches hm, isCurrent_of_copyOf h hs']
  by_cases hle : m.seconds ≤ s
  · rw [if_pos (decide_eq_true hle)]
    exact iff_of_true ⟨rfl, rfl⟩ hle
  · rw [if_neg (by simpa using hle)]
    exact iff_of_false (fun hn => absurd hn.status (show ¬ (200 : Nat) = 304 by decide)) hle

theorem sends_iff (h : CopyOf hs s) (hs' : HttpDate.FourDigit s) :
    (respond hs html m).Sends html ↔ s < m.seconds := by
  rw [respond_of_reaches hm, isCurrent_of_copyOf h hs']
  by_cases hle : m.seconds ≤ s
  · rw [if_pos (decide_eq_true hle)]
    exact iff_of_false (fun hn => absurd hn.status (show ¬ (304 : Nat) = 200 by decide))
      (Int.not_lt.mpr hle)
  · rw [if_neg (by simpa using hle)]
    exact iff_of_true ⟨rfl, Body.bytes_full _⟩ (Int.not_le.mp hle)

theorem values_lastModified : (respond hs html m).headers.values "last-modified".toList =
    [Utf8.encode (HttpDate.write m.seconds)] := by
  rw [respond_of_reaches hm]
  split <;> rfl

end

/-- A page is not sent again if the second of its change is not after the client's date; its own
date names that second, so that it is not sent again for that date, but for any second before. -/
theorem respond_revalidated (hm : m.nanos < 1000000000) (ht : t.nanos < 1000000000)
    (hm' : HttpDate.FourDigit m.seconds) (ht' : HttpDate.FourDigit t.seconds)
    (h : CopyOf hs t.seconds) :
    ((respond hs html m).NotModified ↔ 1000000000 * (m.total / 1000000000) ≤ t.total) ∧
    ((respond hs html m).Sends html ↔ t.total < 1000000000 * (m.total / 1000000000)) ∧
    ∃ v date, (respond hs html m).headers.values "last-modified".toList = [v] ∧
      HeaderValue.readable? v = some date ∧
      MailDate.parse? date = some (m.total / 1000000000) ∧
      (∀ hs' html', hs'.get? "if-modified-since".toList = some v →
        (respond hs' html' m).NotModified) ∧
      ∀ hs' html' s, s < m.total / 1000000000 → HttpDate.FourDigit s → CopyOf hs' s →
        (respond hs' html' m).Sends html' := by
  have hfloor : 1000000000 * m.seconds ≤ t.total ↔ m.seconds ≤ t.seconds := by
    unfold Instant.total
    omega
  have hreach := reaches_of_fourDigit hm'
  rw [Instant.total_ediv hm]
  refine ⟨?_, ?_, _, _, values_lastModified hreach, readable?_write hm',
    MailDate.parse?_httpDate hm', ?_, ?_⟩
  · rw [notModified_iff hreach h ht', hfloor]
  · rw [sends_iff hreach h ht', ← Int.not_le, ← Int.not_le, hfloor]
  · intro hs' html' hv
    exact (notModified_iff hreach hv hm').mpr le_rfl
  · intro hs' html' s hlt hs hc
    exact (sends_iff hreach hc hs).mpr hlt

/-- A change half a second before 1970 belongs to the last second of 1969. -/
theorem respond_revalidated_before :
    let m : Instant := ⟨-1, 500000000⟩
    let hs (s : Int) : Headers := [("if-modified-since".toList, Utf8.encode (HttpDate.write s))]
    m.total = -500000000 ∧ HttpDate.write (-1) = "Wed, 31 Dec 1969 23:59:59 GMT".toList ∧
      HttpDate.FourDigit (-1) ∧ HttpDate.FourDigit (-2) ∧ CopyOf (hs (-1)) (-1) ∧
      CopyOf (hs (-2)) (-2) ∧ (respond (hs (-1)) "x".toList m).NotModified ∧
      (respond (hs (-2)) "x".toList m).Sends "x".toList := by
  intro m hs
  have hlast : HttpDate.FourDigit (-1) := HttpDate.fourDigit_iff.mpr (by decide)
  have hbefore : HttpDate.FourDigit (-2) := HttpDate.fourDigit_iff.mpr (by decide)
  have hcopy (s : Int) : CopyOf (hs s) s := rfl
  have hsame := @respond_revalidated (hs (-1)) "x".toList m ⟨-1, 0⟩ (by decide) (by decide)
    hlast hlast (hcopy (-1))
  have hearlier := @respond_revalidated (hs (-2)) "x".toList m ⟨-2, 999999999⟩ (by decide)
    (by decide) hlast hbefore (hcopy (-2))
  exact ⟨by decide, by rfl, hlast, hbefore, hcopy _, hcopy _, hsame.1.mpr (by decide),
    hearlier.2.1.mpr (by decide)⟩

end Page

end SiteGateway
