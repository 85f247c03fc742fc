import SiteGateway.Proofs.Site.Boundary
import SiteGateway.Proofs.Site.Freshness
import SiteGateway.Proofs.Site.StaticFile

/-!
# One date, two readers

A Markdown file is answered with the page it describes or, where Markdown is off, as it is. Both
ways a client may send back the date of its copy, but the pages read mail dates and the files the
three forms of a header date. `Stage.conditional_agree_iff` says for which dates the two agree.
-/

namespace SiteGateway

open HttpDate (Fields Form)
open Percent (spelled)
open FileTree (steps)

/-- The date that a request sends back is a value of the form. -/
def Request.Sends (r : Request) (form : Form) (f : Fields) : Prop :=
  r.headers.get? "if-modified-since".toList = some (Utf8.encode (form.write f))

variable {r : Request} {form : Form} {fields : Fields} {t : Int} {m : Instant}

theorem Request.Sends.text?_eq (h : r.Sends form fields) (hn : fields.Names t) :
    r.headers.text? "if-modified-since".toList = some (form.write fields) := by
  rw [Headers.text?, h, Option.bind_some, HeaderValue.readable?_encode (hn.fit.visible_write form)]

/-! ## Pages -/

theorem Page.status_respond (html : Text) (hs : Headers) : (Page.respond hs html m).status = 304 ↔
    Page.reaches m.seconds = true ∧ Page.isCurrent hs m = true := by
  unfold Page.respond
  cases Page.reaches m.seconds with
  | false => exact iff_of_false (show ¬ (502 : Nat) = 304 by decide) fun h => Bool.false_ne_true h.1
  | true =>
    simp only [Bool.not_true, Bool.false_eq_true, if_false, true_and]
    split
    next h => exact iff_of_true rfl h
    next h => exact iff_of_false (show ¬ (200 : Nat) = 304 by decide) h

theorem Page.isCurrent_iff (h : r.Sends form fields) (hn : fields.Names t) :
    Page.isCurrent r.headers m = true ↔ form = .fixed ∧ m.seconds ≤ t := by
  rw [Page.isCurrent, h.text?_eq hn, Option.bind_some]
  by_cases hform : form = .fixed
  · rw [hform, MailDate.parse?_fixed hn]
    simp
  · rw [MailDate.parse?_of_ne_fixed hn.fit hform]
    simp [hform]

/-- A change that is not after a date lies where the calendar of pages reaches. -/
theorem Page.status_respond_of_sends (html : Text) (h : r.Sends form fields) (hn : fields.Names t)
    (hm : 0 ≤ m.seconds) :
    (Page.respond r.headers html m).status = 304 ↔ form = .fixed ∧ m.seconds ≤ t := by
  rw [Page.status_respond, Page.isCurrent_iff h hn]
  refine and_iff_right_of_imp fun hle => Page.reaches_of_fourDigit (HttpDate.fourDigit_iff.mpr ?_)
  have hlt := hn.lt
  omega

/-! ## Files -/

namespace StaticFile
variable {s : Site} {f bytes : Bytes}

theorem date?_modified (h : r.Sends form fields) (hn : fields.Names t)
    (hc : form.Covers fields.year) (hm : 0 ≤ m.seconds) :
    (date? r "if-modified-since").any (m.seconds ≤ ·) = true ↔
      fields.second < 60 ∧ m.seconds ≤ t := by
  rw [date?, h.text?_eq hn, Option.bind_some, hn.fit.parse?_write hc, hn.toSeconds?_eq]
  by_cases hyear : 1970 ≤ fields.year
  · by_cases hsecond : fields.second < 60
    · simp [hyear, hsecond]
    · simp [hsecond]
  · have hneg := hn.neg_of_year hyear
    have hlt : ¬ m.seconds ≤ t := by omega
    simp [hyear, hlt]

theorem status_content (mediaType : String) : (content r mediaType bytes m).status ≠ 304 := by
  have h200 : (200 : Nat) ≠ 304 := by decide
  have h206 : (206 : Nat) ≠ 304 := by decide
  have h416 : (416 : Nat) ≠ 304 := by decide
  unfold content
  dsimp only
  split
  · exact h200
  · split
    · exact h416
    · exact h206
    · exact h416

/-- A change that is not after a date of a header lies where header dates reach. -/
theorem reaches_of_date? {name : String} (h : (date? r name).any (m.seconds ≤ ·) = true)
    (hm : 0 ≤ m.seconds) : HttpDate.reaches m.seconds = true := by
  obtain ⟨t, ht, hle⟩ := (Option.any_eq_true _ _).mp h
  obtain ⟨v, -, hv⟩ := Option.bind_eq_some_iff.mp ht
  have hreach := HttpDate.reaches_of_parse? hv
  simp only [HttpDate.reaches, Bool.and_eq_true, decide_eq_true_eq] at hreach hle ⊢
  omega

theorem status_serve (h : s.tree.read s.base f = .ok (bytes, m)) (hm : 0 ≤ m.seconds) :
    (serve s f r).status = 304 ↔
      allows r = true ∧ (date? r "if-unmodified-since").any (· < m.seconds) = false ∧
        (date? r "if-modified-since").any (m.seconds ≤ ·) = true := by
  by_cases ha : allows r = true
  · rw [and_iff_right ha]
    cases hreach : HttpDate.reaches m.seconds with
    | false =>
      rw [serve_of_not_reaches ha h hreach]
      refine iff_of_false (show ¬ (502 : Nat) = 304 by decide) fun hn => ?_
      rw [reaches_of_date? hn.2 hm] at hreach
      cases hreach
    | true =>
      rw [serve_of_reaches ha h hreach, precondition?]
      split
      next hu =>
        refine iff_of_false (show ¬ (412 : Nat) = 304 by decide) fun hn => ?_
        rw [hn.1] at hu
        cases hu
      next hu =>
        rw [Bool.not_eq_true] at hu
        split
        next hi => exact iff_of_true rfl ⟨hu, hi⟩
        next hi => exact iff_of_false (status_content _) fun hn => hi hn.2
  · refine iff_of_false ?_ fun hn => ha hn.1
    rw [serve, Bool.eq_false_iff.mpr ha]
    exact (by decide : ¬ (405 : Nat) = 304)

end StaticFile

/-! ## Requests for a Markdown file -/

namespace Site
variable {s : Site} {f bytes : Bytes}

theorem ofPath?_of_steps {n : FileName} {path : Bytes} (h : (steps path).getLast? = some n) :
    FileName.ofPath? path = if n = [0x2E, 0x2E] then none else some n := by
  have hlast : ((FileTree.names path).filter fun n => n ≠ [] ∧ n ≠ [0x2E]).getLast? = some n := h
  rw [FileName.ofPath?, hlast]

theorem not_isSuffixOf_index (hf : s.resolve? r.path = some f) (hmd : isMarkdownPath f = true) :
    "/index.html".toList.isSuffixOf r.path = false := by
  rw [Bool.eq_false_iff]
  intro hsuffix
  obtain ⟨q, hq⟩ := List.isSuffixOf_iff_suffix.mp hsuffix
  have hsteps := (SiteRoot.steps_of_resolve? hf).1
  have hlast : (steps f).getLast? = some indexName := by
    rw [hsteps, ← hq]
    change (_ ++ steps (spelled (q ++ '/' :: "index.html".toList))).getLast? = _
    have hindex : steps (spelled "index.html".toList) = [indexName] := by rfl
    rw [Percent.spelled_append_slash, FileTree.steps_append_slash, hindex, ← List.append_assoc,
      List.getLast?_concat]
  rw [isMarkdownPath, ofPath?_of_steps hlast] at hmd
  exact absurd hmd (by decide)

/-- Nothing keeps the static files from the date of a request: neither its method, nor an older
condition that fails, nor a path that goes on with a slash where its own slashes end. -/
structure ComesToDate (r : Request) (m : Instant) : Prop where
  allows : StaticFile.allows r = true
  unmodified : (StaticFile.date? r "if-unmodified-since").any (· < m.seconds) = false
  path : ∀ decoded, SiteRoot.decode? (r.path.dropWhile (· == '/')) = some decoded →
    decoded.head? ≠ some '/'

theorem serveBelow_of_read (hf : s.resolve? r.path = some f)
    (hread : s.tree.read s.base f = .ok (bytes, m)) (hm : 0 ≤ m.seconds) :
    (s.serveBelow r).status = 304 ↔
      ComesToDate r m ∧ (StaticFile.date? r "if-modified-since").any (m.seconds ≤ ·) = true := by
  have hdirectory : s.isDirectory f = false := FileTree.isDirectory_of_read hread
  obtain ⟨decoded, hdecoded⟩ := exists_decode?_of_resolve? hf
  have hiff := slashAfterSlashes_iff hdecoded
  rw [serveBelow_of_resolve? hf, hdirectory]
  by_cases ha : StaticFile.allows r = true
  · by_cases hslash : SlashAfterSlashes r.path
    · simp only [ha, hslash, Bool.not_true, Bool.false_eq_true, if_false, if_true]
      refine iff_of_false (show ¬ (404 : Nat) = 304 by decide) fun hn => ?_
      exact hn.1.path decoded hdecoded (hiff.mp hslash)
    · simp only [ha, hslash, Bool.not_true, Bool.false_eq_true, if_false]
      rw [StaticFile.status_serve hread hm]
      constructor
      · rintro ⟨-, hu, hi⟩
        refine ⟨⟨ha, hu, fun d hd hhead => hslash (hiff.mpr ?_)⟩, hi⟩
        rwa [Option.some.inj (hdecoded.symm.trans hd)]
      · rintro ⟨hn, hi⟩
        exact ⟨ha, hn.unmodified, hi⟩
  · rw [Bool.not_eq_true] at ha
    simp only [ha, Bool.not_false, if_true]
    refine iff_of_false (show ¬ (405 : Nat) = 304 by decide) fun hn => ?_
    rw [hn.1.allows] at ha
    cases ha

section
variable (hf : s.resolve? r.path = some f) (hread : s.tree.read s.base f = .ok (bytes, m))
  (hmd : isMarkdownPath f = true) (hslash : asksDirectory r.path = false)
include hf hread hmd hslash

theorem status_serveStatic (hm : 0 ≤ m.seconds) : (s.serveStatic r).status = 304 ↔
    ComesToDate r m ∧ (StaticFile.date? r "if-modified-since").any (m.seconds ≤ ·) = true := by
  rw [serveStatic, hf]
  simp only [not_isSuffixOf_index hf hmd, hslash, Bool.false_and, Bool.false_eq_true, if_false]
  exact serveBelow_of_read hf hread hm

theorem runMarkdown_of_read (dis docs : Bool) : Stage.runMarkdown s dis docs r =
    .answer (Page.respond r.headers
      (Html.document (titleOfPath f) (Markdown.toHtml (Utf8.decodeLossy bytes))) m) := by
  have hdirectory : s.isDirectory f = false := FileTree.isDirectory_of_read hread
  have hfile : s.isFile f = true := FileTree.isFile_of_read hread
  rw [Stage.runMarkdown, hf]
  simp only [hdirectory, hfile, hslash, hmd, Bool.false_eq_true, if_false, Bool.not_false,
    Bool.and_self, if_true, document?, hread]
  rfl

end

end Site

/-! ## Agreement -/

namespace Stage
variable {w : World} {f bytes : Bytes}

/-- A page is not sent again for a date in the fixed form only, a file for a date in each form,
where it comes to the date; so for dates not before the change the two agree where both or neither
do so. A second too many in its minute is read in pages only. -/
theorem conditional_agree_iff (hf : w.site.resolve? r.path = some f)
    (hread : w.site.tree.read w.site.base f = .ok (bytes, m)) (hmd : isMarkdownPath f = true)
    (hslash : Site.asksDirectory r.path = false) (hm : 0 ≤ m.seconds) (hn : fields.Names t)
    (hc : form.Covers fields.year) (h : r.Sends form fields) (dis docs : Bool) :
    ∃ page, (Stage.markdown dis docs).run w r = .answer page ∧
      (page.status = 304 ↔ form = .fixed ∧ m.seconds ≤ t) ∧
      ((w.site.serveStatic r).status = 304 ↔
        Site.ComesToDate r m ∧ fields.second < 60 ∧ m.seconds ≤ t) ∧
      ((page.status = 304 ↔ (w.site.serveStatic r).status = 304) ↔
        (m.seconds ≤ t → (form = .fixed ↔ Site.ComesToDate r m ∧ fields.second < 60))) := by
  have hpage := Page.status_respond_of_sends (Html.document (titleOfPath f)
    (Markdown.toHtml (Utf8.decodeLossy bytes))) h hn hm
  have hstatic := (Site.status_serveStatic hf hread hmd hslash hm).trans
    (and_congr_right fun _ => StaticFile.date?_modified h hn hc hm)
  refine ⟨_, Site.runMarkdown_of_read hf hread hmd hslash dis docs, hpage, hstatic, ?_⟩
  rw [hpage, hstatic]
  by_cases hle : m.seconds ≤ t
  · simp only [hle, and_true, true_implies]
  · simp only [hle, and_false, false_implies]

/-- A guide that was changed at a second. -/
def guideWorld : World where
  site :=
    { tree := ⟨[([Utf8.encode "srv".toList], .directory),
        ([Utf8.encode "srv".toList, Utf8.encode "guide.md".toList],
          .file (Utf8.encode "# x".toList) ⟨1000000000, 0⟩)]⟩
      base := []
      root := Utf8.encode "/srv".toList }
  network := .offline
  takeover := true

/-- A request for the guide that sends the same second back. -/
def guideRequest (form : Form) : Request :=
  { Request.get "/guide.md" with headers :=
      [("if-modified-since".toList, Utf8.encode (form.write (.ofSeconds 1000000000)))] }

theorem names_guide : (Fields.ofSeconds 1000000000).Names 1000000000 :=
  Fields.names_ofSeconds (HttpDate.fourDigit_iff.mpr (by decide))

theorem comesToDate_guide (form : Form) :
    Site.ComesToDate (guideRequest form) ⟨1000000000, 0⟩ where
  allows := rfl
  unmodified := rfl
  path := by
    have hdecode : SiteRoot.decode? ("/guide.md".toList.dropWhile (· == '/')) =
        some "guide.md".toList := by rfl
    intro decoded hd
    obtain rfl := Option.some.inj (hdecode.symm.trans hd)
    decide

/-- In the fixed form the second of the change is good enough for both. -/
theorem conditional_agree_fixed :
    let r := guideRequest .fixed
    let f := Utf8.encode "/srv/guide.md".toList
    Form.fixed.write (.ofSeconds 1000000000) = "Sun, 09 Sep 2001 01:46:40 GMT".toList ∧
      guideWorld.site.resolve? r.path = some f ∧
      guideWorld.site.tree.read guideWorld.site.base f =
        .ok (Utf8.encode "# x".toList, ⟨1000000000, 0⟩) ∧
      isMarkdownPath f = true ∧ Site.asksDirectory r.path = false ∧
      (Fields.ofSeconds 1000000000).Names 1000000000 ∧
      Form.fixed.Covers (Fields.ofSeconds 1000000000).year ∧
      r.Sends .fixed (.ofSeconds 1000000000) ∧
      ∃ page, (Stage.markdown false true).run guideWorld r = .answer page ∧ page.status = 304 ∧
        (guideWorld.site.serveStatic r).status = 304 := by
  intro r f
  have hf : guideWorld.site.resolve? r.path = some f := by rfl
  have hread : guideWorld.site.tree.read guideWorld.site.base f =
      .ok (Utf8.encode "# x".toList, ⟨1000000000, 0⟩) := by rfl
  have hmd : isMarkdownPath f = true := by rfl
  have hslash : Site.asksDirectory r.path = false := by decide
  have hc : Form.fixed.Covers (Fields.ofSeconds 1000000000).year := by rintro ⟨⟩
  have hs : r.Sends .fixed (.ofSeconds 1000000000) := rfl
  obtain ⟨page, hpage, hpage', hstatic, -⟩ := conditional_agree_iff hf hread hmd hslash (by decide)
    names_guide hc hs false true
  exact ⟨by rfl, hf, hread, hmd, hslash, names_guide, hc, hs, page, hpage,
    hpage'.mpr ⟨rfl, le_rfl⟩, hstatic.mpr ⟨comesToDate_guide .fixed, by decide, le_rfl⟩⟩

/-- With the year at its end the same second is good enough for the file and not for its page. -/
theorem not_forall_conditional_agree :
    Form.yearLast.write (.ofSeconds 1000000000) = "Sun Sep  9 01:46:40 2001".toList ∧
    ¬ ∀ (w : World) (r : Request) (f bytes : Bytes) (m : Instant) (form : Form) (fields : Fields)
      (t : Int), w.site.resolve? r.path = some f →
        w.site.tree.read w.site.base f = .ok (bytes, m) → isMarkdownPath f = true →
        Site.asksDirectory r.path = false → 0 ≤ m.seconds → fields.Names t →
        form.Covers fields.year → fields.second < 60 → r.Sends form fields →
        Site.ComesToDate r m → ∃ page, (Stage.markdown false true).run w r = .answer page ∧
          (page.status = 304 ↔ (w.site.serveStatic r).status = 304) := by
  refine ⟨by rfl, fun hall => ?_⟩
  have hf : guideWorld.site.resolve? (guideRequest .yearLast).path =
      some (Utf8.encode "/srv/guide.md".toList) := by rfl
  have hread : guideWorld.site.tree.read guideWorld.site.base (Utf8.encode "/srv/guide.md".toList) =
      .ok (Utf8.encode "# x".toList, ⟨1000000000, 0⟩) := by rfl
  have hmd : isMarkdownPath (Utf8.encode "/srv/guide.md".toList) = true := by rfl
  have hslash : Site.asksDirectory (guideRequest .yearLast).path = false := by decide
  have hc : Form.yearLast.Covers (Fields.ofSeconds 1000000000).year := by rintro ⟨⟩
  have hs : (guideRequest .yearLast).Sends .yearLast (.ofSeconds 1000000000) := rfl
  have hcome := comesToDate_guide .yearLast
  obtain ⟨page, hpage, hagree⟩ := hall guideWorld _ _ _ _ _ _ _ hf hread hmd hslash (by decide)
    names_guide hc (by decide) hs hcome
  have hdate := (StaticFile.date?_modified (m := ⟨1000000000, 0⟩) hs names_guide hc (by decide)).mpr
    ⟨by decide, le_rfl⟩
  have hstatic := (Site.status_serveStatic hf hread hmd hslash (by decide)).mpr ⟨hcome, hdate⟩
  have hrun := Site.runMarkdown_of_read hf hread hmd hslash false true
  have hsame := congrArg Answer.response (Outcome.handled.inj (hpage.symm.trans hrun))
  dsimp only at hsame
  rw [hsame, Page.status_respond_of_sends _ hs names_guide (by decide)] at hagree
  cases (hagree.mpr hstatic).1

end Stage

end SiteGateway
