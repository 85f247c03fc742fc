import SiteGateway.Proofs.Site.Boundary
import SiteGateway.Proofs.Site.InitialFile
import SiteGateway.Proofs.Site.ListingBan

/-!
# Index pages

The Markdown stage leaves a directory with an index page, `index.html` or `index.htm`, to the static
files, which know `index.html` only. `Dispatch.answer_of_hasIndex` follows such a request to its
answer, and `Dispatch.servesIndex_iff` says when that is the index page: when `index.html` can be
read and was changed at a time with a date, and no escaped slash follows the slashes that the path
starts with. Any other index page is passed over for a listing, and a path with such a slash is not
found.
-/

namespace SiteGateway

open Percent (spelled)

namespace Site
variable {s : Site} {r : Request} {p : Text} {f : Bytes} {n : FileName}

/-- The index page of a directory, `index.html` first. -/
def indexPage? (s : Site) (f : Bytes) : Option FileName :=
  indexNames.find? fun n => s.isFile (child f n)

theorem indexPage?_of_isFile (h : s.isFile (child f indexName) = true) :
    s.indexPage? f = some indexName :=
  List.find?_cons_of_pos h

theorem runMarkdown_of_hasIndex (hd : s.directory? r.path = some f) (hi : s.hasIndex f = true)
    (dis docs : Bool) : Stage.runMarkdown s dis docs r = .passed r := by
  obtain ⟨hf, -, hdir⟩ := directory?_eq_some_iff.mp hd
  rw [Stage.runMarkdown, hf]
  simp only [hdir, hi, Bool.or_true, if_true]

/-- The static files answer for a directory with its listing or with `index.html`. -/
theorem serveStatic_of_directory? (hd : s.directory? r.path = some f)
    (hget : StaticFile.allows r = true) :
    s.serveStatic r =
      if s.isFile (child f indexName) = false then (s.list f r.path).toOption.getD .notFound
      else if SlashAfterSlashes r.path then .bare 404 []
      else StaticFile.serve s (child f indexName) r := by
  obtain ⟨hf, hslash, hdir⟩ := directory?_eq_some_iff.mp hd
  rw [serveStatic, hf]
  simp only [not_isSuffixOf_of_asksDirectory hslash, hslash, hdir, Bool.false_eq_true, if_false,
    Bool.and_self, Bool.true_and, serveBelow_of_resolve? hf, hget, Bool.not_true, if_true]
  cases s.isFile (child f indexName) with
  | true => rfl
  | false =>
    simp only [Bool.not_false, if_true]
    cases s.list f r.path <;> rfl

end Site

theorem StaticFile.serve_ne_list {s : Site} {r q : Request} {f path bytes : Bytes} {m : Instant}
    {page : Response} (ha : allows r = true) (hr : r.AsksForAll)
    (h : s.tree.read s.base path = .ok (bytes, m)) (hpage : s.list f q.path = .ok page) :
    serve s path r ≠ page := by
  obtain ⟨es, -, hes⟩ := Except.map_eq_ok_iff.mp hpage
  rw [← hes]
  intro heq
  cases hm : HttpDate.reaches m.seconds with
  | true =>
    -- the file is sent in pieces, the listing at once
    have hpieces := (serve_of_read ha hr h hm).2.1
    rw [heq] at hpieces
    cases hpieces
  | false =>
    rw [serve_of_not_reaches ha h hm] at heq
    cases congrArg Response.aborted heq

/-- Stages that pass a request on as it is leave it to the static files. -/
theorem Pipeline.run_of_passed {w : World} {stages : List Stage} {r : Request}
    (h : ∀ stage ∈ stages, stage.run w r = .passed r) :
    run w stages r = ⟨w.site.serveStatic r, []⟩ := by
  induction stages with
  | nil => rfl
  | cons stage stages ih =>
    rw [run, h stage List.mem_cons_self]
    exact ih fun s hs => h s (List.mem_cons_of_mem _ hs)

theorem Pipeline.Lists.of_passed {w : World} {stages : List Stage} {r : Request} {f : Bytes}
    (h : ∀ stage ∈ stages, stage.run w r = .passed r) (hl : w.site.listed? r.path = some f) :
    Lists w stages r f := by
  induction stages with
  | nil => exact .static hl
  | cons stage stages ih =>
    exact .pass (h stage List.mem_cons_self) (ih fun s hs => h s (List.mem_cons_of_mem _ hs))

namespace Dispatch
variable {d : Dispatch} {w : World} {r : Request} {f : Bytes}

/-- A request is answered with the index page of the directory at `f`. -/
def ServesIndex (d : Dispatch) (w : World) (r : Request) (f : Bytes) : Prop :=
  ∃ n content modified, w.site.indexPage? f = some n ∧
    w.site.tree.read w.site.base (Site.child f n) = .ok (content, modified) ∧
    d.answer w r = ⟨StaticFile.serve w.site (Site.child f n) (d.rewritten r), []⟩ ∧
    (d.answer w r).response.status = 200 ∧ (d.answer w r).response.body.bytes = content

section
variable (hb : d.browse = false) (hm : d.markdown = true) (hget : r.isMethod "GET" = true)
  (hall : r.AsksForAll) (hd : w.site.directory? (d.rewritten r).path = some f)
  (hi : w.site.hasIndex f = true)
  (hr : d.routes.find? (SiteRoot.display (d.rewritten r).path) = none)

include hm hd hi hr in
theorem passed_of_mem_later : ∀ stage ∈ d.later, stage.run w (d.rewritten r) =
    .passed (d.rewritten r) := by
  intro stage hs
  rw [later, hm, if_pos rfl, List.singleton_append, List.mem_cons] at hs
  rcases hs with rfl | hs
  · exact Site.runMarkdown_of_hasIndex hd hi _ _
  · split at hs
    · cases hs
    · obtain rfl := List.mem_singleton.mp hs
      rw [Stage.run, Stage.runProxy_eq, hr]

include hb hm hd hi hr

/-- A directory with an index page is left to the static files. -/
theorem answer_of_hasIndex : d.answer w r = ⟨w.site.serveStatic (d.rewritten r), []⟩ := by
  rw [answer_eq_run, policies, hb, if_neg Bool.false_ne_true, List.nil_append]
  exact Pipeline.run_of_passed (passed_of_mem_later hm hd hi hr)

theorem lists_of_hasIndex (h : w.site.isFile (Site.child f Site.indexName) = false) :
    d.Lists w r f := by
  rw [lists_iff_later hb]
  exact .of_passed (passed_of_mem_later hm hd hi hr) (Site.listed?_eq_some_iff.mpr ⟨hd, h⟩)

include hget hall

/-- The index page of a directory is served where it is an `index.html` that can be read, a header
date names its last change, and the path does not go on with an escaped slash where its own slashes
in front end. Another index page gives way to a listing; the slash makes the path lead nowhere. -/
theorem servesIndex_iff :
    (d.ServesIndex w r f ↔
      (∃ content modified,
        w.site.tree.read w.site.base (Site.child f Site.indexName) = .ok (content, modified) ∧
          HttpDate.reaches modified.seconds = true) ∧
        ¬ Site.SlashAfterSlashes (d.rewritten r).path) ∧
    (w.site.isFile (Site.child f Site.indexName) = false → d.Lists w r f) ∧
    (w.site.isFile (Site.child f Site.indexName) = true →
      Site.SlashAfterSlashes (d.rewritten r).path → d.answer w r = ⟨.bare 404 [], []⟩) := by
  have hallows : StaticFile.allows (d.rewritten r) = true := allows_rewritten hget
  have hall' : (d.rewritten r).AsksForAll := by
    rw [Request.AsksForAll, headers_rewritten]
    exact hall
  have hanswer := answer_of_hasIndex hb hm hd hi hr
  rw [Site.serveStatic_of_directory? hd hallows] at hanswer
  refine ⟨?_, fun hx => lists_of_hasIndex hb hm hd hi hr hx, fun hx hslash => ?_⟩
  · constructor
    · rintro ⟨n, content, modified, hn, hread, hserve, hstatus, -⟩
      cases hx : w.site.isFile (Site.child f Site.indexName) with
      | false =>
        -- the index page is another one, and what is sent is a listing
        obtain ⟨-, -, hdir⟩ := Site.directory?_eq_some_iff.mp hd
        obtain ⟨page, hpage⟩ := Site.list_of_isDirectory hdir (d.rewritten r).path
        rw [hx, if_pos rfl, hpage, hserve] at hanswer
        exact absurd (congrArg Answer.response hanswer)
          (StaticFile.serve_ne_list hallows hall' hread hpage)
      | true =>
        obtain rfl := Option.some.inj (hn.symm.trans (Site.indexPage?_of_isFile hx))
        refine ⟨⟨_, _, hread, ?_⟩, fun hslash => ?_⟩
        · rw [← Bool.not_eq_false]
          intro hm
          rw [hserve, StaticFile.serve_of_not_reaches hallows hread hm] at hstatus
          exact absurd hstatus (by decide)
        · rw [hanswer, hx, if_neg Bool.noConfusion, if_pos hslash] at hstatus
          exact absurd hstatus (by decide)
    · rintro ⟨⟨content, modified, hread, hm⟩, hslash⟩
      have hx : w.site.isFile (Site.child f Site.indexName) = true := FileTree.isFile_of_read hread
      rw [hx, if_neg Bool.noConfusion, if_neg hslash] at hanswer
      obtain ⟨hstatus, -, hbody⟩ := StaticFile.serve_of_read hallows hall' hread hm
      refine ⟨_, content, modified, Site.indexPage?_of_isFile hx, hread, hanswer, ?_, ?_⟩
      · rw [hanswer, hstatus]
      · rw [hanswer, hbody]
  · rw [hanswer, hx, if_neg Bool.noConfusion, if_pos hslash]

end

/-- Markdown, and nothing else. -/
def rendering : Dispatch :=
  { guide with disableListing := false, initialFile := none, routes := .empty }

/-- Of two index pages it is `index.html` that is served. -/
theorem servesIndex_docs :
    let files := [(["docs", "index.html"], "x"), (["docs", "index.htm"], "y")]
    let w : World := ⟨.ofTexts files, .offline, true⟩
    let r := Request.get "/docs/"
    let f := Utf8.encode "/srv/docs".toList
    rendering.browse = false ∧ rendering.markdown = true ∧ r.isMethod "GET" = true ∧ r.AsksForAll ∧
      w.site.directory? (rendering.rewritten r).path = some f ∧ w.site.hasIndex f = true ∧
      rendering.routes.find? (SiteRoot.display (rendering.rewritten r).path) = none ∧
      rendering.ServesIndex w r f := by
  intro files w r f
  have hd : w.site.directory? (rendering.rewritten r).path = some f := by decide +kernel
  have hi : w.site.hasIndex f = true := by rfl
  have hread : w.site.tree.read w.site.base (Site.child f Site.indexName) =
      .ok (Utf8.encode "x".toList, ⟨0, 0⟩) := Except.toOption_eq_some_iff.mp (by rfl)
  exact ⟨rfl, rfl, rfl, Request.asksForAll_get _, hd, hi, rfl,
    (servesIndex_iff rfl rfl rfl (Request.asksForAll_get _) hd hi rfl).1.mpr
      ⟨⟨_, _, hread, by decide⟩, by decide +kernel⟩⟩

/-- An index page other than `index.html` is not served. -/
theorem not_forall_servesIndex :
    ¬ ∀ (d : Dispatch) (w : World) (r : Request) (f : Bytes), d.browse = false →
      d.markdown = true → r.isMethod "GET" = true → r.AsksForAll →
      w.site.directory? (d.rewritten r).path = some f → w.site.hasIndex f = true →
      d.routes.find? (SiteRoot.display (d.rewritten r).path) = none → w.site.Readable →
      d.ServesIndex w r f := by
  intro h
  let w : World := ⟨.ofTexts [(["docs", "index.htm"], "x")], .offline, true⟩
  let f := Utf8.encode "/srv/docs".toList
  have hpage : w.site.indexPage? f = some (Utf8.encode "index.htm".toList) := by rfl
  have hfile : w.site.tree.read w.site.base (Site.child f (Utf8.encode "index.htm".toList)) =
      .ok (Utf8.encode "x".toList, ⟨0, 0⟩) := Except.toOption_eq_some_iff.mp (by rfl)
  obtain ⟨n, content, modified, hn, hread, -, -, hbody⟩ :=
    h rendering w (.get "/docs/") f rfl rfl rfl (Request.asksForAll_get _) (by decide +kernel)
      (by rfl) rfl (Site.readable_ofTexts _)
  obtain rfl := Option.some.inj (hpage.symm.trans hn)
  cases hfile.symm.trans hread
  exact absurd hbody (by decide +kernel)

end Dispatch

end SiteGateway
