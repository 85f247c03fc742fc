import SiteGateway.Proofs.Site.InitialTarget
import SiteGateway.Proofs.Site.Policy
import SiteGateway.Proofs.Site.StaticFile

/-!
# Serving the initial file

Each stage is followed with the request path of the initial file: the guard passes it on, the
Markdown stage shows a Markdown file, and the static files serve any other file but `index.html`,
which they answer with a redirect. `Dispatch.servesInitialFile_iff` says when the file is served.
-/

namespace SiteGateway

open Percent (spelled)
open Settings (ProperName)
open FileTree (Openable pathOf)

namespace Site
variable {s : Site} {r : Request} {name : Text}

/-- The file of a name in the root. -/
def named (s : Site) (name : Text) : Bytes := SiteRoot.join s.root (Utf8.encode name)

theorem serveBelow_target (h : ProperName name) (hb : '\\' ∉ name)
    (hp : r.path = InitialFile.target name) (ha : StaticFile.allows r = true)
    (hd : s.isDirectory (s.named name) = false) :
    s.serveBelow r = StaticFile.serve s (s.named name) r := by
  have hseg := InitialFile.segment_of_properName h hb
  have hdrop : r.path.dropWhile (· == '/') = InitialFile.escaped name := by
    rw [hp, InitialFile.target_of_segment hseg, List.dropWhile_cons_of_pos (by decide)]
    have hslash := InitialFile.slash_notMem_escaped h.noSlash
    cases he : InitialFile.escaped name with
    | nil => rfl
    | cons c e =>
      rw [he] at hslash
      refine List.dropWhile_cons_of_neg fun hc => hslash ?_
      rw [eq_of_beq hc]
      exact List.mem_cons_self
  have hdecode : SiteRoot.decode? (InitialFile.escaped name) = some name := by
    change Utf8.decode? (spelled _) = _
    rw [InitialFile.spelled_escaped_segment, Utf8.decode?_encode]
  have hhead : name.head? ≠ some '/' := fun hh => h.noSlash (List.mem_of_head? hh)
  have hnames : SiteRoot.names name = [name] := by
    have hsplit : Text.split '/' name = [name] :=
      Text.splitBy_of_free fun c hc => beq_eq_false_iff_ne.mpr fun he => h.noSlash (he ▸ hc)
    rw [SiteRoot.names, hsplit]
    simp [h.ne_nil, h.ne_dot]
  have hpath : SiteRoot.joinAll s.root ((SiteRoot.names name).map Utf8.encode) = s.named name := by
    rw [hnames]
    rfl
  rw [serveBelow, ha, hdrop, hdecode]
  simp only [Bool.not_true, Bool.false_eq_true, if_false, hhead, hpath, hd]

theorem resolve?_target (h : ProperName name) (hb : '\\' ∉ name) :
    s.resolve? (InitialFile.target name) = some (s.named name) :=
  (InitialFile.resolve?_target_eq_iff h).mpr hb

/-- The static files serve the file of a name, but never `index.html`. -/
theorem serveStatic_target (h : ProperName name) (hb : '\\' ∉ name)
    (hp : r.path = InitialFile.target name) (ha : StaticFile.allows r = true)
    (hd : s.isDirectory (s.named name) = false) :
    s.serveStatic r =
      if name = "index.html".toList then .bare 301 [Headers.field "location" "./"]
      else StaticFile.serve s (s.named name) r := by
  have hseg := InitialFile.segment_of_properName h hb
  rw [serveStatic, hp, resolve?_target h hb, InitialFile.isSuffixOf_target hseg,
    InitialFile.asksDirectory_target hseg, serveBelow_target h hb hp ha hd]
  simp only [decide_eq_true_eq, Bool.false_and, Bool.false_eq_true, if_false]

theorem ofPath?_named (h : ProperName name) (hroot : s.root ≠ []) :
    FileName.ofPath? (s.named name) = some (Utf8.encode name) := by
  obtain ⟨front, hjoin⟩ := SiteRoot.exists_join hroot
  have h₀ : Utf8.encode name ≠ [] := fun he => h.ne_nil (Utf8.encode_inj.mp he)
  have h₁ : Utf8.encode name ≠ [0x2E] := fun he => h.ne_dot (Utf8.encode_inj.mp he)
  have h₂ : Utf8.encode name ≠ [0x2E, 0x2E] := fun he => h.ne_dots (Utf8.encode_inj.mp he)
  rw [named, hjoin, FileName.ofPath?_append_slash front (Settings.noSlash_encode h.noSlash) h₀ h₁,
    if_neg h₂]

theorem isMarkdownPath_named (h : ProperName name) (hroot : s.root ≠ []) :
    isMarkdownPath (s.named name) = FileName.isMarkdown (Utf8.encode name) := by
  rw [isMarkdownPath, ofPath?_named h hroot, Option.any_some]

theorem titleOfPath_named (h : ProperName name) (hroot : s.root ≠ []) :
    titleOfPath (s.named name) = Utf8.decodeLossy (FileName.stem (Utf8.encode name)) := by
  rw [titleOfPath, ofPath?_named h hroot]
  rfl

end Site

namespace Stage
variable {w : World} {r : Request} {name : Text}

theorem run_directoryGuard_target (h : ProperName name) (hb : '\\' ∉ name)
    (hp : r.path = InitialFile.target name) : run w .directoryGuard r = .passed r := by
  have hseg := InitialFile.segment_of_properName h hb
  simp only [run, hp, InitialFile.asksDirectory_target hseg, Bool.false_eq_true, if_false]

theorem run_markdown_target (h : ProperName name) (hb : '\\' ∉ name)
    (hp : r.path = InitialFile.target name) (hd : w.site.isDirectory (w.site.named name) = false)
    (dis docs : Bool) :
    run w (.markdown dis docs) r =
      if w.site.isFile (w.site.named name) && isMarkdownPath (w.site.named name) then
        .orPass r (w.site.document? r.headers (w.site.named name))
      else .passed r := by
  have hseg := InitialFile.segment_of_properName h hb
  simp only [run, runMarkdown, hp, Site.resolve?_target h hb, hd,
    InitialFile.asksDirectory_target hseg, Bool.false_eq_true, if_false, Bool.not_false,
    Bool.and_true]

end Stage

namespace Dispatch
variable {d : Dispatch} {w : World} {r : Request} {name : Text} {content : Bytes}

/-- What a file shows: a Markdown file its document if Markdown is on, any other file itself. -/
def shown (d : Dispatch) (name : Text) (content : Bytes) : Bytes :=
  if d.markdown && FileName.isMarkdown (Utf8.encode name) then
    Utf8.encode (Html.document (Utf8.decodeLossy (FileName.stem (Utf8.encode name)))
      (Markdown.toHtml (Utf8.decodeLossy content)))
  else content

/-- Whether a file can be shown at all: its last change has a date, as pages or files write it. -/
def reaches (d : Dispatch) (name : Text) (modified : Instant) : Bool :=
  if d.markdown && FileName.isMarkdown (Utf8.encode name) then Page.reaches modified.seconds
  else HttpDate.reaches modified.seconds

/-- A request comes to the file of a name in the root and is answered with what the file shows. -/
structure ServesFile (d : Dispatch) (w : World) (r : Request) (name : Text) (content : Bytes) :
    Prop where
  found : w.site.resolve? (d.rewritten r).path = some (w.site.named name)
  status : (d.answer w r).response.status = 200
  body : (d.answer w r).response.body.bytes = d.shown name content

theorem rewritten_eq (d : Dispatch) (r : Request) :
    ∃ target, d.rewritten r = { r with target := target } := by
  unfold rewritten
  split
  · split
    · exact ⟨_, rfl⟩
    · exact ⟨r.target, rfl⟩
  · exact ⟨r.target, rfl⟩

theorem headers_rewritten (d : Dispatch) (r : Request) : (d.rewritten r).headers = r.headers := by
  obtain ⟨target, htarget⟩ := rewritten_eq d r
  rw [htarget]

theorem allows_rewritten (h : r.isMethod "GET" = true) :
    StaticFile.allows (d.rewritten r) = true := by
  obtain ⟨target, htarget⟩ := rewritten_eq d r
  rw [htarget]
  exact Bool.or_eq_true_iff.mpr (.inl h)

theorem path_rewritten (hb : d.browse = false) (hi : d.initialFile = some name)
    (hp : r.path = ['/']) : (d.rewritten r).path = InitialFile.target name := by
  rw [rewritten, hi]
  simp only [hb, hp, Bool.not_false, Bool.true_and, beq_self_eq_true, if_true]
  rfl

/-- Without routes the initial file is shown by the Markdown stage or by the static files. -/
theorem answer_of_initialFile (hb : d.browse = false) (hr : d.routes.isEmpty = true)
    (hi : d.initialFile = some name) (hp : r.path = ['/']) (h : ProperName name)
    (hslash : '\\' ∉ name) (hd : w.site.isDirectory (w.site.named name) = false) :
    (d.answer w r).response =
      if d.markdown &&
          (w.site.isFile (w.site.named name) && isMarkdownPath (w.site.named name)) then
        (w.site.document? r.headers (w.site.named name)).getD (w.site.serveStatic (d.rewritten r))
      else w.site.serveStatic (d.rewritten r) := by
  have hpath := path_rewritten hb hi hp
  rw [answer_eq_run, policies, later, hb, hr, ← headers_rewritten d r]
  generalize d.rewritten r = q at hpath
  cases d.markdown with
  | false =>
    cases d.disableListing with
    | false => rfl
    | true =>
      change (Pipeline.run w [.directoryGuard] q).response = _
      rw [Pipeline.run, Stage.run_directoryGuard_target h hslash hpath]
      rfl
  | true =>
    change (Pipeline.run w [.markdown d.disableListing true] q).response = _
    rw [Pipeline.run, Stage.run_markdown_target h hslash hpath hd, Bool.true_and]
    cases w.site.isFile (w.site.named name) && isMarkdownPath (w.site.named name) with
    | false => rfl
    | true => cases w.site.document? q.headers (w.site.named name) <;> rfl

section
variable {modified : Instant} (hb : d.browse = false) (hr : d.routes.isEmpty = true)
  (hi : d.initialFile = some name) (hp : r.path = ['/']) (hget : r.isMethod "GET" = true)
  (hname : ProperName name) (hslash : '\\' ∉ name)

include hb hr hi hp hget hname hslash

theorem servesFile_iff_of_read (hall : r.AsksForAll) (hroot : w.site.root ≠ [])
    (hread : w.site.tree.read w.site.base (w.site.named name) = .ok (content, modified)) :
    d.ServesFile w r name content ↔
      name ≠ "index.html".toList ∧ d.reaches name modified = true := by
  have hpath := path_rewritten hb hi hp
  have hd : w.site.isDirectory (w.site.named name) = false := FileTree.isDirectory_of_read hread
  have hf : w.site.isFile (w.site.named name) = true := FileTree.isFile_of_read hread
  have ha : StaticFile.allows (d.rewritten r) = true := allows_rewritten hget
  have hall' : (d.rewritten r).AsksForAll := by
    rw [Request.AsksForAll, headers_rewritten]
    exact hall
  have hanswer := answer_of_initialFile hb hr hi hp hname hslash hd
  rw [hf, Bool.true_and, Site.isMarkdownPath_named hname hroot,
    Site.serveStatic_target hname hslash hpath ha hd] at hanswer
  have hfound : w.site.resolve? (d.rewritten r).path = some (w.site.named name) := by
    rw [hpath]
    exact Site.resolve?_target hname hslash
  have hnot {a : Response} (hanswer : (d.answer w r).response = a) (hstatus : a.status ≠ 200) :
      ¬ d.ServesFile w r name content := fun hserves => hstatus (hanswer ▸ hserves.status)
  cases hm : d.markdown && FileName.isMarkdown (Utf8.encode name) with
  | true =>
    -- the name of the index page is no Markdown
    have hindex : name ≠ "index.html".toList := by
      rintro rfl
      rw [show FileName.isMarkdown (Utf8.encode "index.html".toList) = false by rfl,
        Bool.and_false] at hm
      cases hm
    rw [hm, if_pos rfl] at hanswer
    rw [reaches, hm, if_pos rfl]
    cases hreach : Page.reaches modified.seconds with
    | true =>
      obtain ⟨page, hpage, hstatus, hbody⟩ := Site.document?_of_read hall hread hreach
      rw [hpage, Option.getD_some] at hanswer
      refine iff_of_true ⟨hfound, hanswer ▸ hstatus, ?_⟩ ⟨hindex, rfl⟩
      rw [hanswer, hbody, shown, hm, if_pos rfl, Site.titleOfPath_named hname hroot]
    | false =>
      rw [Site.document?_of_not_reaches hread hreach, Option.getD_some] at hanswer
      exact iff_of_false (hnot hanswer (by decide)) fun h => Bool.false_ne_true h.2
  | false =>
    rw [hm, if_neg Bool.false_ne_true] at hanswer
    rw [reaches, hm, if_neg Bool.false_ne_true]
    by_cases hindex : name = "index.html".toList
    -- the static files redirect from the name of the index page
    · rw [if_pos hindex] at hanswer
      exact iff_of_false (hnot hanswer (by decide)) fun h => h.1 hindex
    rw [if_neg hindex] at hanswer
    cases hreach : HttpDate.reaches modified.seconds with
    | true =>
      obtain ⟨hstatus, -, hbody⟩ := StaticFile.serve_of_read ha hall' hread hreach
      refine iff_of_true ⟨hfound, hanswer ▸ hstatus, ?_⟩ ⟨hindex, rfl⟩
      rw [hanswer, hbody, shown, hm, if_neg Bool.false_ne_true]
    | false =>
      rw [StaticFile.serve_of_not_reaches ha hread hreach] at hanswer
      exact iff_of_false (hnot hanswer (by decide)) fun h => Bool.false_ne_true h.2

theorem not_servesFile_of_kind {e : FileFault}
    (hkind : w.site.tree.kind w.site.base (w.site.named name) = .error e) :
    ¬ d.ServesFile w r name content := by
  have hpath := path_rewritten hb hi hp
  have hd : w.site.isDirectory (w.site.named name) = false := by
    rw [Site.isDirectory, FileTree.isDirectory, hkind]
  have hf : w.site.isFile (w.site.named name) = false := by
    rw [Site.isFile, FileTree.isFile, hkind]
  have hread : w.site.tree.read w.site.base (w.site.named name) = .error e := by
    rw [FileTree.read, hkind]
    rfl
  have ha : StaticFile.allows (d.rewritten r) = true := allows_rewritten hget
  intro hserves
  have hstatus := hserves.status
  rw [answer_of_initialFile hb hr hi hp hname hslash hd, hf, Bool.false_and, Bool.and_false,
    if_neg Bool.false_ne_true, Site.serveStatic_target hname hslash hpath ha hd] at hstatus
  split at hstatus
  · exact absurd hstatus (by decide)
  · exact StaticFile.status_serve_of_error hread hstatus

end

/-- The initial file is served, unless its name holds a backslash, is `index.html`, or makes a path
that the system does not take, or no date names its last change. Relative paths start at a
directory, as the system has it. -/
theorem servesInitialFile_iff {t : FileTree} {base : Place} {s : Settings} {c : ServerConfiguration}
    {file : Text} (hbase : t.isDirectory base (pathOf base) = true)
    (hc : Settings.resolve t base s = .ok c) (hf : s.givenInitialFile = some file)
    (hb : c.dispatch.browse = false) (hr : c.dispatch.routes.isEmpty = true)
    (hw : w.site = ⟨t, base, c.dispatch.directory⟩) (hget : r.isMethod "GET" = true)
    (hp : r.path = ['/']) (hall : r.AsksForAll) :
    ∃ name content modified, c.dispatch.initialFile = some name ∧
      t.read base (Settings.absolutePath base file) = .ok (content, modified) ∧
      (c.dispatch.ServesFile w r name content ↔
        '\\' ∉ name ∧ name ≠ "index.html".toList ∧ Openable (w.site.named name) ∧
          c.dispatch.reaches name modified = true) := by
  obtain ⟨name, p, q, content, modified, hi, hname, hdir, hleads, hentry, hread⟩ :=
    Settings.resolve_initialFile hbase hc hf
  refine ⟨name, content, modified, hi, hread, ?_⟩
  generalize c.dispatch = d at hb hr hw hi hdir
  have hpath := path_rewritten hb hi hp
  have hfound : w.site.resolve? (d.rewritten r).path = some (w.site.named name) ↔ '\\' ∉ name := by
    rw [hpath]
    exact InitialFile.resolve?_target_eq_iff hname
  by_cases hslash : '\\' ∈ name
  · exact iff_of_false (fun h => hfound.mp h.found hslash) fun h => h.1 hslash
  have htree : w.site.tree = t := by rw [hw]
  have hstart : w.site.base = base := by rw [hw]
  have hroot : w.site.root = pathOf p := by rw [hw, hdir]
  by_cases ho : Openable (w.site.named name)
  -- the name leads from the directory to the file as soon as the system takes the path at all
  · have hlocate : t.locate base (w.site.named name) = .ok q := by
      rw [Site.named, hroot] at ho ⊢
      exact hleads.locate_join (Settings.noSlash_encode hname.noSlash) ho
    have hkind := FileTree.kind_eq_ok_iff.mpr ⟨q, hlocate, hentry⟩
    have hread' : w.site.tree.read w.site.base (w.site.named name) = .ok (content, modified) := by
      rw [htree, hstart, FileTree.read, hkind]
      rfl
    have hne : w.site.root ≠ [] := by
      rw [hroot]
      intro hnil
      have hhead := Settings.head?_pathOf p
      rw [hnil] at hhead
      cases hhead
    rw [servesFile_iff_of_read hb hr hi hp hget hname hslash hall hne hread']
    simp only [hslash, ho, not_false_eq_true, true_and]
  · have hkind : ∃ e, t.kind base (w.site.named name) = .error e := by
      cases hlocate : t.locate base (w.site.named name) with
      | ok q => exact absurd (FileTree.locate_eq_ok_iff.mp hlocate).1 ho
      | error e => exact ⟨e, by rw [FileTree.kind, hlocate]; rfl⟩
    obtain ⟨e, he⟩ := hkind
    rw [← htree, ← hstart] at he
    exact iff_of_false (not_servesFile_of_kind hb hr hi hp hget hname hslash he) fun h => ho h.2.2.1

end Dispatch

/-- The default settings with an initial file. -/
def Settings.opening (file : String) : Settings :=
  { Settings.default with initialFile := some file.toList }

/-- What a server in `/srv` runs with by those settings. -/
def ServerConfiguration.opening (file : String) : ServerConfiguration where
  bindAddress := []
  port := 8000
  maxConnections := 1024
  logFormat := .console
  protocol := .http11
  tls := none
  dispatch :=
    { Dispatch.guide with
      disableListing := false, initialFile := some file.toList, routes := .empty }

theorem Request.asksForAll_get (path : String) : (Request.get path).AsksForAll := fun _ _ => rfl

/-- A guide for `/` is rendered. -/
theorem Dispatch.servesFile_guide :
    let site : Site :=
      { Site.ofTexts [(["guide.md"], "# Guide")] with base := ["srv".toUTF8.toList] }
    let c := ServerConfiguration.opening "guide.md"
    site.tree.isDirectory site.base (pathOf site.base) = true ∧
      Settings.resolve site.tree site.base (.opening "guide.md") = .ok c ∧
      (Settings.opening "guide.md").givenInitialFile = some "guide.md".toList ∧
      c.dispatch.browse = false ∧ c.dispatch.routes.isEmpty = true ∧
      site = ⟨site.tree, site.base, c.dispatch.directory⟩ ∧
      (Request.get "/").isMethod "GET" = true ∧ (Request.get "/").path = ['/'] ∧
      (Request.get "/").AsksForAll ∧
      c.dispatch.ServesFile ⟨site, .offline, true⟩ (.get "/") "guide.md".toList
        (Utf8.encode "# Guide".toList) := by
  intro site c
  have hbase : site.tree.isDirectory site.base (pathOf site.base) = true := by decide +kernel
  have hc : Settings.resolve site.tree site.base (.opening "guide.md") = .ok c :=
    Except.toOption_eq_some_iff.mp (by decide +kernel)
  have hf : (Settings.opening "guide.md").givenInitialFile = some "guide.md".toList := by
    rfl
  have hread : site.tree.read site.base (Settings.absolutePath site.base "guide.md".toList) =
      .ok (Utf8.encode "# Guide".toList, ⟨0, 0⟩) :=
    Except.toOption_eq_some_iff.mp (by decide +kernel)
  obtain ⟨name, content, modified, hi, hcontent, hserves⟩ :=
    servesInitialFile_iff (w := ⟨site, .offline, true⟩) (r := .get "/") hbase hc hf rfl rfl rfl rfl
      rfl (Request.asksForAll_get _)
  obtain rfl : "guide.md".toList = name := Option.some.inj hi
  rw [hread] at hcontent
  cases hcontent
  exact ⟨hbase, hc, hf, rfl, rfl, rfl, rfl, rfl, Request.asksForAll_get _,
    hserves.mpr (by decide +kernel)⟩

/-- Not every initial file is served: `index.html` is answered with a redirect. -/
theorem Dispatch.not_forall_servesFile :
    ¬ ∀ (t : FileTree) (base : Place) (s : Settings) (c : ServerConfiguration) (file : Text)
      (w : World) (r : Request), t.isDirectory base (pathOf base) = true →
      Settings.resolve t base s = .ok c →
      s.givenInitialFile = some file → c.dispatch.browse = false →
      c.dispatch.routes.isEmpty = true → w.site = ⟨t, base, c.dispatch.directory⟩ →
      r.isMethod "GET" = true → r.path = ['/'] → r.AsksForAll →
      ∃ name content modified, c.dispatch.initialFile = some name ∧
        t.read base (Settings.absolutePath base file) = .ok (content, modified) ∧
        c.dispatch.ServesFile w r name content := by
  intro h
  let site : Site := { Site.ofTexts [(["index.html"], "home")] with base := ["srv".toUTF8.toList] }
  let c := ServerConfiguration.opening "index.html"
  have hc : Settings.resolve site.tree site.base (.opening "index.html") = .ok c :=
    Except.toOption_eq_some_iff.mp (by decide +kernel)
  obtain ⟨name, content, -, -, -, hserves⟩ := h site.tree site.base (.opening "index.html") c
    "index.html".toList ⟨site, .offline, true⟩ (.get "/") (by decide +kernel) hc (by rfl)
    rfl rfl rfl rfl rfl (Request.asksForAll_get _)
  have hstatus : (c.dispatch.answer ⟨site, .offline, true⟩ (.get "/")).response.status = 301 := by
    decide +kernel
  exact absurd (hstatus.symm.trans hserves.status) (by decide)

end SiteGateway
