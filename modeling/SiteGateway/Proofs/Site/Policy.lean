import SiteGateway.Proofs.Files.Walk
import SiteGateway.Proofs.Route.Built
import SiteGateway.Proxy.Offline
import SiteGateway.Site.Pipeline

/-!
# The order of the stages

`Dispatch.rules` lists what a configuration does with a request path, in the order of precedence:
plain files and listings when browsing, Markdown files, directory documents, the ban of listings,
routes. `Dispatch.ruling` is the first rule that applies, or else the static files, and
`answer_eq_ruling` says that running the stages gives just that answer.

Every stage has a few rules of its own and either answers by the first that applies or passes the
request on as it is (`Stage.Follows`). Stages that do so can be put together in any order
(`run_of_follows`); what is left is that the rules of the stages are those of the configuration.
-/

namespace SiteGateway

/-- What is done with a request. -/
inductive Ruling
  | file (path : Bytes)
  | listing (path : Bytes)
  | document (path : Bytes)
  | forbidden
  | route (route : Route)
  | static
deriving DecidableEq, Repr

/-- The answer that a ruling asks for; a listing and a document may be impossible to read. -/
def Ruling.answer? (w : World) (r : Request) : Ruling → Option Answer
  | .file path => some ⟨StaticFile.serve w.site path r, []⟩
  | .listing path => (w.site.list path r.path).toOption.map (⟨·, []⟩)
  | .document path => (w.site.document? r.headers path).map (⟨·, []⟩)
  | .forbidden => some ⟨Stage.listingDisabled, []⟩
  | .route x =>
    if r.headers.asksForWebSocket then
      let run := Tunnel.run w.network x w.takeover r
      some ⟨run.response, run.states⟩
    else some ⟨Forward.respond w.network x r, []⟩
  | .static => some ⟨w.site.serveStatic r, []⟩

namespace Site

/-- Every file that is there can be read. -/
def Readable (s : Site) : Prop :=
  ∀ path, s.isFile path = true → ∃ c, s.tree.read s.base path = .ok c

/-! ### What a request path names -/

/-- A file other than Markdown, asked for as a file. -/
def plainFile? (s : Site) (p : Text) : Option Bytes :=
  (s.resolve? p).filter fun f => !asksDirectory p && s.isFile f && !isMarkdownPath f

/-- A Markdown file, asked for as a file. -/
def markdownFile? (s : Site) (p : Text) : Option Bytes :=
  (s.resolve? p).filter fun f => !asksDirectory p && s.isFile f && isMarkdownPath f

/-- A directory, asked for as one. -/
def directory? (s : Site) (p : Text) : Option Bytes :=
  (s.resolve? p).filter fun f => asksDirectory p && s.isDirectory f

/-- A directory without an index page, asked for as a directory. -/
def unindexed? (s : Site) (p : Text) : Option Bytes :=
  (s.directory? p).filter fun f => !s.hasIndex f

/-- What the Markdown rules say about a directory without an index page. -/
def directoryRuling? (s : Site) (disableListing : Bool) (f : Bytes) : Option Ruling :=
  match s.directoryDocument? f with
  | some n => some (.document (child f n))
  | none => if disableListing then some .forbidden else none

variable {s : Site} {f : Bytes} {n : FileName}

theorem isFile_eq_false_of_isDirectory (h : s.isDirectory f = true) : s.isFile f = false :=
  FileTree.isFile_eq_false_of_isDirectory h

theorem list_of_isDirectory (h : s.isDirectory f = true) (p : Text) : ∃ r, s.list f p = .ok r := by
  obtain ⟨names, hn⟩ := FileTree.list_of_isDirectory h
  exact ⟨_, by rw [list, Listing.entries, hn]; rfl⟩

theorem readable_of_canonical (h : s.tree.Canonical s.base) : s.Readable :=
  fun _ hf => h.read_of_isFile hf

theorem document?_of_isFile (hs : s.Readable) (h : s.isFile f = true) (hs' : Headers) :
    ∃ r, s.document? hs' f = some r := by
  obtain ⟨⟨source, modified⟩, hc⟩ := hs f h
  exact ⟨_, by rw [document?, hc]⟩

theorem mem_of_chooseDocument {names : List FileName} (h : chooseDocument names = some n) :
    n ∈ names := by
  unfold chooseDocument at h
  split at h
  · rename_i hf
    cases h
    exact List.mem_of_find?_eq_some hf
  · split at h
    · cases h
      exact List.mem_singleton_self n
    · cases h

theorem mem_of_directoryDocument? (h : s.directoryDocument? f = some n) :
    ∃ names, s.tree.list s.base f = .ok names ∧ n ∈ names ∧ s.isFile (child f n) = true := by
  unfold directoryDocument? at h
  split at h
  · cases h
  · rename_i names hnames
    have hm := mem_of_chooseDocument h
    simp only [List.mem_filter, Bool.and_eq_true] at hm
    exact ⟨names, hnames, hm.1, hm.2.1⟩

theorem isFile_of_directoryDocument? (h : s.directoryDocument? f = some n) :
    s.isFile (child f n) = true := by
  obtain ⟨names, -, -, hf⟩ := mem_of_directoryDocument? h
  exact hf

theorem resolve?_nil : s.resolve? [] = some s.root := rfl

theorem serveStatic_of_path_nil {r : Request} (hp : r.path = []) (hf : s.isFile s.root = true) :
    s.serveStatic r = StaticFile.serve s s.root r := by
  have hd : s.isDirectory s.root = false := by
    rw [← Bool.not_eq_true]
    intro h
    rw [isFile_eq_false_of_isDirectory h] at hf
    cases hf
  have hb : s.serveBelow r = StaticFile.serve s s.root r := by
    cases ha : StaticFile.allows r
    · simp [serveBelow, StaticFile.serve, ha]
    · rw [serveBelow, hp]
      simp only [ha, Bool.not_true, Bool.false_eq_true, if_false]
      change (if s.isDirectory s.root then _ else _) = _
      rw [hd]; rfl
  rw [serveStatic, hp, resolve?_nil, ← hb]
  rfl

end Site

/-! ### Rules -/

/-- The first rule that applies. -/
def firstRule (rules : List (Option Ruling)) : Option Ruling := rules.findSome? id

@[simp] theorem firstRule_nil : firstRule [] = none := rfl

@[simp] theorem firstRule_cons (o : Option Ruling) (rules : List (Option Ruling)) :
    firstRule (o :: rules) = o.or (firstRule rules) := by
  cases o <;> rfl

theorem firstRule_append (a b : List (Option Ruling)) :
    firstRule (a ++ b) = (firstRule a).or (firstRule b) := List.findSome?_append

namespace Dispatch

/-- The request with `/` replaced by the initial file, where that is done. -/
def rewritten (d : Dispatch) (r : Request) : Request :=
  match d.initialFile with
  | some file =>
    if !d.browse && r.path == ['/'] then
      { r with target := r.target.withPath (InitialFile.target file) }
    else r
  | none => r

/-- The rules for a request path, in the order of their precedence. -/
def rules (d : Dispatch) (s : Site) (p : Text) : List (Option Ruling) :=
  [if d.browse then (s.plainFile? p).map .file else none,
    if d.browse then (s.directory? p).map .listing else none,
    if d.markdown then (s.markdownFile? p).map .document else none,
    if d.markdown && !d.browse then (s.unindexed? p).bind (s.directoryRuling? d.disableListing)
      else none,
    if !d.markdown && !d.browse && d.disableListing && Site.asksDirectory p then some .forbidden
      else none,
    (d.routes.find? (SiteRoot.display p)).map .route]

/-- What a configuration does with a request path. -/
def ruling (d : Dispatch) (s : Site) (p : Text) : Ruling := (firstRule (d.rules s p)).getD .static

end Dispatch

/-! ### Stages -/

namespace Stage

/-- The rules of one stage. -/
def rules (s : Site) (p : Text) : Stage → List (Option Ruling)
  | initialFile _ => []
  | browse => [(s.plainFile? p).map .file, (s.directory? p).map .listing]
  | markdown disableListing directoryDocuments =>
    [(s.markdownFile? p).map .document,
      if directoryDocuments then (s.unindexed? p).bind (s.directoryRuling? disableListing)
      else none]
  | directoryGuard => [if Site.asksDirectory p then some .forbidden else none]
  | proxy routes => [(routes.find? (SiteRoot.display p)).map .route]

/-- The stage answers by the first of its rules that applies, and passes other requests on. -/
def Follows (w : World) (stage : Stage) (r : Request) : Prop :=
  match firstRule (stage.rules w.site r.path) with
  | some ruling => ∃ a, ruling.answer? w r = some a ∧ stage.run w r = .handled a
  | none => stage.run w r = .passed r

variable {w : World} {r : Request} {stage : Stage}

theorem Follows.of_rule {a : Answer} (ruling : Ruling)
    (hr : firstRule (stage.rules w.site r.path) = some ruling) (ha : ruling.answer? w r = some a)
    (h : stage.run w r = .handled a) : Follows w stage r := by
  simp only [Follows, hr]
  exact ⟨a, ha, h⟩

theorem Follows.of_none (hr : firstRule (stage.rules w.site r.path) = none)
    (h : stage.run w r = .passed r) : Follows w stage r := by
  simp only [Follows, hr, h]

theorem run_browse_of_path_nil (hp : r.path = []) : run w .browse r = .passed r := by
  simp [run, runBrowse, hp]

theorem follows_browse (hp : r.path ≠ []) : Follows w .browse r := by
  have hp' : r.path.isEmpty = false := by simpa using hp
  cases hf : w.site.resolve? r.path with
  | none =>
    apply Follows.of_none
    · simp [rules, Site.plainFile?, Site.directory?, hf]
    · simp [run, runBrowse, hp', hf]
  | some f =>
    cases ha : Site.asksDirectory r.path
    · cases hk : w.site.isFile f && !isMarkdownPath f
      · apply Follows.of_none
        · simp [rules, Site.plainFile?, Site.directory?, hf, ha, hk, Option.filter]
        · simp [run, runBrowse, hp', hf, ha, hk]
      · refine Follows.of_rule (.file f) ?_ rfl ?_
        · simp [rules, Site.plainFile?, hf, ha, hk, Option.filter]
        · simp [run, runBrowse, hp', hf, ha, hk, Outcome.answer]
    · cases hd : w.site.isDirectory f
      · apply Follows.of_none
        · simp [rules, Site.plainFile?, Site.directory?, hf, ha, hd, Option.filter]
        · simp [run, runBrowse, hp', hf, ha, hd]
      · obtain ⟨x, hx⟩ := Site.list_of_isDirectory hd r.path
        refine Follows.of_rule (.listing f) (a := ⟨x, []⟩) ?_ ?_ ?_
        · simp [rules, Site.plainFile?, Site.directory?, hf, ha, hd, Option.filter]
        · simp [Ruling.answer?, hx, Except.toOption]
        · simp [run, runBrowse, hp', hf, ha, hd, hx, Except.toOption, Outcome.orPass,
            Outcome.answer]

theorem follows_markdown_of_file {f : Bytes} (hw : w.site.Readable) (dis docs : Bool)
    (hf : w.site.resolve? r.path = some f) (hd : w.site.isDirectory f = false) :
    Follows w (.markdown dis docs) r := by
  have hu : w.site.unindexed? r.path = none := by
    simp [Site.unindexed?, Site.directory?, hf, hd, Option.filter]
  by_cases hk : w.site.isFile f ∧ Site.asksDirectory r.path = false ∧ isMarkdownPath f
  · obtain ⟨hfile, ha, hm⟩ := hk
    obtain ⟨x, hx⟩ := Site.document?_of_isFile hw hfile r.headers
    refine Follows.of_rule (.document f) (a := ⟨x, []⟩) ?_ ?_ ?_
    · simp [rules, Site.markdownFile?, hf, hfile, ha, hm, Option.filter]
    · simp [Ruling.answer?, hx]
    · simp [run, runMarkdown, hf, hd, hfile, ha, hm, hx, Outcome.orPass, Outcome.answer]
  · have hm : w.site.markdownFile? r.path = none := by
      simp only [Site.markdownFile?, hf, Option.filter_eq_none_iff, Option.some.injEq]
      rintro _ rfl
      simpa [and_comm, and_left_comm] using hk
    have hk' : (w.site.isFile f && !Site.asksDirectory r.path && isMarkdownPath f) = false := by
      simpa [and_assoc] using hk
    apply Follows.of_none
    · simp [rules, hm, hu]
    · simp [run, runMarkdown, hf, hd, hk']

theorem follows_markdown_of_directory {f : Bytes} (hw : w.site.Readable) (dis docs : Bool)
    (hf : w.site.resolve? r.path = some f) (hd : w.site.isDirectory f = true) :
    Follows w (.markdown dis docs) r := by
  have hm : w.site.markdownFile? r.path = none := by
    simp [Site.markdownFile?, hf, Site.isFile_eq_false_of_isDirectory hd, Option.filter]
  by_cases hk : Site.asksDirectory r.path ∧ docs ∧ w.site.hasIndex f = false
  · obtain ⟨ha, rfl, hi⟩ := hk
    have hu : w.site.unindexed? r.path = some f := by
      simp [Site.unindexed?, Site.directory?, hf, ha, hd, hi, Option.filter]
    cases hn : w.site.directoryDocument? f with
    | some n =>
      obtain ⟨x, hx⟩ :=
        Site.document?_of_isFile hw (Site.isFile_of_directoryDocument? hn) r.headers
      refine Follows.of_rule (.document (Site.child f n)) (a := ⟨x, []⟩) ?_ ?_ ?_
      · simp [rules, hm, hu, Site.directoryRuling?, hn]
      · simp [Ruling.answer?, hx]
      · simp [run, runMarkdown, hf, hd, ha, hi, hn, hx, Outcome.orPass, Outcome.answer]
    | none =>
      cases dis
      · apply Follows.of_none
        · simp [rules, hm, hu, Site.directoryRuling?, hn]
        · simp [run, runMarkdown, hf, hd, ha, hi, hn]
      · refine Follows.of_rule .forbidden ?_ rfl ?_
        · simp [rules, hm, hu, Site.directoryRuling?, hn]
        · simp [run, runMarkdown, hf, hd, ha, hi, hn, Outcome.answer]
  · have hu : docs = true → w.site.unindexed? r.path = none := by
      rintro rfl
      simp only [Site.unindexed?, Site.directory?, hf, hd, Option.filter, Bool.and_true]
      cases ha : Site.asksDirectory r.path <;> simp_all
    have hk' : (!Site.asksDirectory r.path || !docs || w.site.hasIndex f) = true := by
      rw [← Bool.not_eq_false]
      intro h
      exact hk (by simpa [and_assoc] using h)
    apply Follows.of_none
    · cases docs <;> simp [rules, hm, hu]
    · simp [run, runMarkdown, hf, hd, hk']

theorem follows_markdown (hw : w.site.Readable) (dis docs : Bool) :
    Follows w (.markdown dis docs) r := by
  cases hf : w.site.resolve? r.path with
  | none =>
    apply Follows.of_none
    · simp [rules, Site.markdownFile?, Site.unindexed?, Site.directory?, hf]
    · simp [run, runMarkdown, hf]
  | some f =>
    cases hd : w.site.isDirectory f with
    | false => exact follows_markdown_of_file hw dis docs hf hd
    | true => exact follows_markdown_of_directory hw dis docs hf hd

theorem follows_directoryGuard : Follows w .directoryGuard r := by
  cases ha : Site.asksDirectory r.path
  · exact Follows.of_none (by simp [rules, ha]) (by simp [run, ha])
  · exact Follows.of_rule .forbidden (by simp [rules, ha]) rfl
      (by simp [run, ha, Outcome.answer])

theorem runProxy_eq (routes : RouteTable) :
    runProxy w routes r =
      match routes.find? (SiteRoot.display r.path) with
      | none => .passed r
      | some x => .handled
        (if r.headers.asksForWebSocket then
          ⟨(Tunnel.run w.network x w.takeover r).response,
            (Tunnel.run w.network x w.takeover r).states⟩
        else ⟨Forward.respond w.network x r, []⟩) := by
  change (match routes.find? (SiteRoot.display r.path) with | none => _ | some _ => _) = _
  cases routes.find? (SiteRoot.display r.path) with
  | none => rfl
  | some x => cases r.headers.asksForWebSocket <;> simp [Outcome.answer]

theorem follows_proxy (routes : RouteTable) : Follows w (.proxy routes) r := by
  cases hf : routes.find? (SiteRoot.display r.path) with
  | none =>
    exact Follows.of_none (by simp [rules, hf]) (by simp only [run, runProxy_eq, hf])
  | some x =>
    refine Follows.of_rule (.route x) (by simp [rules, hf]) ?_
      (by simp only [run, runProxy_eq, hf]; rfl)
    cases h : r.headers.asksForWebSocket <;> simp [Ruling.answer?, h]

end Stage

/-! ### Runs -/

/-- Stages that follow their rules answer by the first rule of them all. -/
theorem Pipeline.run_of_follows {w : World} {r : Request} {stages : List Stage}
    (h : ∀ stage ∈ stages, stage.Follows w r) :
    ((firstRule (stages.flatMap (·.rules w.site r.path))).getD .static).answer? w r =
      some (run w stages r) := by
  induction stages with
  | nil => rfl
  | cons stage stages ih =>
    have hs := h stage (by simp)
    have ih := ih fun s hs => h s (by simp [hs])
    rw [List.flatMap_cons, firstRule_append]
    unfold Stage.Follows at hs
    cases hr : firstRule (stage.rules w.site r.path) with
    | some ruling =>
      rw [hr] at hs
      obtain ⟨a, ha, hrun⟩ := hs
      simp [run, hrun, ha]
    | none =>
      rw [hr] at hs
      simpa [run, hs] using ih

namespace Dispatch
variable {w : World} {r : Request} {d : Dispatch}

/-- The stages after browsing. -/
def later (d : Dispatch) : List Stage :=
  (if d.markdown then [.markdown d.disableListing !d.browse]
    else if d.disableListing && !d.browse then [.directoryGuard] else []) ++
  (if d.routes.isEmpty then [] else [.proxy d.routes])

/-- The stages that decide about a request once its path is settled. -/
def policies (d : Dispatch) : List Stage := (if d.browse then [.browse] else []) ++ d.later

theorem answer_eq_run : d.answer w r = Pipeline.run w d.policies (d.rewritten r) := by
  unfold answer stages policies later rewritten
  cases d.browse
  · cases d.initialFile with
    | none => rfl
    | some file =>
      by_cases hp : r.path = ['/']
      · simp [Pipeline.run, Stage.run, InitialFile.retarget, hp, show r.target.path = ['/'] from hp]
      · simp [Pipeline.run, Stage.run, InitialFile.retarget, hp,
          show r.target.path ≠ ['/'] from hp]
  · cases d.initialFile <;> rfl

theorem find?_of_isEmpty {routes : RouteTable} (h : routes.isEmpty = true) (p : Text) :
    routes.find? p = none := by
  simp [RouteTable.find?, List.isEmpty_iff.mp h]

/-- The rules of the stages after browsing are those of the configuration after its first two. -/
theorem firstRule_later (s : Site) (p : Text) :
    firstRule (d.later.flatMap (·.rules s p)) = firstRule ((d.rules s p).drop 2) := by
  have hr : (if d.routes.isEmpty then [] else [Stage.proxy d.routes]).flatMap (·.rules s p) =
      if d.routes.isEmpty then [] else [(d.routes.find? (SiteRoot.display p)).map .route] := by
    split <;> rfl
  have hf : firstRule (if d.routes.isEmpty then []
      else [(d.routes.find? (SiteRoot.display p)).map .route]) =
      (d.routes.find? (SiteRoot.display p)).map .route := by
    split
    · rename_i h
      rw [find?_of_isEmpty h]; rfl
    · cases d.routes.find? (SiteRoot.display p) <;> rfl
  rw [later, List.flatMap_append, hr, firstRule_append, hf]
  cases hb : d.browse <;> cases hm : d.markdown <;> cases hl : d.disableListing <;>
    simp [rules, Stage.rules, hb, hm, hl, Option.or_assoc]

/-- With browsing on, no later rule speaks about the empty path when that is a plain file. -/
theorem firstRule_later_nil {s : Site} {f : Bytes} (ht : d.routes.Built) (hb : d.browse = true)
    (hf : s.plainFile? [] = some f) : firstRule (d.later.flatMap (·.rules s [])) = none := by
  obtain ⟨hr, hf⟩ := Option.filter_eq_some_iff.mp hf
  have hm : s.markdownFile? [] = none := by
    simp only [Site.markdownFile?, hr, Option.filter]
    simp_all
  have hn : d.routes.find? (SiteRoot.display []) = none := ht.find?_nil
  rw [firstRule_later]
  simp [rules, hb, hm, hn]

theorem follows_later (hw : w.site.Readable) : ∀ stage ∈ d.later, stage.Follows w r := by
  intro stage hs
  rcases List.mem_append.mp hs with hs | hs
  · split at hs
    · obtain rfl := List.mem_singleton.mp hs
      exact Stage.follows_markdown hw _ _
    · split at hs
      · obtain rfl := List.mem_singleton.mp hs
        exact Stage.follows_directoryGuard
      · cases hs
  · split at hs
    · cases hs
    · obtain rfl := List.mem_singleton.mp hs
      exact Stage.follows_proxy _

/-- The stages answer by the first rule that applies. -/
theorem answer_eq_ruling (hw : w.site.Readable) (ht : d.routes.Built) :
    (d.ruling w.site (d.rewritten r).path).answer? w (d.rewritten r) = some (d.answer w r) := by
  rw [answer_eq_run, policies, ruling]
  generalize d.rewritten r = q
  have hl := Pipeline.run_of_follows (r := q) (follows_later (d := d) hw)
  rw [firstRule_later] at hl
  cases hb : d.browse with
  | false =>
    rw [show firstRule (d.rules w.site q.path) = firstRule ((d.rules w.site q.path).drop 2) by
      simp [rules, hb]]
    exact hl
  | true =>
    have hr : firstRule (d.rules w.site q.path) =
        (firstRule (Stage.browse.rules w.site q.path)).or
          (firstRule ((d.rules w.site q.path).drop 2)) := by
      simp [rules, Stage.rules, hb, Option.or_assoc]
    by_cases hq : q.path = []
    · rw [if_pos rfl, List.singleton_append, Pipeline.run, Stage.run_browse_of_path_nil hq, hr]
      have hd : w.site.directory? q.path = none := by
        rw [hq]; rfl
      cases hf : w.site.plainFile? q.path with
      | none => simpa [Stage.rules, hf, hd] using hl
      | some f =>
        -- the file is the root itself, which the static files serve as browsing would have
        obtain ⟨hroot, hfile⟩ := Option.filter_eq_some_iff.mp hf
        obtain rfl : w.site.root = f := by
          rw [hq, Site.resolve?_nil] at hroot
          exact Option.some.inj hroot
        rw [hq] at hf
        rw [← firstRule_later, hq, firstRule_later_nil ht hb hf] at hl
        have hs : w.site.serveStatic q = StaticFile.serve w.site w.site.root q := by
          refine Site.serveStatic_of_path_nil hq ?_
          simp only [Bool.and_eq_true] at hfile
          exact hfile.1.2
        have hrun : Pipeline.run w d.later q = ⟨w.site.serveStatic q, []⟩ :=
          (Option.some.inj hl).symm
        simp [Stage.rules, hq, hf, Ruling.answer?, hs, hrun]
    · have hall : ∀ stage ∈ Stage.browse :: d.later, stage.Follows w q := by
        intro stage hs
        rcases List.mem_cons.mp hs with rfl | hs
        · exact Stage.follows_browse hq
        · exact follows_later hw stage hs
      have := Pipeline.run_of_follows hall
      rwa [List.flatMap_cons, firstRule_append, firstRule_later, ← hr] at this

end Dispatch

/-- A site of texts below `/srv`. -/
def Site.ofTexts (files : List (List String × String)) : Site where
  tree := files.foldl (fun t file =>
    t.put (("srv" :: file.1).map fun n => Utf8.encode n.toList)
      (.file (Utf8.encode file.2.toList) ⟨0, 0⟩)) ⟨[]⟩
  base := []
  root := Utf8.encode "/srv".toList

theorem Site.readable_ofTexts (files : List (List String × String)) : (ofTexts files).Readable :=
  readable_of_canonical .top

/-- A request for a path without anything else. -/
def Request.get (path : String) : Request :=
  ⟨"GET".toList, ⟨none, none, path.toList, none⟩, .http11, [], [], none⟩

/-- Markdown and a route, with a guide for `/`. -/
def Dispatch.guide : Dispatch where
  directory := Utf8.encode "/srv".toList
  markdown := true
  browse := false
  disableListing := true
  initialFile := some "guide.md".toList
  routes := ⟨[⟨"/api".toList, ⟨"http".toList, [], [], some (.domain "h".toList), none,
    .segments [[]], none, none⟩⟩]⟩

theorem Dispatch.built_guide : guide.routes.Built :=
  .ofPair (p := "/api".toList) (b := "http://h".toList)
    (Except.toOption_eq_some_iff.mp (by rfl))

/-- For `/` the guide is rendered. -/
theorem Dispatch.answer_guide :
    let s := Site.ofTexts [(["guide.md"], "# Guide")]
    let w : World := ⟨s, .offline, true⟩
    let r := Request.get "/"
    s.Readable ∧ guide.routes.Built ∧
      guide.ruling s (guide.rewritten r).path = .document (Utf8.encode "/srv/guide.md".toList) ∧
      (guide.ruling s (guide.rewritten r).path).answer? w (guide.rewritten r) =
        some (guide.answer w r) :=
  ⟨Site.readable_ofTexts _, built_guide, by decide +kernel,
    answer_eq_ruling (Site.readable_ofTexts _) built_guide⟩

end SiteGateway
