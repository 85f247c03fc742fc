import SiteGateway.Proofs.Files.Linkless
import SiteGateway.Proofs.Site.Policy
import SiteGateway.Proofs.Site.Root

/-!
# What an answer can show

An answer to a request says nothing about the files except for what stands at the path that the
request path names, for the names right below it, and for the contents of the index page and the
chosen document there: trees without links that agree on that much (`Site.AgreesOn`) give the same
answer, whatever else is in them (`Dispatch.answer_of_agreesOn`). A file outside the root may be
written anew, and no answer changes (`Dispatch.answer_set_of_outside`).

The first half goes from places to paths: the path leads down from the root's place, so trees that
agree at the places agree on all that is asked about the path (`Site.Agrees`). The second half
follows the stages, which ask no more than that.
-/

namespace SiteGateway

open FileTree (Alike EntryName SameKind steps)
open Percent (spelled)

/-- The trees agree on the way to a place, at the place, on what is right below it, and on the
contents of the files there that are shown. -/
structure FileTree.Agree (t t' : FileTree) (p : Place) (shown : List FileName) : Prop where
  way : ∀ q, q <+: p → SameKind t t' q
  own : t'.entry? p = t.entry? p
  names : t'.children p = t.children p
  child : ∀ n, SameKind t t' (p ++ [n])
  content : ∀ n ∈ shown, t'.entry? (p ++ [n]) = t.entry? (p ++ [n])

theorem FileTree.agree_set {t : FileTree} {p q : Place} {c c' : Bytes} {m m' : Instant}
    {shown : List FileName} (hq : t.entry? q = some (.file c m)) (hp : q ≠ p)
    (hs : ∀ n ∈ shown, q ≠ p ++ [n]) : t.Agree (t.set q (.file c' m')) p shown where
  way := fun _ _ => sameKind_set hq _
  own := by rw [entry?_set hq, if_neg hp.symm]
  names := children_set hq _ p
  child := fun _ => sameKind_set hq _
  content := fun n hn => by rw [entry?_set hq, if_neg (hs n hn).symm]

namespace Site

/-- The names right below a path whose contents an answer may show. -/
def shown (s : Site) (f : Bytes) : List FileName := indexName :: (s.directoryDocument? f).toList

def withTree (s : Site) (t : FileTree) : Site := { s with tree := t }

@[simp] theorem withTree_tree (s : Site) (t : FileTree) : (s.withTree t).tree = t := rfl

@[simp] theorem withTree_base (s : Site) (t : FileTree) : (s.withTree t).base = s.base := rfl

@[simp] theorem withTree_resolve? (s : Site) (t : FileTree) (p : Text) :
    (s.withTree t).resolve? p = s.resolve? p := rfl

@[simp] theorem withTree_isDirectory (s : Site) (t : FileTree) (f : Bytes) :
    (s.withTree t).isDirectory f = t.isDirectory s.base f := rfl

@[simp] theorem withTree_isFile (s : Site) (t : FileTree) (f : Bytes) :
    (s.withTree t).isFile f = t.isFile s.base f := rfl

/-- The tree agrees with the site's on all that is asked about a path. -/
structure Agrees (s : Site) (t' : FileTree) (f : Bytes) : Prop where
  isDirectory : t'.isDirectory s.base f = s.isDirectory f
  isFile : t'.isFile s.base f = s.isFile f
  read : t'.read s.base f = s.tree.read s.base f
  list : t'.list s.base f = s.tree.list s.base f
  childDirectory : ∀ n, EntryName n →
    t'.isDirectory s.base (child f n) = s.tree.isDirectory s.base (child f n)
  childFile : ∀ n, EntryName n → t'.isFile s.base (child f n) = s.isFile (child f n)
  childRead : ∀ n ∈ s.shown f, t'.read s.base (child f n) = s.tree.read s.base (child f n)
  entryName : ∀ ns, s.tree.list s.base f = .ok ns → ∀ n ∈ ns, EntryName n

variable {s : Site} {t' : FileTree} {f g : Bytes} {p : Text} {r : Request} {n : FileName}

/-! ### From places to paths -/

theorem entryName_indexName : EntryName indexName := by decide

theorem entryName_of_mem_shown (ht : s.tree.Linkless) (hn : n ∈ s.shown f) : EntryName n := by
  rcases List.mem_cons.mp hn with rfl | hn
  · exact entryName_indexName
  · obtain ⟨names, hnames, hn, -⟩ := mem_of_directoryDocument? (Option.mem_toList.mp hn)
    exact ht.entryName_of_list hnames hn

section
variable {ns : List FileName} (ht : s.tree.Linkless) (ht' : t'.Linkless)
  (hns : ∀ n ∈ ns, EntryName n) (hroot : t'.reach s.base s.root = s.tree.reach s.base s.root)
  (h : ∀ top, s.tree.reach s.base s.root = .ok top →
    s.tree.Agree t' (top ++ ns) (s.shown (SiteRoot.joinAll s.root ns)))
include ht ht' hns hroot h

theorem alike_child (hn : EntryName n) :
    Alike s.tree t' s.base (child (SiteRoot.joinAll s.root ns) n) := by
  have hns' := List.forall_mem_append.mpr ⟨hns, List.forall_mem_singleton.mpr hn⟩
  rw [child, ← SiteRoot.joinAll_concat]
  refine ht.alike_below ht' hns' hroot fun top htop q hq => ?_
  rw [← List.append_assoc] at hq
  rcases List.prefix_concat_iff.mp hq with rfl | hq
  · exact (h top htop).child n
  · exact (h top htop).way q hq

theorem read_child (hn : n ∈ s.shown (SiteRoot.joinAll s.root ns)) :
    t'.read s.base (child (SiteRoot.joinAll s.root ns) n) =
      s.tree.read s.base (child (SiteRoot.joinAll s.root ns) n) := by
  have hname := entryName_of_mem_shown ht hn
  have hns' := List.forall_mem_append.mpr ⟨hns, List.forall_mem_singleton.mpr hname⟩
  refine (alike_child ht ht' hns hroot h hname).read fun q hq => ?_
  rw [child, ← SiteRoot.joinAll_concat] at hq
  obtain ⟨top, htop, rfl⟩ := ht.locate_below hns' hq
  rw [← List.append_assoc]
  exact (h top htop).content n hn

theorem agrees_of_agree : s.Agrees t' (SiteRoot.joinAll s.root ns) := by
  have hown : Alike s.tree t' s.base (SiteRoot.joinAll s.root ns) :=
    ht.alike_below ht' hns hroot fun top htop => (h top htop).way
  have hagree (q : Place) (hq : s.tree.locate s.base (SiteRoot.joinAll s.root ns) = .ok q) :
      s.tree.Agree t' q (s.shown (SiteRoot.joinAll s.root ns)) := by
    obtain ⟨top, htop, rfl⟩ := ht.locate_below hns hq
    exact h top htop
  exact {
    isDirectory := hown.isDirectory
    isFile := hown.isFile
    read := hown.read fun q hq => (hagree q hq).own
    list := hown.list fun q hq => (hagree q hq).names
    childDirectory := fun n hn => (alike_child ht ht' hns hroot h hn).isDirectory
    childFile := fun n hn => (alike_child ht ht' hns hroot h hn).isFile
    childRead := fun n hn => read_child ht ht' hns hroot h hn
    entryName := fun names hnames n hn => ht.entryName_of_list hnames hn }

end

/-- The tree agrees with the site's about the root and about the place that a request path names. -/
structure AgreesOn (s : Site) (t' : FileTree) (p : Text) : Prop where
  root : t'.reach s.base s.root = s.tree.reach s.base s.root
  place : ∀ f top, s.resolve? p = some f → s.tree.reach s.base s.root = .ok top →
    s.tree.Agree t' (top ++ steps (spelled p)) (s.shown f)

theorem AgreesOn.agrees (h : s.AgreesOn t' p) (ht : s.tree.Linkless) (ht' : t'.Linkless)
    (hf : s.resolve? p = some f) : s.Agrees t' f := by
  obtain ⟨hstays, rfl⟩ := SiteRoot.resolve?_eq_some_iff.mp hf
  exact agrees_of_agree ht ht' (fun _ => hstays.entryName) h.root fun top htop =>
    h.place _ top hf htop

theorem agreesOn_set (ht : s.tree.Linkless) {q : Place} {c c' : Bytes} {m m' : Instant}
    (hq : s.tree.entry? q = some (.file c m))
    (h : ∀ f top, s.resolve? p = some f → s.tree.reach s.base s.root = .ok top →
      q ≠ top ++ steps (spelled p) ∧ ∀ n ∈ s.shown f, q ≠ top ++ steps (spelled p) ++ [n]) :
    s.AgreesOn (s.tree.set q (.file c' m')) p where
  root := ht.reach_congr (ht.set hq) (FileTree.sameKind_set hq)
  place := fun f top hf htop => by
    obtain ⟨hne, hshown⟩ := h f top hf htop
    exact FileTree.agree_set hq hne hshown

/-! ### What is asked about a path -/

theorem document?_congr (h : t'.read s.base g = s.tree.read s.base g) (hs : Headers) :
    (s.withTree t').document? hs g = s.document? hs g := by
  simp only [document?, withTree_tree, withTree_base, h]

theorem serve_congr (h : t'.read s.base g = s.tree.read s.base g) (r : Request) :
    StaticFile.serve (s.withTree t') g r = StaticFile.serve s g r := by
  simp only [StaticFile.serve, withTree_tree, withTree_base, h]

theorem steps_dropWhile (p : Text) :
    steps (spelled (p.dropWhile (· == '/'))) = steps (spelled p) := by
  induction p with
  | nil => rfl
  | cons c p ih =>
    rw [List.dropWhile_cons]
    split
    next h =>
      have hslash : steps (0x2F :: spelled p) = steps [] ++ steps (spelled p) :=
        FileTree.steps_append_slash [] (spelled p)
      rw [ih, eq_of_beq h, Percent.spelled_slash_cons, hslash]
      rfl
    next => rfl

theorem exists_decode?_dropWhile {p decoded : Text} (h : SiteRoot.decode? p = some decoded) :
    ∃ rest, SiteRoot.decode? (p.dropWhile (· == '/')) = some rest := by
  induction p generalizing decoded with
  | nil => exact ⟨decoded, h⟩
  | cons c p ih =>
    rw [List.dropWhile_cons]
    split
    next hc =>
      obtain rfl := eq_of_beq hc
      -- a slash is a whole character, so what comes after it is still text
      have henc : 0x2F :: spelled p = Utf8.encode decoded := by
        rw [← Percent.spelled_slash_cons]
        exact Utf8.decode?_eq_some_iff.mp h
      have hslash : ['/'] <+: decoded := by
        rw [← Utf8.encode_prefix_iff, ← henc]
        exact ⟨spelled p, rfl⟩
      obtain ⟨rest, rfl⟩ := hslash
      have hrest : spelled p = Utf8.encode rest := (List.cons.inj henc).2
      exact ih (Utf8.decode?_eq_some_iff.mpr hrest)
    next => exact ⟨decoded, h⟩

/-- The path goes on with an escaped slash where its own slashes in front end. -/
def SlashAfterSlashes (p : Text) : Prop := (spelled (p.dropWhile (· == '/'))).head? = some 0x2F

instance (p : Text) : Decidable (SlashAfterSlashes p) :=
  inferInstanceAs (Decidable ((spelled (p.dropWhile (· == '/'))).head? = some 0x2F))

theorem slashAfterSlashes_iff {decoded : Text}
    (h : SiteRoot.decode? (p.dropWhile (· == '/')) = some decoded) :
    SlashAfterSlashes p ↔ decoded.head? = some '/' := by
  have hspelled : spelled (p.dropWhile (· == '/')) = Utf8.encode decoded :=
    Utf8.decode?_eq_some_iff.mp h
  rw [SlashAfterSlashes, hspelled, Utf8.head?_encode_eq_slash_iff]

theorem exists_decode?_of_resolve? (hf : s.resolve? p = some f) :
    ∃ decoded, SiteRoot.decode? (p.dropWhile (· == '/')) = some decoded := by
  obtain ⟨text, htext⟩ := (SiteRoot.resolve?_eq_some_iff.mp hf).1.text
  exact exists_decode?_dropWhile (Utf8.decode?_eq_some_iff.mpr htext)

/-- The static files skip the slashes in front of a path and come to what it names, unless another
slash comes after them. -/
theorem serveBelow_of_resolve? (hf : s.resolve? r.path = some f) :
    s.serveBelow r =
      if !StaticFile.allows r then StaticFile.methodNotAllowed
      else if SlashAfterSlashes r.path then .bare 404 []
      else if s.isDirectory f then
        if asksDirectory r.path then StaticFile.serve s (child f indexName) r
        else StaticFile.redirectToSlash r
      else StaticFile.serve s f r := by
  obtain ⟨decoded, hdecoded⟩ := exists_decode?_of_resolve? hf
  obtain ⟨-, rfl⟩ := SiteRoot.resolve?_eq_some_iff.mp hf
  have hpath : SiteRoot.joinAll s.root ((SiteRoot.names decoded).map Utf8.encode) =
      SiteRoot.joinAll s.root (steps (spelled r.path)) := by
    rw [SiteRoot.map_encode_names, ← Utf8.decode?_eq_some_iff.mp hdecoded]
    exact congrArg _ (steps_dropWhile r.path)
  rw [serveBelow, hdecoded]
  simp only [hpath, slashAfterSlashes_iff hdecoded]

namespace Agrees
variable (h : s.Agrees t' f)
include h

theorem hasIndex : (s.withTree t').hasIndex f = s.hasIndex f := by
  have hnames : ∀ n ∈ indexNames, EntryName n := by decide
  unfold Site.hasIndex
  rw [Bool.eq_iff_iff, List.any_eq_true, List.any_eq_true]
  refine exists_congr fun n => and_congr_right fun hn => ?_
  rw [withTree_isFile, h.childFile n (hnames n hn)]

theorem directoryDocument? : (s.withTree t').directoryDocument? f = s.directoryDocument? f := by
  unfold Site.directoryDocument?
  rw [withTree_tree, withTree_base, h.list]
  cases hns : s.tree.list s.base f with
  | error e => rfl
  | ok ns =>
    refine congrArg chooseDocument (List.filter_congr fun n hn => ?_)
    rw [withTree_isFile, h.childFile n (h.entryName ns hns n hn)]

theorem listing (p : Text) : (s.withTree t').list f p = s.list f p := by
  have hentries : Listing.entries t' s.base f = Listing.entries s.tree s.base f := by
    unfold Listing.entries
    rw [h.list]
    cases hns : s.tree.list s.base f with
    | error e => rfl
    | ok ns =>
      refine congrArg (fun es => Except.ok (Listing.sort es)) (List.map_congr_left fun n hn => ?_)
      exact congrArg _ (h.childDirectory n (h.entryName ns hns n hn))
  exact congrArg (Except.map _) hentries

theorem serveBelow (hf : s.resolve? r.path = some f) :
    (s.withTree t').serveBelow r = s.serveBelow r := by
  have hindex := h.childRead indexName List.mem_cons_self
  rw [serveBelow_of_resolve? hf, serveBelow_of_resolve? (s := s.withTree t') hf]
  simp only [withTree_isDirectory, h.isDirectory, serve_congr h.read, serve_congr hindex]

theorem serveStatic (hf : s.resolve? r.path = some f) :
    (s.withTree t').serveStatic r = s.serveStatic r := by
  have hindex := h.childFile indexName entryName_indexName
  simp only [Site.serveStatic, withTree_resolve?, withTree_isDirectory, withTree_isFile, hf,
    h.isDirectory, hindex, h.listing, h.serveBelow hf]

end Agrees

end Site

/-! ### Runs -/

def World.withTree (w : World) (t : FileTree) : World := { w with site := w.site.withTree t }

@[simp] theorem World.withTree_site (w : World) (t : FileTree) :
    (w.withTree t).site = w.site.withTree t := rfl

variable {w : World} {r r' : Request} {t' : FileTree} {q : Place} {c c' : Bytes} {m m' : Instant}

namespace Stage

theorem runBrowse_congr {s : Site} (h : ∀ f, s.resolve? r.path = some f → s.Agrees t' f) :
    runBrowse (s.withTree t') r = runBrowse s r := by
  unfold runBrowse
  split
  · rfl
  rw [Site.withTree_resolve?]
  cases hf : s.resolve? r.path with
  | none => rfl
  | some f =>
    have h := h f hf
    simp only [Site.withTree_isDirectory, Site.withTree_isFile, h.isDirectory, h.isFile, h.listing,
      Site.serve_congr h.read]

theorem runMarkdown_congr {s : Site} (h : ∀ f, s.resolve? r.path = some f → s.Agrees t' f)
    (disableListing directoryDocuments : Bool) :
    runMarkdown (s.withTree t') disableListing directoryDocuments r =
      runMarkdown s disableListing directoryDocuments r := by
  unfold runMarkdown
  rw [Site.withTree_resolve?]
  cases hf : s.resolve? r.path with
  | none => rfl
  | some f =>
    have h := h f hf
    simp only [Site.withTree_isDirectory, Site.withTree_isFile, h.isDirectory, h.isFile, h.hasIndex,
      h.directoryDocument?, Site.document?_congr h.read]
    cases hn : s.directoryDocument? f with
    | none => rfl
    | some n =>
      have hread := h.childRead n (List.mem_cons_of_mem _ (Option.mem_toList.mpr hn))
      simp only [Site.document?_congr hread]

theorem run_withTree (h : ∀ f, w.site.resolve? r.path = some f → w.site.Agrees t' f)
    (stage : Stage) : stage.run (w.withTree t') r = stage.run w r := by
  cases stage with
  | initialFile target => rfl
  | browse => exact runBrowse_congr h
  | markdown disableListing directoryDocuments =>
    exact runMarkdown_congr h disableListing directoryDocuments
  | directoryGuard => rfl
  | proxy routes => rfl

theorem eq_of_orPass {o : Option Response} (h : Outcome.orPass r o = .passed r') : r' = r := by
  cases o with
  | none => exact (Outcome.passed.inj h).symm
  | some x => cases h

/-- Only the initial file puts another request in the place of the one it gets. -/
theorem eq_of_passed {stage : Stage} (hs : ∀ target, stage ≠ .initialFile target)
    (h : stage.run w r = .passed r') : r' = r := by
  have hpassed {x : Request} (h : Outcome.passed r = .passed x) : x = r :=
    (Outcome.passed.inj h).symm
  cases stage with
  | initialFile target => exact absurd rfl (hs target)
  | browse =>
    unfold run runBrowse at h
    dsimp only at h
    split at h
    · exact hpassed h
    split at h
    · exact hpassed h
    split at h
    · split at h
      · exact eq_of_orPass h
      · exact hpassed h
    · split at h
      · cases h
      · exact hpassed h
  | markdown disableListing directoryDocuments =>
    unfold run runMarkdown at h
    dsimp only at h
    split at h
    · exact hpassed h
    split at h
    · split at h
      · exact hpassed h
      split at h
      · exact eq_of_orPass h
      · split at h
        · cases h
        · exact hpassed h
    · split at h
      · exact eq_of_orPass h
      · exact hpassed h
  | directoryGuard =>
    unfold run at h
    dsimp only at h
    split at h
    · cases h
    · exact hpassed h
  | proxy routes =>
    unfold run runProxy at h
    dsimp only at h
    split at h
    · exact hpassed h
    · split at h
      · cases h
      · cases h

end Stage

theorem Pipeline.run_withTree (h : ∀ f, w.site.resolve? r.path = some f → w.site.Agrees t' f)
    {stages : List Stage} (hs : ∀ stage ∈ stages, ∀ target, stage ≠ .initialFile target) :
    run (w.withTree t') stages r = run w stages r := by
  induction stages with
  | nil =>
    rw [run, run, World.withTree_site]
    cases hf : w.site.resolve? r.path with
    | none => simp only [Site.serveStatic, Site.withTree_resolve?, hf]
    | some f => rw [(h f hf).serveStatic hf]
  | cons stage stages ih =>
    rw [run, run, Stage.run_withTree h stage]
    cases hr : stage.run w r with
    | handled a => rfl
    | passed r' =>
      obtain rfl := Stage.eq_of_passed (hs stage List.mem_cons_self) hr
      exact ih fun stage hm => hs stage (List.mem_cons_of_mem _ hm)

namespace Dispatch
variable {d : Dispatch}

theorem ne_initialFile_of_mem_policies {stage : Stage} (h : stage ∈ d.policies) (target : Text) :
    stage ≠ .initialFile target := by
  rintro rfl
  unfold policies later at h
  split_ifs at h <;> simp at h

theorem answer_withTree
    (h : ∀ f, w.site.resolve? (d.rewritten r).path = some f → w.site.Agrees t' f) :
    d.answer (w.withTree t') r = d.answer w r := by
  rw [answer_eq_run, answer_eq_run]
  exact Pipeline.run_withTree h fun _ hm => ne_initialFile_of_mem_policies hm

/-- Trees that agree on what the request names give one answer. -/
theorem answer_of_agreesOn (ht : w.site.tree.Linkless) (ht' : t'.Linkless)
    (h : w.site.AgreesOn t' (d.rewritten r).path) : d.answer (w.withTree t') r = d.answer w r :=
  answer_withTree fun _ hf => h.agrees ht ht' hf

/-- A file that the request does not name can have any content. -/
theorem answer_set (ht : w.site.tree.Linkless) (hq : w.site.tree.entry? q = some (.file c m))
    (h : ∀ f top, w.site.resolve? (d.rewritten r).path = some f →
      w.site.tree.reach w.site.base w.site.root = .ok top →
      q ≠ top ++ steps (spelled (d.rewritten r).path) ∧
        ∀ n ∈ w.site.shown f, q ≠ top ++ steps (spelled (d.rewritten r).path) ++ [n]) :
    d.answer (w.withTree (w.site.tree.set q (.file c' m'))) r = d.answer w r :=
  answer_of_agreesOn ht (ht.set hq) (Site.agreesOn_set ht hq h)

/-- What is not below the root has no part in any answer. -/
theorem answer_set_of_outside (ht : w.site.tree.Linkless)
    (hq : w.site.tree.entry? q = some (.file c m))
    (hout : ∀ p, w.site.tree.reach w.site.base w.site.root = .ok p → ¬ p <+: q) :
    d.answer (w.withTree (w.site.tree.set q (.file c' m'))) r = d.answer w r := by
  refine answer_set ht hq fun f p hf hp => ⟨?_, ?_⟩
  · rintro rfl
    exact hout p hp (List.prefix_append ..)
  · rintro n - rfl
    exact hout p hp ((List.prefix_append ..).trans (List.prefix_append ..))

/-- A request path leads below the root or nowhere, every list of names is reached, and an answer
shows no file but what the path names, its index page and its document. -/
theorem answer_within_root :
    (∀ root p f, SiteRoot.resolve? root p = some f ↔
      SiteRoot.Stays (spelled p) ∧ f = SiteRoot.joinAll root (steps (spelled p))) ∧
    (∀ root p f, SiteRoot.resolve? root p = some f →
      steps f = steps root ++ steps (spelled p) ∧ [0x2E, 0x2E] ∉ steps (spelled p) ∧ root <+: f) ∧
    (∀ root (set : UInt8 → Bool) (ns : List Text), set 0x25 = true →
      (∀ n ∈ ns, SiteRoot.Reachable n) → SiteRoot.resolve? root
          (Text.join ['/'] (ns.map fun n => Percent.encode set (Utf8.encode n))) =
        some (SiteRoot.joinAll root (ns.map Utf8.encode))) ∧
    (∀ (s : Site) p f q, s.tree.Linkless → s.resolve? p = some f → s.tree.locate s.base f = .ok q →
      ∃ top, s.tree.reach s.base s.root = .ok top ∧ q = top ++ steps (spelled p)) ∧
    (∀ (d : Dispatch) (w : World) r t', w.site.tree.Linkless → t'.Linkless →
      w.site.AgreesOn t' (d.rewritten r).path → d.answer (w.withTree t') r = d.answer w r) := by
  refine ⟨fun _ _ _ => SiteRoot.resolve?_eq_some_iff, fun _ _ _ => SiteRoot.steps_of_resolve?, ?_,
    ?_, fun _ _ _ _ => answer_of_agreesOn⟩
  · intro root set ns hset hns
    exact SiteRoot.resolve?_join hns fun n _ => Percent.decode_encode hset (Utf8.encode n)
  · intro s p f q ht hf hq
    obtain ⟨hstays, rfl⟩ := SiteRoot.resolve?_eq_some_iff.mp hf
    exact ht.locate_below (fun _ => hstays.entryName) hq

/-- The notes beside the guide have no part in the answer for `/`. -/
theorem answer_guide_of_notes :
    let s := Site.ofTexts [(["guide.md"], "# Guide"), (["notes", "a.txt"], "a")]
    let w : World := ⟨s, .offline, true⟩
    let r := Request.get "/"
    let q : Place := ["srv", "notes", "a.txt"].map fun n => Utf8.encode n.toList
    let t' := s.tree.set q (.file [] ⟨1, 0⟩)
    s.resolve? (guide.rewritten r).path = some (Utf8.encode "/srv/guide.md".toList) ∧
      s.tree.entry? q ≠ t'.entry? q ∧ s.tree.Linkless ∧ t'.Linkless ∧
      s.AgreesOn t' (guide.rewritten r).path ∧
      guide.answer (w.withTree t') r = guide.answer w r := by
  intro s w r q t'
  have ht : s.tree.Linkless := by decide +kernel
  have hq : s.tree.entry? q = some (.file (Utf8.encode "a".toList) ⟨0, 0⟩) := by rfl
  have htop : s.tree.reach s.base s.root = .ok [Utf8.encode "srv".toList] := by rfl
  have hplace : [Utf8.encode "srv".toList] ++ steps (spelled (guide.rewritten r).path) =
      ["srv", "guide.md"].map fun n => Utf8.encode n.toList := by rfl
  have ha : s.AgreesOn t' (guide.rewritten r).path := by
    refine Site.agreesOn_set ht hq fun f top hf' htop' => ?_
    obtain rfl := Except.ok.inj (htop.symm.trans htop')
    rw [hplace]
    refine ⟨by decide +kernel, fun n _ h => ?_⟩
    have htake : q.take 2 = ["srv", "guide.md"].map fun n => Utf8.encode n.toList :=
      congrArg (List.take 2) h
    exact absurd htake (by decide +kernel)
  exact ⟨by rfl, by decide +kernel, ht, ht.set hq, ha,
    answer_within_root.2.2.2.2 guide w r t' ht (ht.set hq) ha⟩

end Dispatch

end SiteGateway
