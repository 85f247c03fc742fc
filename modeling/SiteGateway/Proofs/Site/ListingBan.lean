import SiteGateway.Proofs.Site.Policy

/-!
# The ban of listings

A listing is made in two places, when browsing and by the static files; `Pipeline.Lists` says that
a run comes to one of them, and the listing is then the answer (`Dispatch.answer_of_lists`). The ban
is kept by a third one: the Markdown stage refuses directories without an index page, the directory
guard all of them. The static files take only `index.html` for an index page and the Markdown stage
`index.htm` as well, so the ban has a gap, and `Dispatch.lists_iff` says exactly where it lies.
-/

namespace SiteGateway

namespace Site
variable {s : Site} {p : Text} {f : Bytes}

/-- A directory that the static files list. -/
def listed? (s : Site) (p : Text) : Option Bytes :=
  (s.directory? p).filter fun f => !s.isFile (child f indexName)

theorem directory?_eq_some_iff :
    s.directory? p = some f ↔
      s.resolve? p = some f ∧ asksDirectory p = true ∧ s.isDirectory f = true := by
  simp [directory?, Option.filter_eq_some_iff]

theorem listed?_eq_some_iff :
    s.listed? p = some f ↔
      s.directory? p = some f ∧ s.isFile (child f indexName) = false := by
  simp [listed?, Option.filter_eq_some_iff]

theorem not_isSuffixOf_of_asksDirectory (h : asksDirectory p = true) :
    "/index.html".toList.isSuffixOf p = false := by
  rw [← Bool.not_eq_true, List.isSuffixOf_iff_suffix]
  rintro ⟨q, rfl⟩
  have hl : "/index.html".toList.getLast? = some 'l' := by decide
  rw [asksDirectory, List.getLast?_append, hl] at h
  simp at h

theorem serveStatic_of_listed? {r : Request} (h : s.listed? r.path = some f) :
    ∃ page, s.list f r.path = .ok page ∧ s.serveStatic r = page := by
  obtain ⟨hd, hi⟩ := listed?_eq_some_iff.mp h
  obtain ⟨hf, ha, hd⟩ := directory?_eq_some_iff.mp hd
  obtain ⟨page, hpage⟩ := list_of_isDirectory hd r.path
  refine ⟨page, hpage, ?_⟩
  have hl : (asksDirectory r.path && s.isDirectory f && !s.isFile (child f indexName)) = true := by
    simp [ha, hd, hi]
  rw [serveStatic, hf]
  simp only [not_isSuffixOf_of_asksDirectory ha, hl, Bool.false_eq_true, if_false, if_true, hpage]

end Site

/-- The run of some stages comes to a listing of the directory at `f`. -/
inductive Pipeline.Lists (w : World) : List Stage → Request → Bytes → Prop
  | browse {stages : List Stage} {r : Request} {f : Bytes}
      (h : w.site.directory? r.path = some f) : Lists w (.browse :: stages) r f
  | static {r : Request} {f : Bytes} (h : w.site.listed? r.path = some f) : Lists w [] r f
  | pass {stage : Stage} {stages : List Stage} {r r' : Request} {f : Bytes}
      (hs : stage.run w r = .passed r') (h : Lists w stages r' f) : Lists w (stage :: stages) r f

namespace Pipeline.Lists
variable {w : World} {stages : List Stage} {r : Request} {f : Bytes}

theorem run_eq (h : Lists w stages r f) :
    ∃ p page, w.site.list f p = .ok page ∧ run w stages r = ⟨page, []⟩ := by
  induction h with
  | @browse stages r f h =>
    obtain ⟨hf, ha, hd⟩ := Site.directory?_eq_some_iff.mp h
    obtain ⟨page, hpage⟩ := Site.list_of_isDirectory hd r.path
    refine ⟨r.path, page, hpage, ?_⟩
    have hp : r.path ≠ [] := by
      intro hp
      simp [hp, Site.asksDirectory] at ha
    simp [run, Stage.run, Stage.runBrowse, hp, hf, ha, hd, hpage, Except.toOption, Outcome.orPass,
      Outcome.answer]
  | @static r f h =>
    obtain ⟨page, hpage, hs⟩ := Site.serveStatic_of_listed? h
    exact ⟨r.path, page, hpage, by rw [run, hs]⟩
  | pass hs _ ih =>
    obtain ⟨p, page, hpage, hrun⟩ := ih
    exact ⟨p, page, hpage, by rw [run, hs]; exact hrun⟩

end Pipeline.Lists

namespace Dispatch
variable {w : World} {r : Request} {d : Dispatch} {f : Bytes}

/-- The run that a configuration calls for comes to a listing of the directory at `f`. -/
def Lists (d : Dispatch) (w : World) (r : Request) (f : Bytes) : Prop :=
  Pipeline.Lists w d.stages r f

/-- A listing that a run comes to is its answer. -/
theorem answer_of_lists (h : d.Lists w r f) :
    ∃ p page, w.site.list f p = .ok page ∧ d.answer w r = ⟨page, []⟩ :=
  Pipeline.Lists.run_eq h

/-- Without browsing, the stages are those after it once the path is settled. -/
theorem lists_iff_later (hb : d.browse = false) :
    d.Lists w r f ↔ Pipeline.Lists w d.later (d.rewritten r) f := by
  unfold Lists stages later rewritten
  cases d.initialFile with
  | none => simp [hb]
  | some file =>
    have hrun : (Stage.initialFile (InitialFile.target file)).run w r =
        .passed (if r.path = ['/'] then
          { r with target := r.target.withPath (InitialFile.target file) } else r) := by
      by_cases hp : r.target.path = ['/'] <;>
        simp [Stage.run, InitialFile.retarget, Request.path, hp]
    simp only [hb, Bool.not_false, Bool.true_and, Bool.false_eq_true, if_false, beq_iff_eq,
      List.singleton_append]
    refine ⟨fun h => ?_, fun h => .pass hrun h⟩
    cases h with
    | pass hp h => rw [hrun] at hp; cases hp; exact h

end Dispatch

end SiteGateway
