import SiteGateway.Site.Document

/-!
# Whole files

A request without conditions and ranges gets the whole file, and the pieces that it is sent in are
the file (`StaticFile.serve_of_read`); a Markdown file gives its whole document
(`Site.document?_of_read`). Both want a date that names the last change of the file; without one
there is no answer.
-/

namespace SiteGateway

/-- No header asks for a part of a file, or for a file only if the client needs it. -/
def Request.AsksForAll (r : Request) : Prop :=
  ∀ name ∈ ["if-modified-since", "if-unmodified-since", "range"],
    r.headers.contains name.toList = false

theorem Headers.text?_of_contains_eq_false {hs : Headers} {name : HeaderName}
    (h : hs.contains name = false) : hs.text? name = none := by
  rw [Headers.contains, Option.isSome_eq_false_iff, Option.isNone_iff_eq_none] at h
  rw [Headers.text?, h]
  rfl

theorem Request.AsksForAll.text?_eq_none {r : Request} (h : r.AsksForAll) {name : String}
    (hn : name ∈ ["if-modified-since", "if-unmodified-since", "range"]) :
    r.headers.text? name.toList = none :=
  Headers.text?_of_contains_eq_false (h name hn)

namespace StaticFile
variable {site : Site} {path bytes : Bytes} {modified : Instant} {r : Request}

theorem flatten_chunks (bytes : Bytes) : (chunks bytes).flatten = bytes := by
  fun_induction chunks bytes with
  | case1 bytes h => rw [List.isEmpty_iff.mp h, List.flatten_nil]
  | case2 bytes h ih => rw [List.flatten_cons, ih, List.take_append_drop]

theorem precondition?_of_asksForAll (h : r.AsksForAll) (modified : Instant) :
    precondition? r modified = none := by
  have hu : date? r "if-unmodified-since" = none := by
    rw [date?, h.text?_eq_none (by decide)]
    rfl
  have hm : date? r "if-modified-since" = none := by
    rw [date?, h.text?_eq_none (by decide)]
    rfl
  rw [precondition?, hu, hm]
  rfl

theorem serve_of_reaches (ha : allows r = true)
    (h : site.tree.read site.base path = .ok (bytes, modified))
    (hm : HttpDate.reaches modified.seconds = true) :
    serve site path r = (precondition? r modified).getD
      (content r (MediaType.ofExtension ((FileName.ofPath? path).bind FileName.extension?)) bytes
        modified) := by
  rw [serve, ha, h]
  simp only [hm, Bool.not_true, Bool.false_eq_true, if_false]

theorem serve_of_not_reaches (ha : allows r = true)
    (h : site.tree.read site.base path = .ok (bytes, modified))
    (hm : HttpDate.reaches modified.seconds = false) : serve site path r = .abort := by
  rw [serve, ha, h]
  simp only [hm, Bool.not_true, Bool.false_eq_true, if_false, Bool.not_false, if_true]

theorem serve_of_read (ha : allows r = true) (hr : r.AsksForAll)
    (h : site.tree.read site.base path = .ok (bytes, modified))
    (hm : HttpDate.reaches modified.seconds = true) :
    (serve site path r).status = 200 ∧ (serve site path r).body.sized = false ∧
      (serve site path r).body.bytes = bytes := by
  have hrange : r.headers.text? "range".toList = none := hr.text?_eq_none (by decide)
  rw [serve_of_reaches ha h hm, precondition?_of_asksForAll hr, Option.getD_none, content]
  simp only [hrange]
  exact ⟨trivial, rfl, flatten_chunks bytes⟩

theorem status_serve_of_error {e : FileFault} (h : site.tree.read site.base path = .error e) :
    (serve site path r).status ≠ 200 := by
  unfold serve
  split
  · exact (by decide : (405 : Nat) ≠ 200)
  · rw [h]
    change (unreadable e).status ≠ 200
    cases e <;> decide

end StaticFile

namespace Site
variable {s : Site} {r : Request} {path source : Bytes} {modified : Instant}

theorem document?_of_not_reaches (h : s.tree.read s.base path = .ok (source, modified))
    (hm : Page.reaches modified.seconds = false) : s.document? r.headers path = some .abort := by
  rw [document?, h]
  simp only [Page.respond, hm, Bool.not_false, if_true]

theorem document?_of_read (hr : r.AsksForAll)
    (h : s.tree.read s.base path = .ok (source, modified))
    (hm : Page.reaches modified.seconds = true) :
    ∃ page, s.document? r.headers path = some page ∧ page.status = 200 ∧
      page.body.bytes = Utf8.encode
        (Html.document (titleOfPath path) (Markdown.toHtml (Utf8.decodeLossy source))) := by
  have hcurrent : Page.isCurrent r.headers modified = false := by
    rw [Page.isCurrent, hr.text?_eq_none (by decide)]
    rfl
  refine ⟨_, by rw [document?, h], ?_⟩
  rw [Page.respond, hm, hcurrent]
  exact ⟨rfl, Body.bytes_full _⟩

end Site

end SiteGateway
