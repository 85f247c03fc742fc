import SiteGateway.Proofs.Html.Escape
import SiteGateway.Site.Listing

/-!
# What a listing tells

A listing is taken apart at its fixed marks (`Listing.read?`). Each mark begins with a character
that no escaped text holds, so the first place where it is found is the place where it was written,
and one item after another is read back (`readItem?_item`). A page so tells the path that it was
made for, and of every entry where its link leads and what is shown (`read?_page`).
-/

namespace SiteGateway

namespace Listing
variable {t r : Text}

/-- What stands in a list item, its escapes undone. -/
structure Item where
  href : Text
  label : Text
deriving DecidableEq, Repr

/-- What stands on a page, its escapes undone. -/
structure Shown where
  title : Text
  heading : Text
  items : List Item
deriving DecidableEq, Repr

/-- The item that a text starts with, and what follows it. -/
def readItem? (t : Text) : Option (Item × Text) := do
  let t ← Text.after? "<li><a href=\"".toList t
  let (href, t) ← Text.cutAt? "\">".toList t
  let (label, t) ← Text.cutAt? "</a></li>".toList t
  return (⟨Html.unescape href, Html.unescape label⟩, t)

theorem length_of_readItem? {i : Item} (h : readItem? t = some (i, r)) : r.length < t.length := by
  unfold readItem? at h
  obtain ⟨t₁, h₁, h⟩ := Option.bind_eq_some_iff.mp h
  obtain ⟨⟨href, t₂⟩, h₂, h⟩ := Option.bind_eq_some_iff.mp h
  obtain ⟨⟨label, t₃⟩, h₃, h⟩ := Option.bind_eq_some_iff.mp h
  obtain rfl : t₃ = r := (Prod.mk.inj (Option.some.inj h)).2
  rw [Text.after?_eq_some_iff.mp h₁, Text.eq_append_of_cutAt? h₂, Text.eq_append_of_cutAt? h₃]
  have hmark : 0 < "<li><a href=\"".toList.length := by decide
  simp only [List.length_append]
  omega

/-- Items up to the end of a page. -/
def readItems? (t : Text) : Option (List Item) :=
  match _h : readItem? t with
  | some (i, r) => (readItems? r).map (i :: ·)
  | none => if t = "</ul></body></html>".toList then some [] else none
termination_by t.length
decreasing_by exact length_of_readItem? ‹_›

/-- A page taken apart. -/
def read? (page : Text) : Option Shown := do
  let t ← Text.after?
    "<!DOCTYPE html><html lang=\"en\"><head><meta charset=\"utf-8\"><title>Index of ".toList page
  let (title, t) ← Text.cutAt? "</title></head><body><h1>Index of ".toList t
  let (heading, t) ← Text.cutAt? "</h1><ul>".toList t
  let items ← readItems? t
  return ⟨Html.unescape title, Html.unescape heading, items⟩

/-! ### Reading a page -/

theorem readItem?_item (path : Text) (e : ListingEntry) (r : Text) :
    readItem? (item path e ++ r) = some (⟨link path e, label e⟩, r) := by
  have hhref := Text.cutAt?_append (by decide : "\">".toList.head? = some '"')
    (Html.not_mem_escape (by decide) (link path e))
  have hlabel := Text.cutAt?_append (by decide : "</a></li>".toList.head? = some '<')
    (Html.not_mem_escape (by decide) (label e))
  unfold readItem? item
  simp only [List.append_assoc]
  refine Option.bind_eq_some_iff.mpr ⟨_, Text.after?_eq_some_iff.mpr rfl, ?_⟩
  refine Option.bind_eq_some_iff.mpr ⟨_, hhref _, ?_⟩
  refine Option.bind_eq_some_iff.mpr ⟨_, hlabel r, ?_⟩
  rw [Html.unescape_escape, Html.unescape_escape]
  rfl

theorem readItems?_of_readItem? {i : Item} (h : readItem? t = some (i, r)) :
    readItems? t = (readItems? r).map (i :: ·) := by
  rw [readItems?]
  split
  next i' r' h' =>
    obtain ⟨rfl, rfl⟩ := Prod.mk.inj (Option.some.inj (h'.symm.trans h))
    rfl
  next h' => rw [h'] at h; cases h

theorem readItems?_end : readItems? "</ul></body></html>".toList = some [] := by
  have hnone : readItem? "</ul></body></html>".toList = none := by decide
  rw [readItems?]
  split
  next h => rw [hnone] at h; cases h
  next => rfl

theorem readItems?_flatMap (path : Text) (es : List ListingEntry) :
    readItems? (es.flatMap (item path) ++ "</ul></body></html>".toList) =
      some (es.map fun e => ⟨link path e, label e⟩) := by
  induction es with
  | nil => exact readItems?_end
  | cons e es ih =>
    rw [List.flatMap_cons, List.append_assoc, readItems?_of_readItem? (readItem?_item path e _), ih]
    rfl

theorem read?_page (path : Text) (es : List ListingEntry) :
    read? (page path es) = some ⟨path, path, es.map fun e => ⟨link path e, label e⟩⟩ := by
  have htitle := Text.cutAt?_append
    (by decide : "</title></head><body><h1>Index of ".toList.head? = some '<')
    (Html.not_mem_escape (by decide) path)
  have hheading := Text.cutAt?_append (by decide : "</h1><ul>".toList.head? = some '<')
    (Html.not_mem_escape (by decide) path)
  unfold read? page
  simp only [List.append_assoc]
  refine Option.bind_eq_some_iff.mpr ⟨_, Text.after?_eq_some_iff.mpr rfl, ?_⟩
  refine Option.bind_eq_some_iff.mpr ⟨_, htitle _, ?_⟩
  refine Option.bind_eq_some_iff.mpr ⟨_, hheading _, ?_⟩
  refine Option.bind_eq_some_iff.mpr ⟨_, readItems?_flatMap path es, ?_⟩
  rw [Html.unescape_escape]
  rfl

/-! ### Where its links lead -/

/-- A path and a name with one slash between them. -/
def below (path name : Text) : Text :=
  (if path.getLast? = some '/' then path.dropLast else path) ++ '/' :: name

/-- An entry below a path, with a slash behind a directory. -/
def slashed (path : Text) (e : ListingEntry) : Text :=
  below path e.name ++ (if e.isDirectory then ['/'] else [])

theorem joinLink_eq_below (path name : Text) : joinLink path name = below path name := by
  rw [joinLink, below]
  split
  next h =>
    obtain ⟨front, rfl⟩ := List.getLast?_eq_some_iff.mp h
    rw [List.dropLast_concat, List.append_assoc, List.singleton_append]
  next => rfl

theorem getLast?_below_eq_iff (path : Text) {name : Text} :
    (below path name).getLast? = some '/' ↔ name = [] ∨ name.getLast? = some '/' := by
  rw [below, List.getLast?_append, List.getLast?_cons]
  cases name.eq_nil_or_concat with
  | inl h => simp [h]
  | inr h =>
    obtain ⟨front, c, rfl⟩ := h
    simp

theorem link_eq (path : Text) (e : ListingEntry) :
    link path e = if e.isDirectory ∧ (e.name = [] ∨ e.name.getLast? = some '/') then
      below path e.name else slashed path e := by
  simp only [link, joinLink_eq_below, slashed, ← getLast?_below_eq_iff path]
  cases e.isDirectory <;> simp [ite_not]

/-- A listing tells the path it was made for twice, and in their order all its entries: what is
shown is the name, and the link leads below the path, both with a slash behind a directory. Only a
directory whose name leaves a slash at the end of the link gets no second one. No name can pass for
anything else on the page, as no title can in a document. -/
theorem page_tells_all :
    (∀ path es, read? (page path es) = some ⟨path, path, es.map fun e =>
      ⟨if e.isDirectory ∧ (e.name = [] ∨ e.name.getLast? = some '/') then below path e.name
        else slashed path e,
       e.name ++ (if e.isDirectory then ['/'] else [])⟩⟩) ∧
    ∀ title body, Html.title? (Html.document title body) = some title := by
  refine ⟨fun path es => ?_, Html.title?_document⟩
  rw [read?_page]
  simp only [link_eq, label]

/-- A page tells of links with a slash behind every directory. -/
def TellsSlashed (path : Text) (es : List ListingEntry) : Prop :=
  read? (page path es) = some ⟨path, path, es.map fun e =>
    ⟨slashed path e, e.name ++ (if e.isDirectory then ['/'] else [])⟩⟩

/-- The link to a directory named `x/` ends in one slash. -/
theorem not_forall_tellsSlashed : ¬ ∀ path es, TellsSlashed path es := by
  intro h
  have hpage := h ['/'] [⟨['x', '/'], true⟩]
  rw [TellsSlashed, read?_page] at hpage
  exact absurd hpage (by decide)

end Listing

end SiteGateway
