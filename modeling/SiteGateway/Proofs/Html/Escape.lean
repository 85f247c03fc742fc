import SiteGateway.Html.Escape
import SiteGateway.Proofs.Text.Split

/-!
# Escapes undone

Every text is read back from its escaped form (`unescape_escape`), which holds none of the
characters that end an element or a quoted value (`not_mem_escape`). So what follows an escaped text
begins where the first such character stands, whatever the text was: the title of a document is read
back from it (`title?_document`).
-/

namespace SiteGateway

namespace Html
variable {c : Char}

/-- Puts the five characters in the place of their entities; any other ampersand stays. -/
def unescape : Text → Text
  | '&' :: 'a' :: 'm' :: 'p' :: ';' :: t => '&' :: unescape t
  | '&' :: 'l' :: 't' :: ';' :: t => '<' :: unescape t
  | '&' :: 'g' :: 't' :: ';' :: t => '>' :: unescape t
  | '&' :: 'q' :: 'u' :: 'o' :: 't' :: ';' :: t => '"' :: unescape t
  | '&' :: '#' :: '3' :: '9' :: ';' :: t => '\'' :: unescape t
  | c :: t => c :: unescape t
  | [] => []

theorem unescape_cons (hc : c ≠ '&') (t : Text) : unescape (c :: t) = c :: unescape t := by
  conv => lhs; unfold unescape
  split <;> simp_all

theorem unescape_escapeChar_append (c : Char) (t : Text) :
    unescape (escapeChar c ++ t) = c :: unescape t := by
  unfold escapeChar
  split
  case h_6 _ hamp _ _ _ _ => exact unescape_cons hamp t
  all_goals rfl

theorem unescape_escape (t : Text) : unescape (escape t) = t := by
  induction t with
  | nil => rfl
  | cons c t ih => rw [escape, List.flatMap_cons, unescape_escapeChar_append, ← escape, ih]

theorem not_mem_escapeChar (hc : c ∈ ['<', '>', '"', '\'']) (d : Char) : c ∉ escapeChar d := by
  unfold escapeChar
  split
  case h_6 hamp hlt hgt hquot hapos =>
    intro h
    obtain rfl := List.mem_singleton.mp h
    simp_all
  all_goals
    simp only [List.mem_cons, List.not_mem_nil, or_false] at hc
    obtain rfl | rfl | rfl | rfl := hc <;> decide

theorem not_mem_escape (hc : c ∈ ['<', '>', '"', '\'']) (t : Text) : c ∉ escape t := by
  intro h
  obtain ⟨d, -, hd⟩ := List.mem_flatMap.mp h
  exact not_mem_escapeChar hc d hd

/-- The title of a document. -/
def title? (page : Text) : Option Text := do
  let t ← Text.after?
    "<!DOCTYPE html><html lang=\"en\"><head><meta charset=\"utf-8\"><title>".toList page
  let (title, _) ← Text.cutAt? "</title></head><body>".toList t
  return unescape title

theorem title?_document (title body : Text) : title? (document title body) = some title := by
  have hcut := Text.cutAt?_append (by decide : "</title></head><body>".toList.head? = some '<')
    (not_mem_escape (by decide) title)
  unfold title? document
  rw [List.append_assoc, List.append_assoc, List.append_assoc]
  refine Option.bind_eq_some_iff.mpr ⟨_, Text.after?_eq_some_iff.mpr rfl, ?_⟩
  refine Option.bind_eq_some_iff.mpr ⟨_, hcut _, ?_⟩
  exact congrArg some (unescape_escape title)

end Html

end SiteGateway
