import SiteGateway.Proofs.Route.Backend
import SiteGateway.Proofs.Route.Building

/-!
# The authority that is checked and the authority that is read

The check of a backend scans the text as it is written: from the first `://` to the next slash,
question mark or number sign (`Route.Checked`). The reader of URLs goes through another text: no
control characters around it, no tabs and line ends in it, slashes for backslashes (`Url.asRead`).
Where the `://` of the check belongs to the scheme, both scans begin at one place, and the reader
ends at the first backslash if it finds one (`Route.namesAuthority_asRead_iff`). Where a colon
stands before it, the reader is done before the check begins (`Route.namesAuthority_append_iff`).
`Route.parse_namesAuthority_iff` puts the two together.
-/

namespace SiteGateway

namespace Url
variable {t x y : Text}

/-- A character as the reader takes it: a backslash counts as a slash. -/
def slashed (c : Char) : Char := if c = '\\' then '/' else c

/-- What the reader keeps of a part of a URL. -/
def kept (t : Text) : Text := (withoutLineBreaks t).map slashed

/-- A control character or a space. -/
def isControl (c : Char) : Bool := c.toNat ≤ 0x20

/-- A URL with a scheme of the web as its reader goes through it. -/
def asRead (t : Text) : Text := kept (Text.trimBy isControl t)

theorem kept_append (x y : Text) : kept (x ++ y) = kept x ++ kept y := by
  rw [kept, withoutLineBreaks, List.filter_append, List.map_append]
  rfl

theorem kept_colon_cons (t : Text) : kept (':' :: t) = ':' :: kept t := rfl

theorem kept_slash_cons (t : Text) : kept ('/' :: t) = '/' :: kept t := rfl

theorem colon_mem_kept_iff : ':' ∈ kept t ↔ ':' ∈ t := by
  rw [kept, withoutLineBreaks, List.mem_map]
  constructor
  · rintro ⟨c, hc, h⟩
    rw [slashed] at h
    split at h
    · cases h
    · exact h ▸ List.mem_of_mem_filter hc
  · exact fun h => ⟨':', List.mem_filter.mpr ⟨h, rfl⟩, rfl⟩

theorem colon_mem_dropWhile_iff : ':' ∈ t.dropWhile isControl ↔ ':' ∈ t := by
  refine ⟨fun h => (List.dropWhile_suffix isControl).subset h, fun h => ?_⟩
  rw [← List.takeWhile_append_dropWhile (p := isControl) (l := t)] at h
  refine (List.mem_append.mp h).resolve_left fun hcolon => ?_
  exact absurd (List.mem_takeWhile_imp hcolon) (by decide)

/-- What stands on either side of a separator is read by itself. -/
theorem asRead_append_separator (x y : Text) :
    asRead (x ++ ("://".toList ++ y)) =
      kept (x.dropWhile isControl) ++ ':' :: '/' :: '/' :: kept (y.rdropWhile isControl) := by
  have hback : ('/' :: '/' :: y).rdropWhile isControl = '/' :: '/' :: y.rdropWhile isControl :=
    Text.rdropWhile_append_cons (x := ['/']) rfl y
  change kept (Text.trimBy isControl (x ++ ':' :: '/' :: '/' :: y)) = _
  rw [Text.trimBy_append_cons rfl, hback, kept_append, kept_colon_cons, kept_slash_cons,
    kept_slash_cons]

theorem asRead_append_colon (x : Text) :
    asRead (x ++ [':']) = kept (x.dropWhile isControl) ++ [':'] := by
  rw [asRead, Text.trimBy_append_cons rfl, kept_append]
  rfl

end Url

namespace Route
open Url (asRead kept isControl kept_append colon_mem_kept_iff colon_mem_dropWhile_iff)
variable {b front x rest s t v w : Text}

/-! ## What is promised of a text -/

/-- The marks at which an authority ends. -/
def endsAuthority (c : Char) : Bool := c == '/' || c == '?' || c == '#'

/-- An authority that is there and does not end in the colon of an empty port. -/
def Sound (x : Text) : Prop := x ≠ [] ∧ x.getLast? ≠ some ':'

instance (x : Text) : Decidable (Sound x) := inferInstanceAs (Decidable (_ ∧ _))

/-- After its scheme and `://` a text has a sound authority, which goes on to the next mark. -/
def NamesAuthority (t : Text) : Prop :=
  ∃ scheme x rest, t = scheme ++ ("://".toList ++ (x ++ rest)) ∧ ':' ∉ scheme ∧
    (∀ c ∈ x, endsAuthority c = false) ∧ (∀ c ∈ rest.head?, endsAuthority c = true) ∧ Sound x

theorem takeWhile_of_stop (hx : ∀ c ∈ x, endsAuthority c = false)
    (hrest : ∀ c ∈ rest.head?, endsAuthority c = true) :
    (x ++ rest).takeWhile (!endsAuthority ·) = x := by
  rw [List.takeWhile_append_of_pos fun c hc => by rw [hx c hc]; rfl]
  cases rest with
  | nil => rw [List.takeWhile_nil, List.append_nil]
  | cons c rest =>
    rw [List.takeWhile_cons_of_neg (by simp [hrest c rfl]), List.append_nil]

theorem inside_takeWhile (t : Text) :
    ∀ c ∈ t.takeWhile (!endsAuthority ·), endsAuthority c = false :=
  fun c hc => by simpa using List.mem_takeWhile_imp hc

theorem stop_dropWhile (t : Text) :
    ∀ c ∈ (t.dropWhile (!endsAuthority ·)).head?, endsAuthority c = true := by
  intro c hc
  have hstop := List.head?_dropWhile_not (!endsAuthority ·) t
  rw [Option.mem_def.mp hc] at hstop
  simpa using hstop

/-- What follows the first colon decides. -/
theorem namesAuthority_append_cons (hs : ':' ∉ s) :
    NamesAuthority (s ++ ':' :: v) ↔
      ∃ w, v = '/' :: '/' :: w ∧ Sound (w.takeWhile (!endsAuthority ·)) := by
  constructor
  · rintro ⟨scheme, x, rest, ht, hscheme, hx, hrest, hsound⟩
    have hcut := congrArg (Text.cut? ':') ht
    change Text.cut? ':' _ = Text.cut? ':' (scheme ++ ':' :: ('/' :: '/' :: (x ++ rest))) at hcut
    rw [Text.cut?_append_cons hs, Text.cut?_append_cons hscheme] at hcut
    obtain ⟨-, rfl⟩ := Prod.mk.inj (Option.some.inj hcut)
    exact ⟨_, rfl, by rwa [takeWhile_of_stop hx hrest]⟩
  · rintro ⟨w, rfl, hsound⟩
    refine ⟨s, w.takeWhile (!endsAuthority ·), w.dropWhile (!endsAuthority ·), ?_, hs,
      inside_takeWhile w, stop_dropWhile w, hsound⟩
    rw [List.takeWhile_append_dropWhile]
    rfl

/-- Behind a first colon, a second one is the end of every authority: the slashes after it and what
they lead to are not looked at. -/
theorem namesAuthority_append_iff (hs : ':' ∈ s) :
    NamesAuthority (s ++ ':' :: '/' :: w) ↔ NamesAuthority (s ++ [':']) := by
  obtain ⟨scheme, y, rfl, hscheme⟩ := List.eq_append_cons_of_mem hs
  have hstop (z : Text) : (z ++ ':' :: '/' :: w).takeWhile (!endsAuthority ·) =
      (z ++ [':']).takeWhile (!endsAuthority ·) := by
    rw [List.append_cons, List.takeWhile_append]
    split
    next hall =>
      rw [List.takeWhile_cons_of_neg (by decide), List.append_nil]
      exact (List.takeWhile_prefix _).eq_of_length hall |>.symm
    next => rfl
  rw [List.append_assoc, List.append_assoc, List.cons_append, List.cons_append,
    namesAuthority_append_cons hscheme, namesAuthority_append_cons hscheme]
  -- two slashes can only be the first two characters between the colons
  match y with
  | [] => simp
  | [c] => simp
  | c :: d :: z =>
    simp only [List.cons_append, List.cons.injEq]
    constructor
    · rintro ⟨_, ⟨hc, hd, rfl⟩, hsound⟩
      exact ⟨_, ⟨hc, hd, rfl⟩, by rwa [← hstop]⟩
    · rintro ⟨_, ⟨hc, hd, rfl⟩, hsound⟩
      exact ⟨_, ⟨hc, hd, rfl⟩, by rwa [hstop]⟩

/-! ## The two scans -/

/-- What the check of a backend finds: a sound authority between the first `://` and the next
mark. -/
structure Checked (b front x rest : Text) : Prop where
  cut : Text.cutAt? "://".toList b = some (front, x ++ rest)
  inside : ∀ c ∈ x, endsAuthority c = false
  stop : ∀ c ∈ rest.head?, endsAuthority c = true
  sound : Sound x

theorem exists_checked (h : writtenAuthority? b = some x) (hx : Sound x) :
    ∃ front rest, Checked b front x rest := by
  obtain ⟨⟨front, z⟩, hcut, rfl⟩ := Option.map_eq_some_iff.mp h
  refine ⟨front, z.dropWhile (!endsAuthority ·), ?_, inside_takeWhile z, stop_dropWhile z, hx⟩
  rw [hcut]
  exact congrArg (fun z => some (front, z)) List.takeWhile_append_dropWhile.symm

/-- What the reader takes of an authority in front of the rest of a text: all up to the first
backslash but tabs and line ends, and no control characters at the end of the text. -/
def seen (x rest : Text) : Text :=
  Url.withoutLineBreaks ((if rest = [] then x.rdropWhile isControl else x).takeWhile (· ≠ '\\'))

theorem endsAuthority_slashed {c : Char} :
    endsAuthority (Url.slashed c) = true ↔ endsAuthority c = true ∨ c = '\\' := by
  by_cases hc : c = '\\'
  · subst hc
    decide
  · rw [Url.slashed, if_neg hc, or_iff_left hc]

/-- The reader ends where the written authority ends, or before that at a backslash. -/
theorem takeWhile_kept (t : Text) : (kept t).takeWhile (!endsAuthority ·) =
    Url.withoutLineBreaks ((t.takeWhile (!endsAuthority ·)).takeWhile (· ≠ '\\')) := by
  have hbreak : ∀ c, (c == '\t' || c == '\n' || c == '\r') = true →
      ¬ endsAuthority (Url.slashed c) = true := by
    simp only [Bool.or_eq_true, beq_iff_eq]
    rintro c ((rfl | rfl) | rfl) <;> decide
  have hstop : (fun c => !(!(c == '\t' || c == '\n' || c == '\r')) ||
      !endsAuthority (Url.slashed c)) =
      fun c => decide (decide (c ≠ '\\') = true ∧ (!endsAuthority c) = true) := by
    funext c
    rw [Bool.eq_iff_iff, Bool.not_not, Bool.or_eq_true, Bool.not_eq_true', ← Bool.not_eq_true,
      or_iff_right_of_imp (hbreak c), endsAuthority_slashed, not_or]
    simp [and_comm]
  rw [kept, Url.withoutLineBreaks, List.takeWhile_map, List.takeWhile_filter,
    List.takeWhile_takeWhile]
  simp only [Function.comp_apply, hstop]
  -- no backslash is left that could become a slash
  refine (List.map_congr_left fun c hc => ?_).trans (List.map_id _)
  have hc := List.mem_takeWhile_imp (List.mem_of_mem_filter hc)
  exact if_neg (of_decide_eq_true (of_decide_eq_true hc).1)

/-- What the reader takes ends where the check has found the end, or before that. -/
theorem takeWhile_rdropWhile (hx : ∀ c ∈ x, endsAuthority c = false)
    (hrest : ∀ c ∈ rest.head?, endsAuthority c = true) :
    ((x ++ rest).rdropWhile isControl).takeWhile (!endsAuthority ·) =
      if rest = [] then x.rdropWhile isControl else x := by
  cases rest with
  | nil =>
    rw [if_pos rfl, List.append_nil, List.takeWhile_eq_self_iff]
    intro c hc
    rw [hx c ((List.rdropWhile_prefix isControl x).subset hc)]
    rfl
  | cons c rest =>
    have hends := hrest c rfl
    have hcontrol : isControl c = false := by
      simp only [endsAuthority, Bool.or_eq_true, beq_iff_eq] at hends
      rcases hends with (rfl | rfl) | rfl <;> rfl
    rw [if_neg nofun, Text.rdropWhile_append_cons hcontrol]
    exact takeWhile_of_stop hx (by rintro _ ⟨⟩; exact hends)

/-- Where the separator is the scheme's, the reader comes to the authority that was checked. -/
theorem namesAuthority_asRead_iff (h : Checked b front x rest) (hfront : ':' ∉ front) :
    NamesAuthority (asRead b) ↔ Sound (seen x rest) := by
  have hscheme : ':' ∉ kept (front.dropWhile isControl) := by
    rwa [colon_mem_kept_iff, colon_mem_dropWhile_iff]
  rw [Text.eq_append_of_cutAt? h.cut, Url.asRead_append_separator,
    namesAuthority_append_cons hscheme, seen, ← takeWhile_rdropWhile h.inside h.stop,
    ← takeWhile_kept]
  simp

/-- Where a colon stands in front of the separator, what is in front of it decides alone. -/
theorem namesAuthority_asRead_front_iff (h : Checked b front x rest) (hfront : ':' ∈ front) :
    NamesAuthority (asRead b) ↔ NamesAuthority (asRead (front ++ [':'])) := by
  have hscheme : ':' ∈ kept (front.dropWhile isControl) := by
    rwa [colon_mem_kept_iff, colon_mem_dropWhile_iff]
  rw [Text.eq_append_of_cutAt? h.cut, Url.asRead_append_separator, Url.asRead_append_colon]
  exact namesAuthority_append_iff hscheme

/-! ## Mappings -/

/-- The backend of a mapping as it is written. -/
def writtenBackend? (m : Text) : Option Text :=
  (Text.cut? '=' (Text.trim m)).map fun (_, backend) => Text.trim backend

theorem readBackend_of_parse {m : Text} {r : Route} (h : parse m = .ok r) :
    ∃ b, writtenBackend? m = some b ∧ readBackend b = .ok r.backend := by
  simp only [parse] at h
  split at h
  · cases h
  split at h
  · cases h
  next p b hcut => exact ⟨Text.trim b, by rw [writtenBackend?, hcut]; rfl, (of_ofParts h).2.2⟩

/-- A backend whose authority, as it is written, is empty or ends in a colon is rejected. As it is
read, the authority of an accepted backend is sound exactly when what the reader takes of the
checked authority is sound, if the check began behind the scheme; if it began further on, exactly
when the text in front of it names a sound authority. -/
theorem parse_namesAuthority_iff (m : Text) :
    (∀ b x, writtenBackend? m = some b → writtenAuthority? b = some x → ¬ Sound x →
      ∃ mapping fault, parse m = .error (.invalid mapping fault)) ∧
    ∀ r, parse m = .ok r → ∃ b front x rest, writtenBackend? m = some b ∧
      Checked b front x rest ∧
      (':' ∉ front → (NamesAuthority (asRead b) ↔ Sound (seen x rest))) ∧
      (':' ∈ front → (NamesAuthority (asRead b) ↔ NamesAuthority (asRead (front ++ [':'])))) := by
  constructor
  · intro b x hb hx hsound
    cases hm : parse m with
    | error e =>
      obtain ⟨mapping, fault, rfl⟩ := exists_invalid_of_parse hm
      exact ⟨mapping, fault, rfl⟩
    | ok r =>
      obtain ⟨_, hb', hread⟩ := readBackend_of_parse hm
      obtain rfl := Option.some.inj (hb.symm.trans hb')
      obtain ⟨-, ⟨_, hx', hsound'⟩, -⟩ := readBackend_eq_ok_iff.mp hread
      obtain rfl := Option.some.inj (hx.symm.trans hx')
      exact absurd hsound' hsound
  · intro r hm
    obtain ⟨b, hb, hread⟩ := readBackend_of_parse hm
    obtain ⟨-, ⟨x, hx, hsound⟩, -⟩ := readBackend_eq_ok_iff.mp hread
    obtain ⟨front, rest, hchecked⟩ := exists_checked hx hsound
    exact ⟨b, front, x, rest, hb, hchecked, namesAuthority_asRead_iff hchecked,
      namesAuthority_asRead_front_iff hchecked⟩

/-- The route that is written `/api=http://us<tab>er@h:80\base?q`. -/
def tabbed : Route where
  pathPrefix := "/api".toList
  backend :=
    { scheme := "http".toList, username := "user".toList, password := [],
      host := some (.domain "h".toList), port := none, path := .segments ["base".toList],
      query := some "q".toList, fragment := none }

/-- A tab inside an authority and a backslash behind it are read past. -/
theorem parse_namesAuthority_tabbed :
    parse "/api=http://us\ter@h:80\\base?q".toList = .ok tabbed ∧
      NamesAuthority (asRead "http://us\ter@h:80\\base?q".toList) := by
  have hparse : parse "/api=http://us\ter@h:80\\base?q".toList = .ok tabbed :=
    Except.toOption_eq_some_iff.mp (by rfl)
  refine ⟨hparse, ?_⟩
  obtain ⟨b, front, x, rest, hb, hchecked, hread, -⟩ := (parse_namesAuthority_iff _).2 _ hparse
  obtain rfl : "http://us\ter@h:80\\base?q".toList = b := Option.some.inj hb
  have hcut : Text.cutAt? "://".toList "http://us\ter@h:80\\base?q".toList =
      some ("http".toList, "us\ter@h:80\\base?q".toList) := by rfl
  obtain ⟨rfl, hrest⟩ := Prod.mk.inj (Option.some.inj (hcut.symm.trans hchecked.cut))
  have hx : "us\ter@h:80\\base".toList = x := by
    rw [← takeWhile_of_stop hchecked.inside hchecked.stop, ← hrest]
    rfl
  obtain rfl := hx
  obtain rfl : "?q".toList = rest := (List.append_right_inj "us\ter@h:80\\base".toList).mp hrest
  exact (hread (by decide)).mpr (by decide)

/-- The route that is written `/api=http://h:\p`. -/
def portless : Route where
  pathPrefix := "/api".toList
  backend :=
    { scheme := "http".toList, username := [], password := [], host := some (.domain "h".toList),
      port := none, path := .segments ["p".toList], query := none, fragment := none }

/-- Not every accepted mapping names its authority: in front of a backslash the port may be
empty. -/
theorem not_forall_namesAuthority :
    ¬ ∀ (m b : Text) (r : Route), parse m = .ok r → writtenBackend? m = some b →
      NamesAuthority (asRead b) := by
  intro h
  have hparse : parse "/api=http://h:\\p".toList = .ok portless :=
    Except.toOption_eq_some_iff.mp (by rfl)
  have hnames : NamesAuthority ("http".toList ++ ':' :: "//h:/p".toList) :=
    h _ "http://h:\\p".toList _ hparse (by rfl)
  obtain ⟨w, hw, hsound⟩ := (namesAuthority_append_cons (by decide)).mp hnames
  obtain rfl : "h:/p".toList = w := by simpa using hw
  exact absurd hsound (by decide)

end Route

end SiteGateway
