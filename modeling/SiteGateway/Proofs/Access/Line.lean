import SiteGateway.Access.Line
import SiteGateway.Access.Log
import SiteGateway.Proofs.Http.Target
import SiteGateway.Proofs.Url.Address

/-!
# Access lines are read back

The parts of an access line are `Visible`: the grammars of methods and targets leave out the space
and the control characters before it, whatever quotes, brackets and dashes they let in. So the
spaces of a line are those that were written between its parts (`RequestSummary.split_line`), and
each part tells what it was written from (`AccessLine.read?_line`). `Request.accessLine_tells` says
what follows for the requests that arrive.
-/

namespace SiteGateway

/-- No space and none of the control characters before it. -/
def Visible (t : Text) : Prop := ∀ c ∈ t, 0x20 < c.toNat

instance (t : Text) : Decidable (Visible t) := List.decidableBAll (fun c : Char => 0x20 < c.toNat) t

namespace Visible
variable {t x y : Text} {c : Char}

theorem append (hx : Visible x) (hy : Visible y) : Visible (x ++ y) :=
  fun c hc => (List.mem_append.mp hc).elim (hx c) (hy c)

theorem cons (hc : 0x20 < c.toNat) (ht : Visible t) : Visible (c :: t) :=
  List.forall_mem_cons.mpr ⟨hc, ht⟩

theorem concat (ht : Visible t) (hc : 0x20 < c.toNat) : Visible (t ++ [c]) :=
  ht.append (List.forall_mem_singleton.mpr hc)

theorem notMem_space (h : Visible t) : ' ' ∉ t := fun hc => absurd (h _ hc) (by decide)

/-- A class of characters is visible if none of the first 33 characters belongs to it. -/
theorem of_class {p : Char → Bool} (hp : ∀ n < 0x21, p (Char.ofNat n) = false)
    (h : ∀ c ∈ t, p c = true) : Visible t := by
  intro c hc
  by_contra hle
  have hfalse := hp c.toNat (by omega)
  rw [Char.ofNat_toNat, h c hc] at hfalse
  cases hfalse

theorem of_isDigit (h : ∀ c ∈ t, c.isDigit = true) : Visible t := of_class (by decide) h

theorem ofNat (n : Nat) : Visible (Text.ofNat n) := of_isDigit fun _ => Host.isDigit_of_mem_ofNat

theorem padded (w n : Nat) : Visible (Text.padded w n) :=
  of_isDigit fun _ => Text.isDigit_of_mem_padded

theorem join {sep : Text} {ts : List Text} (hsep : Visible sep) (hts : ∀ t ∈ ts, Visible t) :
    Visible (Text.join sep ts) := by
  intro c hc
  rcases Text.of_mem_join hc with hc | ⟨t, ht, hc⟩
  · exact hsep c hc
  · exact hts t ht c hc

end Visible

/-! ## Clients -/

namespace IpAddress
variable {a : IpAddress}

/-- An IPv6 address has eight pieces. -/
def Proper : IpAddress → Prop
  | v4 .. => True
  | v6 ps => ps.length = 8

/-- Reads an address of either kind. -/
def parse? (t : Text) : Option IpAddress := (parseV6? t).or (parseV4? t)

theorem text_v4 (a b d e : UInt8) : text (v4 a b d e) = Host.dotted a b d e := rfl

theorem text_v6 (ps : List UInt16) : text (v6 ps) = Host.shown ps := by
  have hhigh (n : UInt16) : (n >>> 8).toUInt8 = UInt8.ofNat (n.toNat / 256) := by
    refine UInt8.toNat_inj.mp ?_
    rw [UInt16.toNat_toUInt8, UInt16.toNat_shiftRight, UInt8.toNat_ofNat',
      Nat.shiftRight_eq_div_pow]
    rfl
  have hlow (n : UInt16) : n.toUInt8 = UInt8.ofNat n.toNat := by
    refine UInt8.toNat_inj.mp ?_
    rw [UInt16.toNat_toUInt8, UInt8.toNat_ofNat']
  unfold Host.shown
  split
  next high low =>
    rw [hhigh, hhigh, hlow, hlow]
    rfl
  next h =>
    unfold text
    split
    next he => cases he
    next high low he => exact absurd (v6.inj he) (h high low)
    next he => rw [v6.inj he]

theorem parse?_text (h : a.Proper) : parse? a.text = some a := by
  cases a with
  | v4 a b d e =>
    have hcolon : ':' ∉ Host.dotted a b d e := Host.notMem_dotted rfl (by decide)
    rw [text_v4, parse?, parseV6?, Host.parseIpv6?_of_notMem hcolon, Option.none_or, parseV4?,
      Host.split_dotted, Host.mapM_octet?]
    simp
  | v6 ps =>
    rw [text_v6, parse?, parseV6?, Host.parseIpv6?_shown h]
    rfl

theorem visible_dotted (a b d e : UInt8) : Visible (Host.dotted a b d e) := by
  refine Visible.join (by decide) fun t ht => ?_
  obtain ⟨n, -, rfl⟩ := List.mem_map.mp ht
  exact Visible.ofNat _

theorem visible_text (a : IpAddress) : Visible a.text := by
  have hdigit : ∀ d < 16, 0x20 < (Nat.digitChar d).toNat := by decide
  cases a with
  | v4 a b d e => exact visible_dotted a b d e
  | v6 ps =>
    rw [text_v6]
    unfold Host.shown
    split
    · exact (by decide : Visible "::ffff:".toList).append (visible_dotted _ _ _ _)
    · intro c hc
      rcases Host.of_mem_compressed hc with rfl | ⟨d, hd, rfl⟩
      · decide
      · exact hdigit d hd

end IpAddress

/-! ## Requests -/

theorem Target.visible_of_pathAndQuery? {t : Target} {x : Text}
    (h : pathAndQuery? x = some (t.rawPath, t.query)) : Visible (t.rawPath ++ t.queryText) := by
  obtain ⟨hpath, hquery, -⟩ := of_pathAndQuery? h
  refine (Visible.of_class (by decide) hpath).append ?_
  cases hq : t.query with
  | none => rw [queryText_of_none hq]; exact fun c hc => absurd hc List.not_mem_nil
  | some q =>
    rw [queryText_of_some hq]
    exact .cons (by decide) (.of_class (by decide) (hquery q hq))

theorem Target.visible_pathAndQuery {u : Text} {t : Target} (h : parse? u = some t) :
    Visible t.pathAndQuery := by
  have hshown : Visible (t.rawPath ++ t.queryText) := by
    cases (reads_of_parse? h).2 with
    | asterisk => decide
    | origin _ _ _ h => exact visible_of_pathAndQuery? h
    | authority => exact (by decide : Visible [])
    | absolute _ _ _ _ h => exact visible_of_pathAndQuery? h
  rw [pathAndQuery]
  split
  · decide
  · exact hshown

/-- A request as it comes in: a method that is a token, a target that was read, an address. -/
structure Request.Arrives (r : Request) : Prop where
  method : isToken r.method = true
  target : ∃ u, Target.parse? u = some r.target
  client : ∀ a ∈ r.client, a.Proper

theorem Request.Arrives.visible_method {r : Request} (h : r.Arrives) : Visible r.method := by
  have hall := (Bool.and_eq_true_iff.mp h.method).2
  exact .of_class (p := isTokenChar) (by decide) (List.all_eq_true.mp hall)

/-! ## Times -/

theorem HttpDate.visible_writeYear (y : Int) : Visible (writeYear y) := by
  unfold writeYear
  split
  · split
    · exact .padded _ _
    · exact .cons (by decide) (.padded _ _)
  · exact .cons (by decide) (.padded _ _)

theorem HttpDate.visible_writeClock (s : Nat) : Visible (writeClock s) := by
  refine Visible.join (by decide) fun t ht => ?_
  simp only [List.mem_cons, List.not_mem_nil, or_false] at ht
  rcases ht with rfl | rfl | rfl <;> exact .padded _ _

theorem HttpDate.visible_monthName (i : Nat) : Visible (nameAt Calendar.monthNames i) := by
  have hall : ∀ i < 12, Visible (nameAt Calendar.monthNames i) := by decide
  by_cases hi : i < 12
  · exact hall i hi
  · rw [nameAt, List.getD_eq_getElem?_getD, List.getElem?_eq_none (Nat.le_of_not_lt hi)]
    decide

/-- The date of a time in an access line. -/
def CivilTime.dateText (t : CivilTime) : Text :=
  Text.padded 2 t.date.day ++ '/' :: HttpDate.nameAt Calendar.monthNames (t.date.month - 1) ++
    '/' :: HttpDate.writeYear t.date.year

theorem CivilTime.visible_dateText (t : CivilTime) : Visible t.dateText :=
  ((Visible.padded _ _).append (.cons (by decide) (HttpDate.visible_monthName _))).append
    (.cons (by decide) (HttpDate.visible_writeYear _))

theorem CivilTime.accessText_eq (t : CivilTime) :
    t.accessText = t.dateText ++ ' ' :: HttpDate.writeClock t.second := by
  simp [accessText, dateText]

/-! ## Lines -/

/-- The number of bytes, or a dash. -/
def Observation.sizeText (o : Observation) : Text :=
  if o.bytes = 0 then ['-'] else Text.ofNat o.bytes

namespace RequestSummary
variable (s : RequestSummary) (t : CivilTime) (o : Observation)

/-- What the spaces of an access line keep apart. -/
def pieces : List Text :=
  [s.clientText, ['-'], ['-'], '[' :: t.dateText, HttpDate.writeClock t.second ++ [']'],
    '"' :: s.method, s.target, s.version.text.toList ++ ['"'], Text.ofNat o.status, o.sizeText]

theorem line_eq_join : s.line t.accessText o = Text.join [' '] (s.pieces t o) := by
  simp [line, pieces, Text.join, CivilTime.accessText_eq, Observation.sizeText]

theorem visible_clientText : Visible s.clientText := by
  rw [clientText]
  cases s.client with
  | none => decide
  | some a => exact a.visible_text

theorem visible_pieces (hm : Visible s.method) (ht : Visible s.target) :
    ∀ piece ∈ s.pieces t o, Visible piece := by
  have hversion : Visible s.version.text.toList := by cases s.version <;> decide
  have hsize : Visible o.sizeText := by
    rw [Observation.sizeText]
    split
    · decide
    · exact .ofNat _
  simp only [pieces, List.forall_mem_cons, List.not_mem_nil, false_imp_iff, implies_true, and_true]
  exact ⟨s.visible_clientText, by decide, by decide, .cons (by decide) t.visible_dateText,
    (HttpDate.visible_writeClock _).concat (by decide), .cons (by decide) hm, ht,
    hversion.concat (by decide), .ofNat _, hsize⟩

theorem split_line (hm : Visible s.method) (ht : Visible s.target) :
    Text.split ' ' (s.line t.accessText o) = s.pieces t o := by
  rw [line_eq_join]
  exact Text.split_join (List.cons_ne_nil _ _) fun piece hp =>
    (visible_pieces s t o hm ht piece hp).notMem_space

/-- A line holds no line feed and nothing else that comes before the space. -/
theorem printable_line (hm : Visible s.method) (ht : Visible s.target) :
    ∀ c ∈ s.line t.accessText o, 0x20 ≤ c.toNat := by
  rw [line_eq_join]
  intro c hc
  rcases Text.of_mem_join hc with hc | ⟨piece, hp, hc⟩
  · obtain rfl := List.mem_singleton.mp hc
    decide
  · exact Nat.le_of_lt (visible_pieces s t o hm ht piece hp c hc)

end RequestSummary

/-- What an access line tells of a request and its answer. -/
structure AccessLine where
  client : Option IpAddress
  method : Text
  target : Text
  version : Version
  status : Nat
  bytes : Nat
deriving DecidableEq, Repr

/-- The version with a text. -/
def Version.parse? (t : Text) : Option Version :=
  [http09, http10, http11, http2, http3].find? (·.text.toList == t)

theorem Version.parse?_text (v : Version) : parse? v.text.toList = some v := by
  cases v <;> rfl

namespace AccessLine

/-- Reads what stands for something that may be missing. -/
def dashed? {α : Type} (missing : α) (read? : Text → Option α) (t : Text) : Option α :=
  if t = ['-'] then some missing else read? t

/-- Reads an access line piece by piece; the time is passed over. -/
def read? (line : Text) : Option AccessLine :=
  match Text.split ' ' line with
  | [client, ['-'], ['-'], _, _, '"' :: method, target, version, status, size] => do
    let client ← dashed? none (fun t => (IpAddress.parse? t).map some) client
    let version ← Version.parse? version.dropLast
    let status ← Text.nat? status
    let bytes ← dashed? 0 Text.nat? size
    return { client, method, target, version, status, bytes }
  | _ => none

theorem dashed?_of_read {α : Type} {missing x : α} {read? : Text → Option α} {t : Text}
    (hdash : read? ['-'] = none) (h : read? t = some x) : dashed? missing read? t = some x := by
  rw [dashed?, if_neg, h]
  rintro rfl
  rw [hdash] at h
  cases h

theorem dashed?_clientText {s : RequestSummary} (h : ∀ a ∈ s.client, a.Proper) :
    dashed? none (fun t => (IpAddress.parse? t).map some) s.clientText = some s.client := by
  rw [RequestSummary.clientText]
  cases hs : s.client with
  | none => rfl
  | some a => exact dashed?_of_read (by decide) (by simp [IpAddress.parse?_text (h a hs)])

theorem dashed?_sizeText (o : Observation) : dashed? 0 Text.nat? o.sizeText = some o.bytes := by
  rw [Observation.sizeText]
  split
  next h => rw [h]; rfl
  next => exact dashed?_of_read (by decide) (Text.nat?_ofNat _)

/-- A line is read as what it was written from. -/
theorem read?_line {s : RequestSummary} (hm : Visible s.method) (ht : Visible s.target)
    (hc : ∀ a ∈ s.client, a.Proper) (t : CivilTime) (o : Observation) :
    read? (s.line t.accessText o) =
      some ⟨s.client, s.method, s.target, s.version, o.status, o.bytes⟩ := by
  rw [read?, s.split_line t o hm ht, RequestSummary.pieces]
  simp [dashed?_clientText hc, dashed?_sizeText, Version.parse?_text]

end AccessLine

theorem Observation.sizeText_eq_dash_iff {o : Observation} : o.sizeText = ['-'] ↔ o.bytes = 0 := by
  constructor
  · intro h
    have hread := AccessLine.dashed?_sizeText o
    rw [h] at hread
    exact (Option.some.inj hread).symm
  · exact fun h => if_pos h

/-- The line of a request that came in is a single line, its spaces keep its parts apart, and it
tells client, method, target, version, status and number of bytes; only no bytes at all are a dash.
So at no time two requests that differ in one of these leave the same line. -/
theorem Request.accessLine_tells {r : Request} (h : r.Arrives) (t : CivilTime) (o : Observation) :
    let s := RequestSummary.ofRequest r
    let line := s.line t.accessText o
    (∀ c ∈ line, 0x20 ≤ c.toNat) ∧ Text.split ' ' line = s.pieces t o ∧
      AccessLine.read? line =
        some ⟨r.client, r.method, r.target.pathAndQuery, r.version, o.status, o.bytes⟩ ∧
      (o.sizeText = ['-'] ↔ o.bytes = 0) ∧
      ∀ (r' : Request) (t' : CivilTime) (o' : Observation), r'.Arrives →
        (RequestSummary.ofRequest r').line t'.accessText o' = line →
        r'.client = r.client ∧ r'.method = r.method ∧
          r'.target.pathAndQuery = r.target.pathAndQuery ∧ r'.version = r.version ∧
          o'.status = o.status ∧ o'.bytes = o.bytes := by
  intro s line
  have hread {r : Request} (h : r.Arrives) (t : CivilTime) (o : Observation) :
      AccessLine.read? ((RequestSummary.ofRequest r).line t.accessText o) =
        some ⟨r.client, r.method, r.target.pathAndQuery, r.version, o.status, o.bytes⟩ := by
    obtain ⟨u, hu⟩ := h.target
    exact AccessLine.read?_line (s := .ofRequest r) h.visible_method
      (Target.visible_pathAndQuery hu) h.client t o
  obtain ⟨u, hu⟩ := h.target
  have ht : Visible s.target := Target.visible_pathAndQuery hu
  refine ⟨s.printable_line t o h.visible_method ht, s.split_line t o h.visible_method ht,
    hread h t o, Observation.sizeText_eq_dash_iff, fun r' t' o' h' heq => ?_⟩
  have hsame := hread h' t' o'
  rw [heq, hread h t o] at hsame
  obtain ⟨hclient, hmethod, htarget, hversion, hstatus, hbytes⟩ :=
    AccessLine.mk.inj (Option.some.inj hsame)
  exact ⟨hclient.symm, hmethod.symm, htarget.symm, hversion.symm, hstatus.symm, hbytes.symm⟩

/-- A request whose target is full of the marks of a line. -/
def Request.marked : Request where
  method := "GET".toList
  target := ⟨none, none, "/\"-\"]-[".toList, some "-".toList⟩
  version := .http11
  headers := []
  body := []
  client := some (.v6 [0x2001, 0xDB8, 0, 0, 0, 0, 0, 1])

theorem Request.accessLine_tells_marked :
    let s := RequestSummary.ofRequest .marked
    let line := "2001:db8::1 - - [09/Sep/2001 01:46:40] \"GET /\"-\"]-[?- HTTP/1.1\" 403 -".toList
    let t : CivilTime := ⟨⟨2001, 9, 9⟩, 6400⟩
    Request.marked.Arrives ∧ s.line t.accessText ⟨some 403, 0⟩ = line ∧
      AccessLine.read? line =
        some ⟨Request.marked.client, "GET".toList, "/\"-\"]-[?-".toList, .http11, 403, 0⟩ := by
  intro s line t
  have harrives : Request.marked.Arrives :=
    ⟨by decide, ⟨"/\"-\"]-[?-".toList, by rfl⟩, by rintro _ ⟨⟩; rfl⟩
  have hline : s.line t.accessText ⟨some 403, 0⟩ = line := by decide +kernel
  refine ⟨harrives, hline, ?_⟩
  rw [← hline]
  exact (Request.accessLine_tells harrives t ⟨some 403, 0⟩).2.2.1

end SiteGateway
