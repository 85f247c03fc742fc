import Mathlib.Data.List.Induction
import Mathlib.Data.List.Nodup
import Mathlib.Data.List.Perm.Subperm
import SiteGateway.Proxy.Relay

/-!
# No byte is lost in a relay

The two loops of a relay and the relay itself take their steps in any order. What holds after every
order is read off one inversion (`Step.of_step?`): a step either belongs to one loop (`CopyStep`)
and leaves the other where it is, or it is the relay taking a report or letting go.

* `Carried` ties the bytes of a direction to the phase of its loop. The bytes read are the bytes
  written and what is left in hand, and a loop that read to the end has nothing in hand.
* `CopyPhase.rank` only grows, so nothing is written once a writer is shut down. `Counted` ties it
  to the history.
* `Told` ties the reports to the history, so a relay that is over took the first of them.

`relay_loses_nothing` puts them together.
-/

namespace SiteGateway

namespace CopyPhase

/-- How far a loop has come. -/
def rank : CopyPhase → Nat
  | reading | writing _ => 0
  | ending => 1
  | shutDown => 2
  | reported => 3

@[simp] theorem rank_reading : reading.rank = 0 := rfl
@[simp] theorem rank_writing (rest : Bytes) : (writing rest).rank = 0 := rfl
@[simp] theorem rank_ending : ending.rank = 1 := rfl
@[simp] theorem rank_shutDown : shutDown.rank = 2 := rfl
@[simp] theorem rank_reported : reported.rank = 3 := rfl

/-- What a loop has read and is about to write. -/
def inHand : CopyPhase → Bytes
  | writing rest => rest
  | _ => []

end CopyPhase

namespace RelayEvent

/-- The direction of the loop that an event belongs to. -/
def direction? : RelayEvent → Option Direction
  | read d _ | readEnded d | readFailed d | written d _ | writeFailed d | stopped d | shutDown d
  | reported d => some d
  | concluded | released => none

/-- The direction that an event reports. -/
def report? : RelayEvent → Option Direction
  | reported d => some d
  | _ => none

theorem report?_eq_some_iff {e : RelayEvent} {d : Direction} :
    e.report? = some d ↔ e = .reported d := by
  cases e <;> simp [report?]

/-- The loop of the direction copies nothing after this. -/
def Ends (d : Direction) (e : RelayEvent) : Prop :=
  e = readEnded d ∨ e = readFailed d ∨ e = writeFailed d ∨ e = stopped d

theorem Ends.direction?_eq {e : RelayEvent} {d : Direction} (h : e.Ends d) :
    e.direction? = some d := by
  rcases h with rfl | rfl | rfl | rfl <;> rfl

theorem readBytes_of_direction?_ne {e : RelayEvent} {d : Direction} (h : e.direction? ≠ some d) :
    e.readBytes d = [] := by
  cases e with
  | read d' chunk => exact if_neg fun hd => h (congrArg some hd)
  | _ => rfl

theorem writtenBytes_of_direction?_ne {e : RelayEvent} {d : Direction}
    (h : e.direction? ≠ some d) : e.writtenBytes d = [] := by
  cases e with
  | written d' part => exact if_neg fun hd => h (congrArg some hd)
  | _ => rfl

end RelayEvent

/-- The steps of the loop of a direction. -/
inductive CopyStep (released : Bool) (d : Direction) : CopyPhase → RelayEvent → CopyPhase → Prop
  | read {chunk : Bytes} (hlen : chunk.length ≤ RelayState.bufferSize) :
      CopyStep released d .reading (.read d chunk) (.writing chunk)
  | readEnded : CopyStep released d .reading (.readEnded d) .ending
  | readFailed : CopyStep released d .reading (.readFailed d) .ending
  | written {part rest : Bytes} :
      CopyStep released d (.writing (part ++ rest)) (.written d part) (.writing rest)
  | drained {part : Bytes} : CopyStep released d (.writing part) (.written d part) .reading
  | writeFailed {rest : Bytes} : CopyStep released d (.writing rest) (.writeFailed d) .ending
  | stopped {p : CopyPhase} (hr : released = true) (hp : p.rank = 0) :
      CopyStep released d p (.stopped d) .ending
  | shutDown : CopyStep released d .ending (.shutDown d) .shutDown
  | reported : CopyStep released d .shutDown (.reported d) .reported

namespace CopyStep

variable {r : Bool} {d : Direction} {p p' : CopyPhase} {e : RelayEvent}

theorem direction?_eq (h : CopyStep r d p e p') : e.direction? = some d := by
  cases h <;> rfl

theorem rank_le (h : CopyStep r d p e p') : p.rank ≤ p'.rank := by
  cases h <;> simp [*]

theorem of_shutDown (h : CopyStep r d p (.shutDown d) p') : p' = .shutDown := by
  cases h
  rfl

theorem of_reported (h : CopyStep r d p (.reported d) p') : p = .shutDown := by
  cases h
  rfl

theorem of_stopped (h : CopyStep r d p (.stopped d) p') : r = true := by
  cases h
  assumption

theorem ends_or_rank_pos (h : CopyStep r d p e p') (hp : 1 ≤ p'.rank) : e.Ends d ∨ 1 ≤ p.rank := by
  cases h <;> simp_all [RelayEvent.Ends]

theorem rank_eq_one (h : CopyStep r d p e p') (he : e.Ends d) : p'.rank = 1 := by
  cases h <;> simp_all [RelayEvent.Ends]

theorem eq_reported (h : CopyStep r d p e p') (hp : 2 ≤ p.rank) : e = .reported d := by
  cases h <;> simp_all

end CopyStep

namespace RelayState

variable {s s' : RelayState} {d : Direction} {e : RelayEvent} {es es' : List RelayEvent}

theorem phase_setPhase_self (s : RelayState) (p : CopyPhase) (d : Direction) :
    (s.setPhase p d).phase d = p :=
  Directed.get_set_self ..

theorem phase_setPhase_of_ne (s : RelayState) (p : CopyPhase) {d d' : Direction} (h : d ≠ d') :
    (s.setPhase p d').phase d = s.phase d :=
  Directed.get_set_of_ne _ _ h

/-- The reports that wait after an event. -/
def reportsAfter (s : RelayState) (e : RelayEvent) : List Direction :=
  if s.first = none ∧ s.reports.length < reportCapacity then s.reports ++ e.report?.toList
  else s.reports

/-- The steps of a relay. -/
inductive Step (s : RelayState) : RelayEvent → RelayState → Prop
  | copied {d : Direction} {e : RelayEvent} {p : CopyPhase}
      (hc : CopyStep s.released d (s.phase d) e p) :
      Step s e { s.setPhase p d with reports := s.reportsAfter e }
  | concluded {d : Direction} (hf : s.first = none) (hd : s.reports.head? = some d) :
      Step s .concluded { s with first := some d }
  | abandoned (hf : s.first = none) (hr : s.reports = []) (hp : s.phases = .both .reported) :
      Step s .concluded { s with first := some .clientToBackend }
  | released (hf : s.first.isSome) : Step s .released { s with released := true }

theorem Step.of_copyStep {p : CopyPhase} (hc : CopyStep s.released d (s.phase d) e p)
    (hr : e.report? = none) : Step s e (s.setPhase p d) := by
  have hs := Step.copied hc
  rw [reportsAfter, hr, Option.toList_none, List.append_nil, ite_self] at hs
  exact hs

theorem Step.of_step? (h : s.step? e = some s') : Step s e s' := by
  cases e with
  | read d chunk =>
    obtain ⟨⟨hp, -, hlen⟩, h⟩ := Option.ite_none_right_eq_some.mp h
    cases h
    exact .of_copyStep (hp ▸ .read hlen) rfl
  | readEnded d =>
    obtain ⟨hp, h⟩ := Option.ite_none_right_eq_some.mp h
    cases h
    exact .of_copyStep (hp ▸ .readEnded) rfl
  | readFailed d =>
    obtain ⟨hp, h⟩ := Option.ite_none_right_eq_some.mp h
    cases h
    exact .of_copyStep (hp ▸ .readFailed) rfl
  | written d part =>
    rw [step?] at h
    split at h
    next rest hp =>
      obtain ⟨⟨-, hpart⟩, h⟩ := Option.ite_none_right_eq_some.mp h
      obtain ⟨left, rfl⟩ := List.isPrefixOf_iff_prefix.mp hpart
      rw [List.drop_left] at h
      cases h
      -- with nothing left to write the loop reads again
      by_cases hleft : left = []
      · rw [if_pos hleft]
        rw [hleft, List.append_nil] at hp
        exact .of_copyStep (hp ▸ .drained) rfl
      · rw [if_neg hleft]
        exact .of_copyStep (hp ▸ .written) rfl
    next => cases h
  | writeFailed d =>
    rw [step?] at h
    split at h
    next rest hp =>
      cases h
      exact .of_copyStep (hp ▸ .writeFailed) rfl
    next => cases h
  | stopped d =>
    rw [step?] at h
    split at h
    next hr hp =>
      cases h
      exact .of_copyStep (.stopped hr (by rw [hp]; rfl)) rfl
    next rest hr hp =>
      cases h
      exact .of_copyStep (.stopped hr (by rw [hp]; rfl)) rfl
    next => cases h
  | shutDown d =>
    obtain ⟨hp, h⟩ := Option.ite_none_right_eq_some.mp h
    cases h
    exact .of_copyStep (hp ▸ .shutDown) rfl
  | reported d =>
    obtain ⟨hp, h⟩ := Option.ite_none_right_eq_some.mp h
    have hs : { s.setPhase .reported d with reports := s.reportsAfter (.reported d) } = s' := by
      rw [← Option.some.inj h, reportsAfter]
      by_cases hc : s.first = none ∧ s.reports.length < reportCapacity
      · rw [if_pos hc]
        exact (if_pos hc).symm
      · rw [if_neg hc]
        exact (if_neg hc).symm
    exact hs ▸ .copied (hp ▸ .reported)
  | concluded =>
    rw [step?] at h
    split at h
    next d ds hf hr =>
      cases h
      exact .concluded hf (by rw [hr]; rfl)
    next hf hr =>
      obtain ⟨hp, h⟩ := Option.ite_none_right_eq_some.mp h
      cases h
      exact .abandoned hf hr hp
    next => cases h
  | released =>
    obtain ⟨⟨hf, -⟩, h⟩ := Option.ite_none_right_eq_some.mp h
    cases h
    exact .released hf

theorem Step.phase (h : Step s e s') (d : Direction) :
    CopyStep s.released d (s.phase d) e (s'.phase d) ∨
      e.direction? ≠ some d ∧ s'.phase d = s.phase d := by
  cases h with
  | @copied d' _ p hc =>
    by_cases hd : d = d'
    · subst hd
      exact .inl ((phase_setPhase_self s p d).symm ▸ hc)
    · exact .inr ⟨fun he => hd (Option.some.inj (he.symm.trans hc.direction?_eq)),
        phase_setPhase_of_ne s p hd⟩
  | concluded | abandoned | released => exact .inr ⟨nofun, rfl⟩

theorem run?_append {as bs : List RelayEvent} :
    s.run? (as ++ bs) = some s' ↔ ∃ t, s.run? as = some t ∧ t.run? bs = some s' := by
  rw [run?, List.foldlM_append]
  exact Option.bind_eq_some_iff

theorem run?_cons : s.run? (e :: es) = some s' ↔ ∃ t, s.step? e = some t ∧ t.run? es = some s' := by
  rw [run?, List.foldlM_cons]
  exact Option.bind_eq_some_iff

theorem exists_step (h : s.run? (es ++ e :: es') = some s') :
    ∃ t t', s.run? es = some t ∧ Step t e t' ∧ t'.run? es' = some s' := by
  obtain ⟨t, ht, h⟩ := run?_append.mp h
  obtain ⟨t', hs, h⟩ := run?_cons.mp h
  exact ⟨t, t', ht, .of_step? hs, h⟩

/-- What holds of a fresh relay and is kept by every step holds after every run. -/
theorem run_induction {P : List RelayEvent → RelayState → Prop} (h : initial.run? es = some s)
    (nil : P [] initial)
    (snoc : ∀ {es s e s'}, initial.run? es = some s → P es s → Step s e s' → P (es ++ [e]) s') :
    P es s := by
  induction es using List.reverseRecOn generalizing s with
  | nil => exact Option.some.inj h ▸ nil
  | append_singleton es e ih =>
    obtain ⟨t, ht, h⟩ := run?_append.mp h
    obtain ⟨s', hs, h⟩ := run?_cons.mp h
    cases h
    exact snoc ht (ih ht) (.of_step? hs)

/-! ### The bytes of a direction -/

def bytesRead (d : Direction) (es : List RelayEvent) : Bytes := es.flatMap (RelayEvent.readBytes d)

def bytesWritten (d : Direction) (es : List RelayEvent) : Bytes :=
  es.flatMap (RelayEvent.writtenBytes d)

theorem bytesRead_concat : bytesRead d (es ++ [e]) = bytesRead d es ++ e.readBytes d := by
  rw [bytesRead, List.flatMap_append, List.flatMap_singleton, bytesRead]

theorem bytesWritten_concat :
    bytesWritten d (es ++ [e]) = bytesWritten d es ++ e.writtenBytes d := by
  rw [bytesWritten, List.flatMap_append, List.flatMap_singleton, bytesWritten]

/-- After these events a loop has read what it has written and `left`. -/
structure Carried (d : Direction) (es : List RelayEvent) (p : CopyPhase) (left : Bytes) : Prop where
  bytes : bytesRead d es = bytesWritten d es ++ left
  bounded : left.length ≤ bufferSize
  inHand : p.rank = 0 → left = p.inHand
  whole : .readEnded d ∈ es → left = [] ∧ p.rank ≠ 0

namespace Carried

variable {p p' : CopyPhase} {left : Bytes} {r : Bool}

/-- A step that moves no bytes. -/
theorem keep (h : Carried d es p left) (hr : e.readBytes d = []) (hw : e.writtenBytes d = [])
    (hp : p'.rank = 0 → p' = p) (he : e = .readEnded d → p = .reading ∧ p'.rank ≠ 0) :
    Carried d (es ++ [e]) p' left where
  bytes := by
    rw [bytesRead_concat, bytesWritten_concat, hr, hw, List.append_nil, List.append_nil, h.bytes]
  bounded := h.bounded
  inHand h0 := by
    have hpp := hp h0
    rw [hpp] at h0 ⊢
    exact h.inHand h0
  whole hm := by
    rcases List.mem_append.mp hm with hm | hm
    · obtain ⟨hl, h0⟩ := h.whole hm
      exact ⟨hl, fun h0' => h0 (hp h0' ▸ h0')⟩
    · obtain ⟨rfl, h0⟩ := he (List.mem_singleton.mp hm).symm
      exact ⟨h.inHand rfl, h0⟩

/-- A step that reads or writes. -/
theorem move (h : Carried d es p left) (h0 : p.rank = 0) (he : e ≠ .readEnded d)
    (hb : p.inHand ++ e.readBytes d = e.writtenBytes d ++ p'.inHand)
    (hlen : p'.inHand.length ≤ bufferSize) : Carried d (es ++ [e]) p' p'.inHand where
  bytes := by
    rw [bytesRead_concat, bytesWritten_concat, h.bytes, h.inHand h0, List.append_assoc, hb,
      List.append_assoc]
  bounded := hlen
  inHand _ := rfl
  whole hm := by
    rcases List.mem_append.mp hm with hm | hm
    · exact absurd h0 (h.whole hm).2
    · exact absurd (List.mem_singleton.mp hm).symm he

theorem step (h : Carried d es p left) (hs : CopyStep r d p e p') :
    ∃ left', Carried d (es ++ [e]) p' left' := by
  cases hs with
  | read hlen => exact ⟨_, h.move rfl nofun (if_pos rfl) hlen⟩
  | written =>
    have hlen := h.bounded
    rw [h.inHand rfl, CopyPhase.inHand, List.length_append] at hlen
    refine ⟨_, h.move rfl nofun ?_ (Nat.le_trans (Nat.le_add_left ..) hlen)⟩
    rw [RelayEvent.writtenBytes, if_pos rfl]
    exact List.append_nil _
  | drained =>
    refine ⟨_, h.move rfl nofun ?_ (Nat.zero_le _)⟩
    rw [RelayEvent.writtenBytes, if_pos rfl]
    rfl
  | readEnded => exact ⟨left, h.keep rfl rfl nofun fun _ => ⟨rfl, nofun⟩⟩
  | readFailed | writeFailed | stopped | shutDown | reported =>
    exact ⟨left, h.keep rfl rfl nofun nofun⟩

end Carried

theorem exists_carried (h : initial.run? es = some s) (d : Direction) :
    ∃ left, Carried d es (s.phase d) left := by
  refine run_induction (P := fun es s => ∃ left, Carried d es (s.phase d) left) h ?_ ?_
  · refine ⟨[], rfl, Nat.zero_le _, fun _ => ?_, nofun⟩
    cases d <;> rfl
  · rintro es s e s' - ⟨left, hc⟩ hs
    rcases hs.phase d with hs | ⟨hd, hp⟩
    · exact hc.step hs
    · rw [hp]
      refine ⟨left, hc.keep ?_ ?_ (fun _ => rfl) fun he => absurd (he ▸ rfl) hd⟩
      · exact RelayEvent.readBytes_of_direction?_ne hd
      · exact RelayEvent.writtenBytes_of_direction?_ne hd

/-! ### The end of a direction -/

/-- A loop shuts its writer down and reports as often as its phase says. -/
structure Counted (d : Direction) (es : List RelayEvent) (p : CopyPhase) : Prop where
  shutDowns : es.count (.shutDown d) = if 2 ≤ p.rank then 1 else 0
  reports : es.count (.reported d) = if 3 ≤ p.rank then 1 else 0
  ended : 1 ≤ p.rank → ∃ e ∈ es, e.Ends d

theorem Counted.step {p p' : CopyPhase} {r : Bool} (h : Counted d es p)
    (hs : CopyStep r d p e p') : Counted d (es ++ [e]) p' := by
  constructor
  · rw [List.count_append, h.shutDowns]
    cases hs <;> simp [*]
  · rw [List.count_append, h.reports]
    cases hs <;> simp [*]
  · intro hp
    rcases hs.ends_or_rank_pos hp with he | hp
    · exact ⟨e, List.mem_append_right _ (List.mem_singleton_self e), he⟩
    · obtain ⟨e', he', hd⟩ := h.ended hp
      exact ⟨e', List.mem_append_left _ he', hd⟩

theorem counted (h : initial.run? es = some s) (d : Direction) : Counted d es (s.phase d) := by
  refine run_induction (P := fun es s => Counted d es (s.phase d)) h ?_ ?_
  · cases d <;> exact ⟨rfl, rfl, nofun⟩
  · intro es s e s' _ hc hs
    rcases hs.phase d with hs | ⟨hd, hp⟩
    · exact hc.step hs
    · have hne : ∀ e', RelayEvent.direction? e' = some d → (es ++ [e]).count e' = es.count e' := by
        intro e' he'
        rw [List.count_append, List.count_singleton, if_neg, Nat.add_zero]
        exact fun hb => hd (eq_of_beq hb ▸ he')
      rw [hp]
      refine ⟨(hne _ rfl).trans hc.shutDowns, (hne _ rfl).trans hc.reports, fun hp => ?_⟩
      obtain ⟨e', he', hd'⟩ := hc.ended hp
      exact ⟨e', List.mem_append_left _ he', hd'⟩

theorem Counted.shutDown_mem {p : CopyPhase} (h : Counted d es p) (hp : 2 ≤ p.rank) :
    .shutDown d ∈ es := by
  rw [← List.count_pos_iff, h.shutDowns, if_pos hp]
  exact Nat.one_pos

theorem Counted.reported_mem_iff {p : CopyPhase} (h : Counted d es p) :
    .reported d ∈ es ↔ 3 ≤ p.rank := by
  rw [← List.count_pos_iff, h.reports]
  split
  next hp => exact iff_of_true Nat.one_pos hp
  next hp => exact iff_of_false (Nat.lt_irrefl 0) hp

theorem Step.copyStep (h : Step s e s') (hd : e.direction? = some d) :
    CopyStep s.released d (s.phase d) e (s'.phase d) :=
  (h.phase d).resolve_right fun hn => hn.1 hd

theorem Step.rank_le (h : Step s e s') (d : Direction) : (s.phase d).rank ≤ (s'.phase d).rank := by
  rcases h.phase d with hs | ⟨-, hp⟩
  · exact hs.rank_le
  · exact hp ▸ Nat.le_refl _

theorem rank_le_of_run? (h : s.run? es = some s') : (s.phase d).rank ≤ (s'.phase d).rank := by
  induction es generalizing s with
  | nil => exact Option.some.inj h ▸ Nat.le_refl _
  | cons e es ih =>
    obtain ⟨t, hs, h⟩ := run?_cons.mp h
    exact Nat.le_trans ((Step.of_step? hs).rank_le d) (ih h)

/-- Once its writer is shut down, a loop only reports. -/
theorem eq_reported_of_mem (h : s.run? es = some s') (hp : 2 ≤ (s.phase d).rank) (he : e ∈ es)
    (hd : e.direction? = some d) : e = .reported d := by
  induction es generalizing s with
  | nil => cases he
  | cons e' es ih =>
    obtain ⟨t, hs, h⟩ := run?_cons.mp h
    have hs := Step.of_step? hs
    rcases List.mem_cons.mp he with rfl | he
    · rcases hs.phase d with hs | ⟨hd', -⟩
      · exact hs.eq_reported hp
      · exact absurd hd hd'
    · exact ih h (Nat.le_trans hp (hs.rank_le d)) he

/-! ### The reports -/

/-- The directions that have reported, in order. -/
def reported (es : List RelayEvent) : List Direction := es.filterMap RelayEvent.report?

theorem count_reported : (reported es).count d = es.count (.reported d) := by
  rw [reported, List.count_filterMap, List.count]
  refine List.countP_congr fun e _ => ?_
  rw [beq_iff_eq, beq_iff_eq, RelayEvent.report?_eq_some_iff]

theorem reported_concat : reported (es ++ [e]) = reported es ++ e.report?.toList := by
  rw [reported, List.filterMap_append, reported]
  cases e <;> rfl

theorem nodup_reported (h : initial.run? es = some s) : (reported es).Nodup := by
  refine List.nodup_iff_count_le_one.mpr fun d => ?_
  rw [count_reported, (counted h d).reports]
  split <;> decide

/-- There is room for the report of a loop that has not reported yet. -/
theorem length_lt_reportCapacity {ds : List Direction} (hn : ds.Nodup) (hd : d ∉ ds) :
    ds.length < reportCapacity := by
  have hsub : ds ⊆ [d.other] := by
    intro d' hd'
    have hne : d' ≠ d := fun h => hd (h ▸ hd')
    cases d <;> cases d' <;> first | exact absurd rfl hne | exact List.mem_singleton_self _
  exact Nat.lt_succ_of_le (List.subperm_of_subset hn hsub).length_le

theorem reportsAfter_eq {p : CopyPhase} (h : initial.run? es = some s) (hf : s.first = none)
    (hr : s.reports = reported es) (hs : CopyStep s.released d (s.phase d) e p) :
    s.reportsAfter e = reported (es ++ [e]) := by
  rw [reportsAfter, reported_concat, ← hr]
  cases he : e.report? with
  | none => rw [Option.toList_none, List.append_nil, ite_self]
  | some d' =>
    obtain rfl := RelayEvent.report?_eq_some_iff.mp he
    obtain rfl : d' = d := Option.some.inj hs.direction?_eq
    have hd : d' ∉ reported es := by
      rw [← List.count_eq_zero, count_reported, (counted h d').reports, hs.of_reported]
      rfl
    exact if_pos ⟨hf, hr ▸ length_lt_reportCapacity (nodup_reported h) hd⟩

/-- What the relay knows after these events. -/
structure Told (es : List RelayEvent) (s : RelayState) : Prop where
  waiting : s.first = none → s.reports = reported es
  concluded : s.first.isSome → .concluded ∈ es
  released : s.released = true ↔ .released ∈ es

-- The induction carries what the relay knows; that a loop reports once is taken from `counted`.
theorem told (h : initial.run? es = some s) : Told es s := by
  refine run_induction h ⟨fun _ => rfl, nofun, iff_of_false nofun nofun⟩ ?_
  intro es s e s' h ht hs
  have hleft : ∀ {e'}, e' ∈ es → e' ∈ es ++ [e] := List.mem_append_left _
  have hlast : e ∈ es ++ [e] := List.mem_append_right _ (List.mem_singleton_self e)
  have hreleased : e ≠ .released → (s.released = true ↔ .released ∈ es ++ [e]) := fun he => by
    rw [ht.released, List.mem_append, List.mem_singleton, or_iff_left he.symm]
  cases hs with
  | copied hs =>
    exact ⟨fun hf => reportsAfter_eq h hf (ht.waiting hf) hs, fun hf => hleft (ht.concluded hf),
      hreleased fun he => nomatch he ▸ hs.direction?_eq⟩
  | concluded | abandoned => exact ⟨nofun, fun _ => hlast, hreleased nofun⟩
  | released hf =>
    refine ⟨fun hf' => ?_, fun hf => hleft (ht.concluded hf), iff_of_true rfl hlast⟩
    rw [Option.isSome_iff_ne_none] at hf
    exact absurd hf' hf

/-- A relay never has to make up a direction. -/
theorem reports_ne_nil (h : initial.run? es = some s) (hf : s.first = none)
    (hp : s.phases = .both .reported) : s.reports ≠ [] := by
  have hd : .clientToBackend ∈ reported es := by
    rw [← List.count_pos_iff, count_reported, (counted h _).reports, phase, hp]
    decide
  rw [(told h).waiting hf]
  exact List.ne_nil_of_mem hd

theorem exists_concluded (h : initial.run? es = some s) (hd : s.first = some d) :
    ∃ before after, es = before ++ .concluded :: after ∧ (reported before).head? = some d := by
  revert hd
  refine run_induction (P := fun es s => s.first = some d → ∃ before after,
    es = before ++ .concluded :: after ∧ (reported before).head? = some d) h nofun ?_
  intro es s e s' h ih hs hd
  cases hs with
  | concluded hf hr =>
    refine ⟨es, [], rfl, ?_⟩
    rw [← (told h).waiting hf, hr, ← hd]
  | abandoned hf hr hp => exact absurd hr (reports_ne_nil h hf hp)
  | copied | released =>
    obtain ⟨before, after, rfl, hb⟩ := ih hd
    exact ⟨before, after ++ [_], List.append_assoc .., hb⟩

/-! ### Every order of steps -/

/-- What is written in a direction is what was read there, and at most a buffer of it is missing. -/
structure Faithful (es : List RelayEvent) (d : Direction) : Prop where
  inOrder : bytesWritten d es <+: bytesRead d es
  lag : (bytesRead d es).length ≤ (bytesWritten d es).length + bufferSize
  whole : .readEnded d ∈ es → bytesWritten d es = bytesRead d es

/-- A loop ends at the latest when it is released. Then it can shut its writer down, does so once,
and only reports after it. -/
structure ShutsDownOnce (es : List RelayEvent) (s : RelayState) (d : Direction) : Prop where
  stops : .released ∈ es → (∀ e ∈ es, ¬ e.Ends d) → ∃ s', s.step? (.stopped d) = some s'
  possible : ∀ e ∈ es, e.Ends d → .shutDown d ∉ es → ∃ s', s.step? (.shutDown d) = some s'
  atMostOnce : es.count (.shutDown d) ≤ 1
  beforeReport : .reported d ∈ es → es.count (.shutDown d) = 1
  last : ∀ before after, es = before ++ .shutDown d :: after →
    ∀ e ∈ after, e.direction? = some d → e = .reported d

/-- The outcome is the direction that reported first, and only then the loops are released. -/
structure Concludes (es : List RelayEvent) (s : RelayState) : Prop where
  possible : ∀ d, s.first = none → .reported d ∈ es → ∃ s', s.step? .concluded = some s'
  fromReport : ∀ s', s.step? .concluded = some s' →
    ∃ d, s.reports.head? = some d ∧ s'.first = some d
  first : ∀ d, s.first = some d → ∃ before between after,
    es = before ++ .reported d :: (between ++ .concluded :: after) ∧
      .shutDown d ∈ before ∧ .reported d.other ∉ before
  release : ∀ before after, es = before ++ .released :: after → .concluded ∈ before
  stop : ∀ d before after, es = before ++ .stopped d :: after → .released ∈ before

theorem faithful_of_run? (h : initial.run? es = some s) (d : Direction) : Faithful es d := by
  obtain ⟨left, hc⟩ := exists_carried h d
  refine ⟨⟨left, hc.bytes.symm⟩, ?_, fun hm => ?_⟩
  · rw [hc.bytes, List.length_append]
    exact Nat.add_le_add_left hc.bounded _
  · rw [hc.bytes, (hc.whole hm).1, List.append_nil]

theorem rank_pos_of_ends (h : initial.run? es = some s) (he : e ∈ es) (hd : e.Ends d) :
    1 ≤ (s.phase d).rank := by
  obtain ⟨before, after, rfl⟩ := List.append_of_mem he
  obtain ⟨t, t', -, hs, h⟩ := exists_step h
  rw [← (hs.copyStep hd.direction?_eq).rank_eq_one hd]
  exact rank_le_of_run? h

theorem shutsDownOnce_of_run? (h : initial.run? es = some s) (d : Direction) :
    ShutsDownOnce es s d := by
  have hc := counted h d
  refine ⟨fun hr he => ?_, fun e he hd hm => ?_, ?_, fun hm => ?_, ?_⟩
  · have hp : ¬ 1 ≤ (s.phase d).rank := fun hp => by
      obtain ⟨e, hm, hd⟩ := hc.ended hp
      exact he e hm hd
    rw [step?, (told h).released.mpr hr]
    cases hp' : s.phase d with
    | reading | writing => exact ⟨_, rfl⟩
    | ending | shutDown | reported => exact absurd (by rw [hp']; decide) hp
  · have hpos := rank_pos_of_ends h he hd
    have hlt : ¬ 2 ≤ (s.phase d).rank := fun hp => hm (hc.shutDown_mem hp)
    have hp : s.phase d = .ending := by
      cases hp : s.phase d <;> rw [hp] at hpos hlt <;> first | rfl | simp at hpos hlt
    exact ⟨_, if_pos hp⟩
  · rw [hc.shutDowns]
    split <;> decide
  · rw [hc.shutDowns, if_pos (Nat.le_of_succ_le (hc.reported_mem_iff.mp hm))]
  · rintro before after rfl e he hd
    obtain ⟨t, t', -, hs, h⟩ := exists_step h
    refine eq_reported_of_mem h ?_ he hd
    rw [(hs.copyStep rfl).of_shutDown]
    exact Nat.le_refl 2

theorem head?_reports (h : initial.run? es = some s) (hs : Step s .concluded s') :
    ∃ d, s.reports.head? = some d ∧ s'.first = some d := by
  cases hs with
  | concluded hf hd => exact ⟨_, hd, rfl⟩
  | abandoned hf hr hp => exact absurd hr (reports_ne_nil h hf hp)
  | copied hc => exact nomatch hc.direction?_eq

theorem Step.of_released (h : Step s .released s') : s.first.isSome := by
  cases h with
  | released hf => exact hf
  | copied hc => exact nomatch hc.direction?_eq

/-- The first report was made by a loop that had shut its writer down. -/
theorem exists_first_report (h : initial.run? es = some s) (hd : (reported es).head? = some d) :
    ∃ before after, es = before ++ .reported d :: after ∧ .shutDown d ∈ before ∧
      .reported d.other ∉ before := by
  obtain ⟨ds, hds⟩ := List.head?_eq_some_iff.mp hd
  obtain ⟨before, e, after, rfl, hnone, he, -⟩ := List.filterMap_eq_cons_iff.mp hds
  obtain rfl := RelayEvent.report?_eq_some_iff.mp he
  refine ⟨before, after, rfl, ?_, fun hm => nomatch hnone _ hm⟩
  obtain ⟨t, t', ht, hs, -⟩ := exists_step h
  refine (counted ht d).shutDown_mem ?_
  rw [(hs.copyStep rfl).of_reported]
  exact Nat.le_refl 2

theorem concludes_of_run? (h : initial.run? es = some s) : Concludes es s := by
  refine ⟨fun d hf hd => ?_, fun s' hs => head?_reports h (.of_step? hs), fun d hd => ?_, ?_, ?_⟩
  · have hm : d ∈ s.reports := by
      rw [(told h).waiting hf]
      exact List.mem_filterMap.mpr ⟨_, hd, rfl⟩
    obtain ⟨d', ds, hr⟩ := List.exists_cons_of_ne_nil (List.ne_nil_of_mem hm)
    rw [step?, hf, hr]
    exact ⟨_, rfl⟩
  · obtain ⟨pre, post, rfl, hfirst⟩ := exists_concluded h hd
    obtain ⟨t, -, ht, -, -⟩ := exists_step h
    obtain ⟨before, between, rfl, hshut, hother⟩ := exists_first_report ht hfirst
    exact ⟨before, between, post, List.append_assoc .., hshut, hother⟩
  · rintro before after rfl
    obtain ⟨t, t', ht, hs, -⟩ := exists_step h
    exact (told ht).concluded hs.of_released
  · rintro d before after rfl
    obtain ⟨t, t', ht, hs, -⟩ := exists_step h
    exact (told ht).released.mp (hs.copyStep rfl).of_stopped

theorem relay_loses_nothing (es : List RelayEvent) (s : RelayState)
    (h : initial.run? es = some s) :
    (∀ d, Faithful es d ∧ ShutsDownOnce es s d) ∧ Concludes es s :=
  ⟨fun d => ⟨faithful_of_run? h d, shutsDownOnce_of_run? h d⟩, concludes_of_run? h⟩

/-- The client says all it has to say while the backend's loop holds a byte back. -/
def clientFirst : List RelayEvent :=
  [.read .clientToBackend [1, 2], .read .backendToClient [3], .written .clientToBackend [1],
    .written .clientToBackend [2], .readEnded .clientToBackend, .shutDown .clientToBackend,
    .reported .clientToBackend, .concluded, .released, .stopped .backendToClient,
    .shutDown .backendToClient]

theorem clientFirst_loses_nothing :
    initial.run? clientFirst =
        some ⟨⟨.reported, .shutDown⟩, [.clientToBackend], some .clientToBackend, true⟩ ∧
      (∀ d, Faithful clientFirst d ∧ ShutsDownOnce clientFirst
        ⟨⟨.reported, .shutDown⟩, [.clientToBackend], some .clientToBackend, true⟩ d) ∧
      Concludes clientFirst
        ⟨⟨.reported, .shutDown⟩, [.clientToBackend], some .clientToBackend, true⟩ :=
  have h : initial.run? clientFirst = some _ := rfl
  ⟨h, relay_loses_nothing _ _ h⟩

end RelayState
end SiteGateway
