import SiteGateway.Proofs.Count
import SiteGateway.Server.Connections

/-!
# Guards that are held are counted

Counts are shared by copies of a tracker, and identifiers by all of them. `Counted` ties both to the
guards that were given out: a count is the number of guards held on it, up to the size of a word,
and the identifier of a guard is its place in the order in which they were given out. Each way a
step can go (`Step.of_step`) keeps this, and takes one from the count of the guard that it drops or
adds one to the count that it tracks on (`Step.heldOn`). As long as words suffice, the words are the
numbers (`active_eq_held`).
-/

namespace SiteGateway

/-- Whether a guard is asked for. -/
def TrackerStep.tracks : TrackerStep → Bool
  | track _ => true
  | _ => false

namespace ConnectionTrackers

variable {s s' : ConnectionTrackers} {e : TrackerStep} {es : List TrackerStep} {first : UInt64}
  {t c : Nat}

/-- How many guards are held on a count. -/
def heldOn (s : ConnectionTrackers) (c : Nat) : Nat :=
  s.guards.countP fun g => c == g.count && g.held

/-- A step gives a guard on this count. -/
def opens (s : ConnectionTrackers) (c : Nat) : TrackerStep → Bool
  | .track t => s.trackers[t]? == some c
  | _ => false

/-- A step drops a guard that is held on this count. -/
def closes (s : ConnectionTrackers) (c : Nat) : TrackerStep → Bool
  | .drop i => (s.held? i).any (c == ·.count)
  | _ => false

/-! ## One step -/

/-- The ways trackers can go on. -/
inductive Step (s : ConnectionTrackers) : TrackerStep → ConnectionTrackers → Prop
  | created :
      Step s .create { s with
        counts := s.counts ++ [0], trackers := s.trackers ++ [s.counts.length] }
  | cloned {t c : Nat} (ht : s.trackers[t]? = some c) :
      Step s (.clone t) { s with trackers := s.trackers ++ [c] }
  | tracked {t c : Nat} (ht : s.trackers[t]? = some c) :
      Step s (.track t) { s with
        counts := s.counts.modify c (· + 1), nextId := s.nextId + 1
        guards := s.guards ++ [⟨c, s.nextId, true⟩] }
  | dropped {i : Nat} {g : ConnectionGuard} (hg : s.guards[i]? = some g) (hh : g.held = true) :
      Step s (.drop i) { s with
        counts := s.counts.modify g.count (· - 1)
        guards := s.guards.set i { g with held := false } }
  /-- There is no such tracker, or no such guard is held. -/
  | idle {e : TrackerStep} (ho : ∀ c, s.opens c e = false) (hc : ∀ c, s.closes c e = false) :
      Step s e s

theorem held?_eq_some_iff {i : Nat} {g : ConnectionGuard} :
    s.held? i = some g ↔ s.guards[i]? = some g ∧ g.held = true := by
  rw [held?, Option.filter_eq_some_iff]

theorem Step.of_step (s : ConnectionTrackers) (e : TrackerStep) : Step s e (s.step e) := by
  cases e with
  | create => exact .created
  | clone t =>
    rw [step, clone]
    cases ht : s.trackers[t]? with
    | none => exact .idle (fun c => rfl) fun c => rfl
    | some c => exact .cloned ht
  | track t =>
    rw [step, track]
    cases ht : s.trackers[t]? with
    | none => exact .idle (fun c => by simp [opens, ht]) fun c => rfl
    | some c => exact .tracked ht
  | drop i =>
    rw [step, drop]
    cases hg : s.held? i with
    | none => exact .idle (fun c => rfl) fun c => by simp [closes, hg]
    | some g =>
      obtain ⟨hi, hh⟩ := held?_eq_some_iff.mp hg
      exact .dropped hi hh

/-- A step changes the guards held on a count by the one that it gives or drops there. -/
theorem Step.heldOn (h : Step s e s') (c : Nat) :
    s'.heldOn c + (s.closes c e).toNat = s.heldOn c + (s.opens c e).toNat := by
  cases h with
  | created | cloned => rfl
  | @tracked t c' ht =>
    rw [ConnectionTrackers.heldOn, List.countP_append, opens, ht]
    by_cases hc : c = c'
    · simp [ConnectionTrackers.heldOn, closes, hc]
    · simp [ConnectionTrackers.heldOn, closes, hc, Ne.symm hc]
  | @dropped i g hg hh =>
    have hset := countP_set_add (p := fun g => c == g.count && g.held) hg { g with held := false }
    rw [closes, held?_eq_some_iff.mpr ⟨hg, hh⟩]
    simpa [ConnectionTrackers.heldOn, opens, hh] using hset
  | idle ho hc => rw [ho, hc]

/-! ## The words -/

theorem getD_modify {l : List UInt64} {i : Nat} (hi : i < l.length) (f : UInt64 → UInt64)
    (j : Nat) : (l.modify i f)[j]?.getD 0 = if i = j then f (l[j]?.getD 0) else l[j]?.getD 0 := by
  rw [List.getElem?_modify]
  by_cases h : i = j
  · subst h
    simp [List.getElem?_eq_getElem hi]
  · simp [h]

/-- Words and guards agree, where identifiers begin at `first`. -/
structure Counted (first : UInt64) (s : ConnectionTrackers) : Prop where
  counts : ∀ c, s.counts[c]?.getD 0 = UInt64.ofNat (s.heldOn c)
  trackers : ∀ c ∈ s.trackers, c < s.counts.length
  guards : ∀ g ∈ s.guards, g.count < s.counts.length
  nextId : s.nextId = first + UInt64.ofNat s.guards.length
  ids : s.guards.map (·.id) = (List.range s.guards.length).map fun i => first + UInt64.ofNat i

namespace Counted

theorem initial (first : UInt64) : Counted first (initial first) :=
  ⟨fun _ => rfl, nofun, nofun, (UInt64.add_zero first).symm, rfl⟩

theorem create (h : Counted first s) : Counted first s.create where
  counts c := by
    change (s.counts ++ [0])[c]?.getD 0 = UInt64.ofNat (s.heldOn c)
    rw [List.getElem?_append]
    split
    · exact h.counts c
    next hc =>
      -- The new count is at zero, and no guard can be on it yet.
      have hnone : s.heldOn c = 0 := by
        refine List.countP_eq_zero.mpr fun g hg hgc => hc ?_
        exact (eq_of_beq (Bool.and_eq_true_iff.mp hgc).1).symm ▸ h.guards g hg
      rw [hnone]
      cases c - s.counts.length <;> rfl
  trackers c hc := by
    rw [ConnectionTrackers.create, List.length_append]
    rcases List.mem_append.mp hc with hc | hc
    · exact Nat.lt_add_right 1 (h.trackers c hc)
    · rw [List.mem_singleton.mp hc]
      exact Nat.lt_add_one _
  guards g hg := by
    rw [ConnectionTrackers.create, List.length_append]
    exact Nat.lt_add_right 1 (h.guards g hg)
  nextId := h.nextId
  ids := h.ids

/-- Where one count changes as the guards held on it do, all counts are right. -/
theorem counts_modify (h : Counted first s) (hs : Step s e s') {i : Nat} {f : UInt64 → UInt64}
    (hi : i < s.counts.length) (hcounts : s'.counts = s.counts.modify i f)
    (hf : f (UInt64.ofNat (s.heldOn i)) = UInt64.ofNat (s'.heldOn i))
    (hother : ∀ c, i ≠ c → s.opens c e = false ∧ s.closes c e = false) (c : Nat) :
    s'.counts[c]?.getD 0 = UInt64.ofNat (s'.heldOn c) := by
  rw [hcounts, getD_modify hi]
  split
  next hc =>
    subst hc
    rw [h.counts, hf]
  next hc =>
    have hheld := hs.heldOn c
    rw [(hother c hc).1, (hother c hc).2] at hheld
    rw [h.counts, show s'.heldOn c = s.heldOn c from hheld]

theorem track {t c : Nat} (h : Counted first s) (ht : s.trackers[t]? = some c) :
    Counted first { s with
      counts := s.counts.modify c (· + 1), nextId := s.nextId + 1
      guards := s.guards ++ [⟨c, s.nextId, true⟩] } := by
  have hstep := Step.tracked ht
  have hc : c < s.counts.length := h.trackers c (List.mem_of_getElem? ht)
  constructor
  · refine h.counts_modify hstep hc rfl ?_ fun c' hc' => ⟨?_, rfl⟩
    · have hheld := hstep.heldOn c
      rw [show s.opens c (.track t) = true by simp [opens, ht]] at hheld
      change heldOn _ c = s.heldOn c + 1 at hheld
      rw [hheld, UInt64.ofNat_add]
      rfl
    · simp [opens, ht, hc']
  · intro c' hc'
    rw [List.length_modify]
    exact h.trackers c' hc'
  · intro g hg
    rw [List.length_modify]
    rcases List.mem_append.mp hg with hg | hg
    · exact h.guards g hg
    · exact List.mem_singleton.mp hg ▸ hc
  · rw [List.length_append, UInt64.ofNat_add, ← UInt64.add_assoc, ← h.nextId]
    rfl
  · rw [List.length_append, List.map_append, h.ids, List.length_singleton, List.range_succ,
      List.map_append, List.map_singleton, List.map_singleton, ← h.nextId]

theorem drop {i : Nat} {g : ConnectionGuard} (h : Counted first s) (hg : s.guards[i]? = some g)
    (hh : g.held = true) :
    Counted first { s with
      counts := s.counts.modify g.count (· - 1)
      guards := s.guards.set i { g with held := false } } := by
  have hstep := Step.dropped hg hh
  have hc : g.count < s.counts.length := h.guards g (List.mem_of_getElem? hg)
  have hclose (c : Nat) : s.closes c (.drop i) = (c == g.count) := by
    rw [closes, held?_eq_some_iff.mpr ⟨hg, hh⟩]
    rfl
  constructor
  -- the guard that is dropped was counted, so the word does not go below zero
  · refine h.counts_modify hstep hc rfl ?_ fun c' hc' => ⟨rfl, ?_⟩
    · have hheld := hstep.heldOn g.count
      rw [hclose, beq_self_eq_true] at hheld
      change heldOn _ g.count + 1 = s.heldOn g.count at hheld
      rw [← hheld, UInt64.ofNat_add]
      exact UInt64.add_sub_cancel ..
    · rw [hclose, beq_eq_false_iff_ne]
      exact Ne.symm hc'
  · intro c' hc'
    rw [List.length_modify]
    exact h.trackers c' hc'
  · intro g' hg'
    rw [List.length_modify]
    rcases List.mem_or_eq_of_mem_set hg' with hg' | rfl
    · exact h.guards g' hg'
    · exact hc
  · rw [List.length_set]
    exact h.nextId
  · rw [List.length_set, ← h.ids]
    exact map_set_eq hg rfl

theorem step (h : Counted first s) (hs : Step s e s') : Counted first s' := by
  cases hs with
  | created => exact h.create
  | @cloned t c ht =>
    refine ⟨h.counts, fun c' hc' => ?_, h.guards, h.nextId, h.ids⟩
    rcases List.mem_append.mp hc' with hc' | hc'
    · exact h.trackers c' hc'
    · exact List.mem_singleton.mp hc' ▸ h.trackers c (List.mem_of_getElem? ht)
  | tracked ht => exact h.track ht
  | dropped hg hh => exact h.drop hg hh
  | idle => exact h

theorem run (h : Counted first s) : Counted first (s.run es) := by
  induction es generalizing s with
  | nil => exact h
  | cons e es ih => exact ih (h.step (.of_step s e))

end Counted

/-! ## Words that suffice -/

theorem length_guards_run :
    (s.run es).guards.length ≤ s.guards.length + es.countP TrackerStep.tracks := by
  induction es generalizing s with
  | nil => exact Nat.le_refl _
  | cons e es ih =>
    have hstep : (s.step e).guards.length ≤ s.guards.length + e.tracks.toNat := by
      generalize hs' : s.step e = s'
      cases hs' ▸ Step.of_step s e with
      | created | cloned | idle => exact Nat.le_add_right ..
      | tracked => exact Nat.le_of_eq List.length_append
      | dropped => exact Nat.le_of_eq List.length_set
    have hrun : (s.run (e :: es)).guards.length ≤
        (s.step e).guards.length + es.countP TrackerStep.tracks := ih
    have hone : (if e.tracks = true then 1 else 0) = e.tracks.toNat := by cases e.tracks <;> rfl
    rw [List.countP_cons, hone]
    omega

theorem trackers_step (ht : s.trackers[t]? = some c) (e : TrackerStep) :
    (s.step e).trackers[t]? = some c := by
  have hlt : t < s.trackers.length := (List.getElem?_eq_some_iff.mp ht).1
  generalize hs' : s.step e = s'
  cases hs' ▸ Step.of_step s e with
  | created | cloned => rw [List.getElem?_append_left hlt, ht]
  | tracked | dropped | idle => exact ht

/-- A copy shares the count of its tracker, and a tracker that is created has one of its own. -/
theorem trackers_concat (h : Counted first s) (ht : s.trackers[t]? = some c) :
    (s.clone t).trackers[s.trackers.length]? = some c ∧
      s.create.trackers[s.trackers.length]? ≠ some c := by
  have hlt : c < s.counts.length := h.trackers c (List.mem_of_getElem? ht)
  rw [clone, ht, create, List.getElem?_concat_length, List.getElem?_concat_length]
  exact ⟨rfl, fun he => Nat.ne_of_gt hlt (Option.some.inj he)⟩

theorem heldOf_eq (ht : s.trackers[t]? = some c) : s.heldOf t = s.heldOn c := by
  rw [heldOf, ht]
  rfl

theorem active_eq_held (h : Counted first s) (hl : s.guards.length < UInt64.size) (t : Nat) :
    (s.active t).toNat = s.heldOf t := by
  cases ht : s.trackers[t]? with
  | none => simp [active, heldOf, ht]
  | some c =>
    have hle : s.heldOn c ≤ s.guards.length := List.countP_le_length
    rw [heldOf_eq ht, active, ht, Option.bind_some, h.counts]
    exact UInt64.toNat_ofNat_of_lt' (Nat.lt_of_le_of_lt hle hl)

/-- Identifiers do not come round as long as words suffice. -/
theorem ids_increase (h : Counted first s) (hl : first.toNat + s.guards.length ≤ UInt64.size) :
    (s.guards.map (·.id)).Pairwise (· < ·) := by
  rw [h.ids, List.pairwise_map]
  refine List.Pairwise.imp_of_mem (fun {i j} hi hj hij => ?_) List.pairwise_lt_range
  have hword (k : Nat) (hk : k ∈ List.range s.guards.length) :
      (first + UInt64.ofNat k).toNat = first.toNat + k := by
    have hlt := List.mem_range.mp hk
    have hsize : first.toNat + k < UInt64.size := by omega
    rw [UInt64.toNat_add, UInt64.toNat_ofNat_of_lt' (by omega)]
    exact Nat.mod_eq_of_lt hsize
  rw [UInt64.lt_iff_toNat_lt, hword i hi, hword j hj]
  exact Nat.add_lt_add_left hij _

/-- A step changes a count by the guard that it gives or drops there. -/
theorem active_step (h : Counted first s) (hl : s.guards.length < UInt64.size)
    (hl' : (s.step e).guards.length < UInt64.size) (ht : s.trackers[t]? = some c) :
    ((s.step e).active t).toNat + (s.closes c e).toNat =
      (s.active t).toNat + (s.opens c e).toNat := by
  rw [active_eq_held h hl, active_eq_held (h.step (.of_step s e)) hl', heldOf_eq ht,
    heldOf_eq (trackers_step ht e)]
  exact (Step.of_step s e).heldOn c

/-- As long as words suffice, every tracker counts the guards that were obtained from it or its
copies and are still held, after every step. A guard that is given or dropped takes this count up or
down by one and changes no other, so none falls below zero; and each guard has a greater identifier
than all before it. Only copies share a count, and a tracker keeps its own. -/
theorem guards_counted (h : es.countP TrackerStep.tracks < UInt64.size) :
    (∀ before after, es = before ++ after → ∀ t,
      ((start.run before).active t).toNat = (start.run before).heldOf t) ∧
    (∀ before e after, es = before ++ e :: after → ∀ t c,
      (start.run before).trackers[t]? = some c →
      ((start.run before).step e).trackers[t]? = some c ∧
      (((start.run before).step e).active t).toNat + ((start.run before).closes c e).toNat =
        ((start.run before).active t).toNat + ((start.run before).opens c e).toNat) ∧
    (∀ t c, (start.run es).trackers[t]? = some c →
      ((start.run es).clone t).trackers[(start.run es).trackers.length]? = some c ∧
      (start.run es).create.trackers[(start.run es).trackers.length]? ≠ some c) ∧
    ((start.run es).guards.map (·.id)).Pairwise (· < ·) := by
  have hcounted (es : List TrackerStep) : Counted 1 (start.run es) := (Counted.initial 1).run
  have hlength (before after : List TrackerStep) (hes : es = before ++ after) :
      (start.run before).guards.length < UInt64.size := by
    have hle : (start.run before).guards.length ≤ 0 + before.countP TrackerStep.tracks :=
      length_guards_run
    rw [hes, List.countP_append] at h
    omega
  refine ⟨fun before after hes t => ?_, fun before e after hes t c ht => ⟨trackers_step ht e, ?_⟩,
    fun t c ht => trackers_concat (hcounted es) ht, ?_⟩
  · exact active_eq_held (hcounted before) (hlength before after hes) t
  · have hstep : start.run (before ++ [e]) = (start.run before).step e := List.foldl_append
    refine active_step (hcounted before) (hlength before _ hes) ?_ ht
    exact hstep ▸ hlength (before ++ [e]) after (hes.trans (List.append_cons ..))
  · have hle := hlength es [] (List.append_nil es).symm
    refine ids_increase (hcounted es) ?_
    change 1 + (start.run es).guards.length ≤ UInt64.size
    omega

/-- Two trackers that share a count and one that has its own. -/
theorem guards_counted_shared :
    let es : List TrackerStep :=
      [.create, .clone 0, .create, .track 0, .track 1, .track 2, .drop 0]
    es.countP TrackerStep.tracks < UInt64.size ∧ ((start.run es).active 1).toNat = 1 ∧
      ((start.run es).active 1).toNat + 1 = ((start.run (es.take 6)).active 1).toNat ∧
      ((start.run es).guards.map (·.id)).Pairwise (· < ·) := by
  intro es
  have h : es.countP TrackerStep.tracks < UInt64.size := by decide
  obtain ⟨hheld, hstep, -, hids⟩ := guards_counted h
  refine ⟨h, ?_, ?_, hids⟩
  · exact (hheld es [] rfl 1).trans (by decide)
  · exact (hstep (es.take 6) (.drop 0) [] rfl 1 0 (by decide)).2

end ConnectionTrackers
end SiteGateway
