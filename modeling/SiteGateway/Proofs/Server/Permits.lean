import Mathlib.Data.List.Induction
import SiteGateway.Proofs.Count
import SiteGateway.Server.Admission

/-!
# Permits of connections

What holds after every order of steps is read off one inversion (`Admission.Step.of_step?`).
`Balanced` is what the permits come to: each is free, reserved for the next client or held by a
connection, and a connection holds its own for as long as its task attends to it. A connection may
be open without being attended to, and `Balanced.openCount_le_iff` says what that costs.
-/

namespace SiteGateway

/-- No task comes back to a connection that it has left. -/
theorem ConnectionPhase.isAttended_of_leadsTo {p q : ConnectionPhase} (h : p.leadsTo q = true)
    (hq : q.isAttended = true) : p.isAttended = true := by
  revert h hq
  cases p <;> cases q <;> decide

namespace Admission

variable {s s' : Admission} {e : AdmissionStep}

/-- The ways an admission can go on. -/
inductive Step (s : Admission) : AdmissionStep → Admission → Prop
  | arrive (hl : s.listening = true) : Step s .arrive { s with queued := s.queued + 1 }
  | reserve (hl : s.listening = true) (hr : s.reserved = false) (hp : 0 < s.permits) :
      Step s .reserve { s with reserved := true, permits := s.permits - 1 }
  | accept (hr : s.reserved = true) (hq : 0 < s.queued) :
      Step s .accept { s with
        reserved := false, queued := s.queued - 1
        connections := s.connections ++ [⟨.accepted, true⟩] }
  | refuse (hr : s.reserved = true) :
      Step s .refuse { s with reserved := false, permits := s.permits + 1 }
  | stop (hl : s.listening = true) :
      Step s .stop { s with
        listening := false, queued := 0, reserved := false
        permits := s.permits + s.reserved.toNat }
  | turn {i : Nat} {x : Connection} {p : ConnectionPhase} (hx : s.connections[i]? = some x)
      (hp : x.phase.leadsTo p = true) : Step s (.turn i p) (s.put i { x with phase := p })
  | settle {i : Nat} {x : Connection} (hx : s.connections[i]? = some x) (hh : x.permit = true)
      (ha : x.phase.isAttended = false) :
      Step s (.settle i) { s.put i { x with permit := false } with permits := s.permits + 1 }

theorem Step.of_step? (h : s.step? e = some s') : Step s e s' := by
  cases e with
  | arrive =>
    obtain ⟨hl, h⟩ := Option.ite_none_right_eq_some.mp h
    cases h
    exact .arrive hl
  | reserve =>
    obtain ⟨⟨hl, hr, hp⟩, h⟩ := Option.ite_none_right_eq_some.mp h
    cases h
    exact .reserve hl hr hp
  | accept =>
    obtain ⟨⟨hr, hq⟩, h⟩ := Option.ite_none_right_eq_some.mp h
    cases h
    exact .accept hr hq
  | refuse =>
    obtain ⟨hr, h⟩ := Option.ite_none_right_eq_some.mp h
    cases h
    exact .refuse hr
  | stop =>
    obtain ⟨hl, h⟩ := Option.ite_none_right_eq_some.mp h
    cases h
    exact .stop hl
  | turn i p =>
    rw [step?] at h
    split at h
    next x hx =>
      obtain ⟨hp, h⟩ := Option.ite_none_right_eq_some.mp h
      cases h
      exact .turn hx hp
    next => cases h
  | settle i =>
    rw [step?] at h
    split at h
    next x hx =>
      obtain ⟨⟨hh, ha⟩, h⟩ := Option.ite_none_right_eq_some.mp h
      cases h
      exact .settle hx hh ha
    next => cases h

variable {x y : Connection} {i : Nat}

theorem held_put (h : s.connections[i]? = some x) (y : Connection) :
    (s.put i y).held + x.permit.toNat = s.held + y.permit.toNat :=
  countP_set_add h y

theorem mem_put (h : y ∈ (s.put i x).connections) : y ∈ s.connections ∨ y = x :=
  List.mem_or_eq_of_mem_set h

theorem limit_step (h : Step s e s') : s'.limit = s.limit := by
  cases h <;> rfl

/-! ### The balance -/

/-- Every permit is somewhere, and connections that are attended to hold one. Nobody is let in where
nobody is allowed. -/
structure Balanced (s : Admission) : Prop where
  permits : s.permits + s.reserved.toNat + s.held = s.limit
  attended : ∀ x ∈ s.connections, x.phase.isAttended = true → x.permit = true
  allowed : s.connections ≠ [] → 0 < s.limit

/-- How many connections are open without a permit. -/
def adrift (s : Admission) : Nat := s.connections.countP fun x => x.phase.isOpen && !x.permit

/-- How many connections are closed and still hold their permit. -/
def lingering (s : Admission) : Nat := s.connections.countP fun x => !x.phase.isOpen && x.permit

theorem openCount_add_lingering (s : Admission) :
    s.openCount + s.lingering = s.held + s.adrift := by
  rw [openCount, lingering, held, adrift]
  induction s.connections with
  | nil => rfl
  | cons x l ih =>
    simp only [List.countP_cons]
    cases x.phase.isOpen <;> cases x.permit <;> simp <;> omega

namespace Balanced

theorem initial (limit : Nat) : (Admission.initial limit).Balanced :=
  ⟨rfl, nofun, fun h => absurd rfl h⟩

theorem attended_put {i : Nat} {x : Connection} (h : s.Balanced)
    (hx : x.phase.isAttended = true → x.permit = true) :
    ∀ y ∈ (s.put i x).connections, y.phase.isAttended = true → y.permit = true := by
  intro y hy ha
  rcases mem_put hy with hy | rfl
  · exact h.attended y hy ha
  · exact hx ha

theorem step (h : s.Balanced) (hs : Step s e s') : s'.Balanced := by
  have hp := h.permits
  cases hs with
  | arrive => exact ⟨hp, h.attended, h.allowed⟩
  | reserve hl hr hpos =>
    -- the permit is set aside, not given out
    refine ⟨?_, h.attended, h.allowed⟩
    rw [hr] at hp
    change s.permits - 1 + 1 + s.held = s.limit
    change s.permits + 0 + s.held = s.limit at hp
    omega
  | accept hr =>
    constructor
    · have hheld : List.countP Connection.permit (s.connections ++ [⟨.accepted, true⟩]) =
          s.held + 1 := List.countP_append
      rw [hr] at hp
      change s.permits + 0 + List.countP Connection.permit _ = s.limit
      rw [hheld, ← hp]
      exact (Nat.add_right_comm s.permits 1 s.held).symm
    · intro x hx ha
      rcases List.mem_append.mp hx with hx | hx
      · exact h.attended x hx ha
      · rw [List.mem_singleton.mp hx]
    · intro _
      rw [hr] at hp
      change s.permits + 1 + s.held = s.limit at hp
      change 0 < s.limit
      omega
  | refuse hr =>
    refine ⟨?_, h.attended, h.allowed⟩
    rw [hr] at hp
    change s.permits + 1 + 0 + s.held = s.limit
    exact hp
  | stop => exact ⟨hp, h.attended, h.allowed⟩
  | @turn i x p hx hlead =>
    have hheld := held_put hx { x with phase := p }
    constructor
    · change s.permits + s.reserved.toNat + (s.put i { x with phase := p }).held = s.limit
      dsimp only at hheld
      omega
    · refine h.attended_put fun ha => h.attended x (List.mem_of_getElem? hx) ?_
      exact ConnectionPhase.isAttended_of_leadsTo hlead ha
    · exact fun _ => h.allowed (List.ne_nil_of_mem (List.mem_of_getElem? hx))
  | @settle i x hx hh hnone =>
    have hheld := held_put hx { x with permit := false }
    constructor
    · change s.permits + 1 + s.reserved.toNat + (s.put i { x with permit := false }).held = s.limit
      rw [hh] at hheld
      change _ + 1 = _ + 0 at hheld
      omega
    · exact h.attended_put fun ha => absurd ha (Bool.eq_false_iff.mp hnone)
    · exact fun _ => h.allowed (List.ne_nil_of_mem (List.mem_of_getElem? hx))

/-- More connections than allowed are open when those without a permit outnumber the permits that no
open connection holds. -/
theorem openCount_le_iff (h : s.Balanced) :
    s.openCount ≤ s.limit ↔ s.adrift ≤ s.permits + s.reserved.toNat + s.lingering := by
  have := h.permits
  have := s.openCount_add_lingering
  omega

end Balanced

end Admission
end SiteGateway
