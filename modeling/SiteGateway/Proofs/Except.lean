import Mathlib.Data.List.Perm.Basic

/-!
# Computations that may fail

When a composed computation succeeds, each of its steps has; when it fails, the first step that
failed says why.
-/

namespace Except
variable {ε ε' α β : Type} {x : Except ε α}

theorem bind_eq_ok_iff {f : α → Except ε β} {b : β} :
    x.bind f = .ok b ↔ ∃ a, x = .ok a ∧ f a = .ok b := by
  cases x <;> simp [Except.bind]

theorem map_eq_ok_iff {f : α → β} {b : β} : x.map f = .ok b ↔ ∃ a, x = .ok a ∧ f a = b := by
  cases x <;> simp [Except.map]

theorem mapError_eq_ok_iff {f : ε → ε'} {a : α} : x.mapError f = .ok a ↔ x = .ok a := by
  cases x with
  | ok b => exact ⟨fun h => congrArg ok (ok.inj h), fun h => congrArg ok (ok.inj h)⟩
  | error e => exact ⟨nofun, nofun⟩

theorem mapError_eq_error_iff {f : ε → ε'} {e : ε'} :
    x.mapError f = .error e ↔ ∃ e', x = .error e' ∧ f e' = e := by
  cases x <;> simp [Except.mapError]

theorem toOption_eq_some_iff {a : α} : x.toOption = some a ↔ x = .ok a := by
  cases x <;> simp [Except.toOption]

section
variable {f : α → Except ε β} {as as' : List α} {bs : List β} {b : β}

theorem mapM_eq_ok_iff : as.mapM f = .ok bs ↔ List.Forall₂ (fun a b => f a = .ok b) as bs := by
  induction as generalizing bs with
  | nil => cases bs <;> simp [pure, Except.pure]
  | cons a as ih =>
    rw [List.mapM_cons]
    constructor
    · intro h
      obtain ⟨b, hb, h⟩ := bind_eq_ok_iff.mp h
      obtain ⟨bs', hbs, h⟩ := bind_eq_ok_iff.mp h
      cases h
      exact .cons hb (ih.mp hbs)
    · rintro (_ | ⟨hb, hbs⟩)
      exact bind_eq_ok_iff.mpr ⟨_, hb, bind_eq_ok_iff.mpr ⟨_, ih.mpr hbs, rfl⟩⟩

theorem mapM_eq_error_iff {e : ε} : as.mapM f = .error e ↔
    ∃ front a back, as = front ++ a :: back ∧ (∀ x ∈ front, ∃ b, f x = .ok b) ∧ f a = .error e := by
  induction as with
  | nil => simp [pure, Except.pure]
  | cons a as ih =>
    rw [List.mapM_cons]
    constructor
    · intro h
      cases ha : f a with
      | error e' =>
        rw [ha] at h
        exact ⟨[], a, as, rfl, nofun, ha.trans (congrArg error (error.inj h))⟩
      -- the first element succeeds, so the failure is one of the others
      | ok b =>
        rw [ha] at h
        cases has : as.mapM f with
        | ok bs => rw [has] at h; cases h
        | error e' =>
          rw [has] at h
          obtain ⟨front, x, back, rfl, hfront, hx⟩ :=
            ih.mp (has.trans (congrArg error (error.inj h)))
          refine ⟨a :: front, x, back, rfl, fun y hy => ?_, hx⟩
          rcases List.mem_cons.mp hy with rfl | hy
          · exact ⟨b, ha⟩
          · exact hfront y hy
    · rintro ⟨_ | ⟨y, front⟩, x, back, heq, hfront, hx⟩
      · obtain ⟨rfl, rfl⟩ := List.cons.inj heq
        rw [hx]
        rfl
      · obtain ⟨rfl, rfl⟩ := List.cons.inj heq
        obtain ⟨b, hb⟩ := hfront a List.mem_cons_self
        rw [hb, ih.mpr ⟨front, x, back, rfl, fun z hz => hfront z (List.mem_cons_of_mem _ hz), hx⟩]
        rfl

theorem exists_mapM_eq_ok_iff : (∃ bs, as.mapM f = .ok bs) ↔ ∀ a ∈ as, ∃ b, f a = .ok b := by
  constructor
  · rintro ⟨bs, h⟩ a ha
    induction mapM_eq_ok_iff.mp h with
    | nil => cases ha
    | cons hb has ih =>
      rcases List.mem_cons.mp ha with rfl | ha
      · exact ⟨_, hb⟩
      · exact ih (mapM_eq_ok_iff.mpr has) ha
  · intro h
    cases hbs : as.mapM f with
    | ok bs => exact ⟨bs, rfl⟩
    | error e =>
      obtain ⟨front, a, back, rfl, -, ha⟩ := mapM_eq_error_iff.mp hbs
      obtain ⟨b, hb⟩ := h a (by simp)
      rw [ha] at hb
      cases hb

theorem exists_of_mem_mapM (h : as.mapM f = .ok bs) (hb : b ∈ bs) : ∃ a ∈ as, f a = .ok b := by
  induction mapM_eq_ok_iff.mp h with
  | nil => cases hb
  | cons ha has ih =>
    rcases List.mem_cons.mp hb with rfl | hb
    · exact ⟨_, .head _, ha⟩
    · obtain ⟨a, hm, ha⟩ := ih (mapM_eq_ok_iff.mpr has) hb
      exact ⟨a, .tail _ hm, ha⟩

theorem mapM_perm (hp : as.Perm as') (h : as.mapM f = .ok bs) :
    ∃ bs', as'.mapM f = .ok bs' ∧ bs'.Perm bs := by
  obtain ⟨bs', hbs, hperm⟩ := List.perm_comp_forall₂ hp.symm (mapM_eq_ok_iff.mp h)
  exact ⟨bs', mapM_eq_ok_iff.mpr hbs, hperm⟩

end

/-! ### Whether a computation succeeds -/

/-- That a computation succeeds, and else why it does not. -/
def outcome (x : Except ε α) : Except ε Unit := x.map fun _ => ()

theorem outcome_eq_ok_iff : x.outcome = .ok () ↔ ∃ a, x = .ok a := by
  cases x <;> simp [outcome, Except.map]

theorem outcome_eq_error_iff {e : ε} : x.outcome = .error e ↔ x = .error e := by
  cases x <;> simp [outcome, Except.map]

theorem outcome_map (f : α → β) : (x.map f).outcome = x.outcome := by cases x <;> rfl

/-- The outcome of two steps, the second of which does not depend on what the first one gives. -/
theorem outcome_bind {f : α → Except ε β} {v r : Except ε Unit} (hx : x.outcome = v)
    (hf : ∀ a, x = .ok a → (f a).outcome = r) : (x.bind f).outcome = v.bind fun _ => r := by
  subst hx
  cases x with
  | error e => rfl
  | ok a => exact hf a rfl

theorem outcome_mapM_cons {f : α → Except ε Unit} {a : α} {as : List α} :
    ((a :: as).mapM f).outcome = (f a).bind fun _ => (as.mapM f).outcome := by
  rw [List.mapM_cons]
  cases f a with
  | error e => rfl
  | ok u =>
    change Except.outcome (Except.bind (as.mapM f) _) = (as.mapM f).outcome
    cases as.mapM f <;> rfl

end Except

/-- What every step of a run keeps holds of its result. -/
theorem Option.foldlM_induction {σ α : Type} {f : σ → α → Option σ} {P : σ → Prop} {as : List α}
    {s t : σ} (h : as.foldlM f s = some t) (hs : P s)
    (step : ∀ {s a t}, f s a = some t → P s → P t) : P t := by
  induction as generalizing s with
  | nil => exact Option.some.inj h ▸ hs
  | cons a as ih =>
    rw [List.foldlM_cons] at h
    obtain ⟨u, hu, h⟩ := Option.bind_eq_some_iff.mp h
    exact ih h (step hu hs)

theorem Option.mapM_eq_some_iff {α β : Type} {f : α → Option β} {as : List α} {bs : List β} :
    as.mapM f = some bs ↔ List.Forall₂ (fun a b => f a = some b) as bs := by
  induction as generalizing bs with
  | nil => cases bs <;> simp
  | cons a as ih =>
    rw [List.mapM_cons]
    constructor
    · intro h
      obtain ⟨b, hb, h⟩ := Option.bind_eq_some_iff.mp h
      obtain ⟨bs', hbs, h⟩ := Option.bind_eq_some_iff.mp h
      cases h
      exact .cons hb (ih.mp hbs)
    · rintro (_ | ⟨hb, hbs⟩)
      exact Option.bind_eq_some_iff.mpr ⟨_, hb, Option.bind_eq_some_iff.mpr ⟨_, ih.mpr hbs, rfl⟩⟩

theorem Option.exists_of_mem_mapM {α β : Type} {f : α → Option β} {as : List α} {bs : List β}
    {b : β} (h : as.mapM f = some bs) (hb : b ∈ bs) : ∃ a ∈ as, f a = some b := by
  induction Option.mapM_eq_some_iff.mp h with
  | nil => cases hb
  | @cons a b' as bs ha has ih =>
    rcases List.mem_cons.mp hb with rfl | hb
    · exact ⟨a, List.mem_cons_self, ha⟩
    · obtain ⟨a', hm, ha'⟩ := ih (Option.mapM_eq_some_iff.mpr has) hb
      exact ⟨a', List.mem_cons_of_mem _ hm, ha'⟩
