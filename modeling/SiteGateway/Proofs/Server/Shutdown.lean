import SiteGateway.Proofs.Count
import SiteGateway.Server.Shutdown

/-!
# No shutdown is missed

Each way that a step can go (`ShutdownState.Step.of_step`) keeps the counters of a channel equal to
the coordinators and receivers that are left on it (`Consistent`). So a trigger is sent whenever
somebody listens, and puts every receiver of its channel one signal further behind. `Behind` says by
how many, and what a step changes about it: as much as is triggered, less what the receiver is told
of (`Behind.step`). Over a whole run this gives what the receiver finds next (`Hears`), which the
run shows as it shows each of its steps (`ShutdownState.getElem?_run`).
-/

namespace SiteGateway

/-- How many triggers it tells of, those that are lost included. -/
def ShutdownOutcome.told : ShutdownOutcome → Nat
  | signalled => 1
  | lagged n => n
  | done | empty | closed | dropped => 0

/-- What a receiver finds that has so many triggers unseen, `left` being whether somebody is left to
trigger. -/
def ShutdownOutcome.ofUnseen (left : Bool) : Nat → ShutdownOutcome
  | 0 => if left then .empty else .closed
  | 1 => .signalled
  | n + 2 => .lagged (n + 1)

/-! ## One channel -/

namespace SignalChannel
variable {c : SignalChannel} {next n : Nat}

@[simp] theorem senders_send : c.send.senders = c.senders := by unfold send; split <;> rfl
@[simp] theorem receivers_send : c.send.receivers = c.receivers := by unfold send; split <;> rfl

theorem next_send (h : c.receivers ≠ 0) : c.send.next = c.next + 1 := by rw [send, if_neg h]

theorem receive_eq (h : c.next = next + n) :
    (c.receive next).1 = .ofUnseen (c.senders != 0) n := by
  have hold : c.oldest = next + n - 1 := by rw [oldest, h, capacity]
  rw [receive, hold, h]
  match n with
  | 0 =>
    rw [Nat.add_zero, if_pos rfl]
    by_cases hs : c.senders = 0 <;> simp [ShutdownOutcome.ofUnseen, hs]
  | 1 =>
    rw [if_neg (by omega), if_neg (by omega)]
    rfl
  | n + 2 =>
    rw [if_neg (by omega), if_pos (by omega)]
    exact congrArg ShutdownOutcome.lagged (by omega)

/-- A receiver comes forward by the signals that it is told of. -/
theorem receive_told (h : next ≤ c.next) :
    (c.receive next).2 = next + (c.receive next).1.told ∧ (c.receive next).2 ≤ c.next := by
  rw [receive]
  split
  · split <;> exact ⟨rfl, h⟩
  next hne =>
    split
    next hlt =>
      have hle : c.oldest ≤ c.next := Nat.sub_le ..
      exact ⟨(Nat.add_sub_cancel' (Nat.le_of_lt hlt)).symm, hle⟩
    · exact ⟨rfl, Nat.lt_of_le_of_ne h hne⟩

end SignalChannel

namespace ShutdownState

variable {s s' : ShutdownState} {e : ShutdownStep} {o : ShutdownOutcome} {c m n r k : Nat}
  {es : List ShutdownStep} {x : ShutdownReceiver}

theorem channel?_eq_some_iff : s.channel? c = some n ↔ s.coordinators[c]? = some (some n) := by
  rw [channel?, Option.join_eq_some_iff]

theorem receiver?_eq_some_iff : s.receiver? r = some x ↔ s.receivers[r]? = some (some x) := by
  rw [receiver?, Option.join_eq_some_iff]

/-- How many coordinators are left on a channel. -/
def speaking (s : ShutdownState) (n : Nat) : Nat := s.coordinators.countP (· == some n)

/-- How many receivers are left on a channel. -/
def listening (s : ShutdownState) (n : Nat) : Nat :=
  s.receivers.countP fun r? => r?.any (·.channel == n)

/-! ## One step -/

/-- The ways coordinators and receivers can go on. -/
inductive Step (s : ShutdownState) : ShutdownStep → ShutdownOutcome → ShutdownState → Prop
  | subscribe {c n : Nat} (hc : s.channel? c = some n) :
      Step s (.subscribe c) .done { s.onChannel n .addReceiver with
        receivers := s.receivers ++ [some ⟨n, (s.channel n).next⟩] }
  | trigger {c n : Nat} (hc : s.channel? c = some n) :
      Step s (.trigger c) .done (s.onChannel n .send)
  | clone {c n : Nat} (hc : s.channel? c = some n) :
      Step s (.clone c) .done { s.onChannel n .addSender with
        coordinators := s.coordinators ++ [some n] }
  | create : Step s .create .done s.create
  | discard {c n : Nat} (hc : s.channel? c = some n) :
      Step s (.discard c) .done { s.onChannel n .dropSender with
        coordinators := s.coordinators.set c none }
  | receive {r : Nat} {x : ShutdownReceiver} (hr : s.receiver? r = some x) :
      Step s (.receive r) ((s.channel x.channel).receive x.next).1 { s with
        receivers := s.receivers.set r
          (some { x with next := ((s.channel x.channel).receive x.next).2 }) }
  | drop {r : Nat} {x : ShutdownReceiver} (hr : s.receiver? r = some x) :
      Step s (.drop r) .done { s.onChannel x.channel .dropReceiver with
        receivers := s.receivers.set r none }
  /-- The coordinator or the receiver is gone. -/
  | idle {e : ShutdownStep} {o : ShutdownOutcome}
      (ht : ∀ c, e = .trigger c → s.channel? c = none) : Step s e o s

theorem Step.of_step (s : ShutdownState) (e : ShutdownStep) :
    Step s e (s.step e).1 (s.step e).2 := by
  cases e with
  | subscribe c =>
    rw [step, ShutdownState.subscribe]
    cases hc : s.channel? c with
    | none => exact .idle nofun
    | some n => exact .subscribe hc
  | trigger c =>
    rw [step, ShutdownState.trigger]
    cases hc : s.channel? c with
    | none => exact .idle fun c' he => (ShutdownStep.trigger.inj he) ▸ hc
    | some n => exact .trigger hc
  | clone c =>
    rw [step, ShutdownState.clone]
    cases hc : s.channel? c with
    | none => exact .idle nofun
    | some n => exact .clone hc
  | create => exact .create
  | discard c =>
    rw [step, ShutdownState.discard]
    cases hc : s.channel? c with
    | none => exact .idle nofun
    | some n => exact .discard hc
  | receive r =>
    rw [step, ShutdownState.receive]
    cases hr : s.receiver? r with
    | none => exact .idle nofun
    | some x => exact .receive hr
  | drop r =>
    rw [step, ShutdownState.drop]
    cases hr : s.receiver? r with
    | none => exact .idle nofun
    | some x => exact .drop hr

/-! ## The counters of a channel -/

theorem channel_onChannel (h : n < s.channels.length) (f : SignalChannel → SignalChannel)
    (m : Nat) : (s.onChannel n f).channel m = if n = m then f (s.channel m) else s.channel m := by
  rw [channel, channel, onChannel, List.getElem?_modify]
  by_cases hm : n = m
  · subst hm
    simp [List.getElem?_eq_getElem h]
  · simp [hm]

theorem channel_create (s : ShutdownState) (m : Nat) :
    s.create.channel m = if s.channels.length = m then .opened else s.channel m := by
  rw [channel, channel, create, List.getElem?_append]
  rcases Nat.lt_trichotomy m s.channels.length with hm | rfl | hm
  · rw [if_pos hm, if_neg (Nat.ne_of_gt hm)]
  · simp
  · rw [if_neg (Nat.lt_asymm hm), if_neg (Nat.ne_of_lt hm),
      List.getElem?_eq_none (by simp; omega), List.getElem?_eq_none (by omega)]

theorem speaking_ne_zero (hc : s.channel? c = some n) : s.speaking n ≠ 0 := by
  refine Nat.ne_of_gt (List.countP_pos_iff.mpr ⟨some n, ?_, beq_self_eq_true _⟩)
  exact List.mem_of_getElem? (channel?_eq_some_iff.mp hc)

theorem listening_ne_zero (hr : s.receiver? r = some x) : s.listening x.channel ≠ 0 := by
  refine Nat.ne_of_gt (List.countP_pos_iff.mpr ⟨some x, ?_, by simp⟩)
  exact List.mem_of_getElem? (receiver?_eq_some_iff.mp hr)

/-- A channel counts who is left on it. -/
structure Consistent (s : ShutdownState) : Prop where
  senders : ∀ n, (s.channel n).senders = s.speaking n
  receivers : ∀ n, (s.channel n).receivers = s.listening n

namespace Consistent

theorem initial : initial.Consistent := by
  constructor <;> intro n
  · cases n <;> rfl
  · cases n <;> rfl

theorem nobody (h : s.Consistent) (hn : s.channels.length ≤ n) :
    s.speaking n = 0 ∧ s.listening n = 0 := by
  rw [← h.senders, ← h.receivers, channel, List.getElem?_eq_none hn]
  exact ⟨rfl, rfl⟩

theorem lt_of_channel? (h : s.Consistent) (hc : s.channel? c = some n) : n < s.channels.length :=
  Nat.lt_of_not_le fun hle => speaking_ne_zero hc (h.nobody hle).1

theorem lt_of_receiver? (h : s.Consistent) (hr : s.receiver? r = some x) :
    x.channel < s.channels.length :=
  Nat.lt_of_not_le fun hle => listening_ne_zero hr (h.nobody hle).2

end Consistent

/-! Who is left on a channel `m` when somebody comes or goes. -/

theorem speaking_concat (s : ShutdownState) (n m : Nat) :
    speaking { s with coordinators := s.coordinators ++ [some n] } m =
      s.speaking m + (n == m).toNat :=
  countP_concat ..

theorem speaking_set (hc : s.channel? c = some n) (m : Nat) :
    speaking { s with coordinators := s.coordinators.set c none } m + (n == m).toNat =
      s.speaking m :=
  countP_set_add (channel?_eq_some_iff.mp hc) none

theorem listening_concat (s : ShutdownState) (n next m : Nat) :
    listening { s with receivers := s.receivers ++ [some ⟨n, next⟩] } m =
      s.listening m + (n == m).toNat :=
  countP_concat ..

theorem listening_set_none (hr : s.receiver? r = some x) (m : Nat) :
    listening { s with receivers := s.receivers.set r none } m + (x.channel == m).toNat =
      s.listening m :=
  countP_set_add (receiver?_eq_some_iff.mp hr) none

theorem listening_set_some (hr : s.receiver? r = some x) (next m : Nat) :
    listening { s with receivers := s.receivers.set r (some { x with next := next }) } m =
      s.listening m :=
  Nat.add_right_cancel (countP_set_add (receiver?_eq_some_iff.mp hr) (some { x with next := next }))

theorem one_more {f g : Nat → Nat} (h : ∀ m, f m = g m + (n == m).toNat) :
    f n = g n + 1 ∧ ∀ m, n ≠ m → f m = g m := by
  refine ⟨?_, fun m hm => ?_⟩
  · rw [h, beq_self_eq_true]
    rfl
  · rw [h, beq_eq_false_iff_ne.mpr hm]
    rfl

namespace Consistent

/-- Where one channel changes as those on it do, all counters are right. -/
theorem modify (h : s.Consistent) (hn : n < s.channels.length) {f : SignalChannel → SignalChannel}
    (hs : s'.channels = s.channels.modify n f)
    (hself : (f (s.channel n)).senders = s'.speaking n ∧
      (f (s.channel n)).receivers = s'.listening n)
    (hother : ∀ m, n ≠ m → s'.speaking m = s.speaking m ∧ s'.listening m = s.listening m) :
    s'.Consistent := by
  have hchannel (m : Nat) : s'.channel m = if n = m then f (s.channel m) else s.channel m := by
    rw [← channel_onChannel hn, channel, hs]
    rfl
  constructor <;> intro m <;> rw [hchannel] <;> split
  next hm => exact hm ▸ hself.1
  next hm => rw [h.senders, (hother m hm).1]
  next hm => exact hm ▸ hself.2
  next hm => rw [h.receivers, (hother m hm).2]

theorem create (h : s.Consistent) : s.create.Consistent := by
  have hspeaking (m : Nat) : s.create.speaking m = s.speaking m + (s.channels.length == m).toNat :=
    countP_concat ..
  have hlistening (m : Nat) : s.create.listening m = s.listening m := rfl
  constructor <;> intro m
  · rw [hspeaking, channel_create]
    split
    next hm =>
      subst hm
      rw [(h.nobody (Nat.le_refl _)).1, beq_self_eq_true]
      rfl
    next hm =>
      rw [h.senders, beq_eq_false_iff_ne.mpr hm]
      rfl
  · rw [hlistening, channel_create]
    split
    next hm =>
      subst hm
      rw [(h.nobody (Nat.le_refl _)).2]
      rfl
    next hm => exact h.receivers m

theorem step (h : s.Consistent) (hs : Step s e o s') : s'.Consistent := by
  cases hs with
  | @subscribe c n hc =>
    obtain ⟨hself, hother⟩ := one_more (listening_concat s n (s.channel n).next)
    refine h.modify (h.lt_of_channel? hc) rfl ⟨h.senders n, ?_⟩
      fun m hm => ⟨rfl, hother m hm⟩
    exact (congrArg (· + 1) (h.receivers n)).trans hself.symm
  | trigger hc =>
    refine h.modify (h.lt_of_channel? hc) rfl ⟨?_, ?_⟩ fun m hm => ⟨rfl, rfl⟩
    · rw [SignalChannel.senders_send]
      exact h.senders _
    · rw [SignalChannel.receivers_send]
      exact h.receivers _
  | @clone c n hc =>
    obtain ⟨hself, hother⟩ := one_more (speaking_concat s n)
    refine h.modify (h.lt_of_channel? hc) rfl ⟨?_, h.receivers n⟩
      fun m hm => ⟨hother m hm, rfl⟩
    exact (congrArg (· + 1) (h.senders n)).trans hself.symm
  | create => exact h.create
  | @discard c n hc =>
    obtain ⟨hself, hother⟩ := one_more fun m => (speaking_set hc m).symm
    refine h.modify (h.lt_of_channel? hc) rfl ⟨?_, h.receivers n⟩
      fun m hm => ⟨(hother m hm).symm, rfl⟩
    exact Nat.sub_eq_of_eq_add ((h.senders n).trans hself)
  | @receive r x hr =>
    refine ⟨h.senders, fun m => ?_⟩
    exact (h.receivers m).trans (listening_set_some hr _ m).symm
  | @drop r x hr =>
    obtain ⟨hself, hother⟩ := one_more fun m => (listening_set_none hr m).symm
    refine h.modify (h.lt_of_receiver? hr) rfl ⟨h.senders _, ?_⟩
      fun m hm => ⟨rfl, (hother m hm).symm⟩
    exact Nat.sub_eq_of_eq_add ((h.receivers _).trans hself)
  | idle => exact h

theorem after (h : s.Consistent) : (s.after es).Consistent := by
  induction es generalizing s with
  | nil => exact h
  | cons e es ih => exact ih (h.step (.of_step s e))

end Consistent

theorem receiverCount_eq (h : s.Consistent) (hc : s.channel? c = some n) :
    s.receiverCount c = s.listening n := by
  rw [receiverCount, hc]
  exact h.receivers n

/-! ## A coordinator stays on its channel -/

theorem channel?_step (hc : s.channel? c = some n) (he : e ≠ .discard c) (hs : Step s e o s') :
    s'.channel? c = some n := by
  rw [channel?_eq_some_iff] at hc ⊢
  have hlt : c < s.coordinators.length := (List.getElem?_eq_some_iff.mp hc).1
  cases hs with
  | subscribe | trigger | receive | drop | idle => exact hc
  | clone | create => exact (List.getElem?_append_left hlt).trans hc
  | @discard c' n' hc' =>
    have hne : c' ≠ c := fun h => he (h ▸ rfl)
    exact (List.getElem?_set_ne hne).trans hc

theorem channel?_after (hc : s.channel? c = some n) (hes : .discard c ∉ es) :
    (s.after es).channel? c = some n := by
  induction es generalizing s with
  | nil => exact hc
  | cons e es ih =>
    have he : .discard c ≠ e := List.ne_of_not_mem_cons hes
    exact ih (channel?_step hc he.symm (.of_step s e)) (List.not_mem_of_not_mem_cons hes)

/-! ## Triggers that a receiver has not seen -/

/-- The receiver is on this channel, and has so many of its signals still to take. -/
def Behind (s : ShutdownState) (r n k : Nat) : Prop :=
  ∃ next, s.receiver? r = some ⟨n, next⟩ ∧ (s.channel n).next = next + k

/-- A step triggers this channel. -/
def triggers (s : ShutdownState) (n : Nat) : ShutdownStep → Bool
  | .trigger c => s.channel? c == some n
  | _ => false

/-- How many triggers a step tells a receiver of. -/
def tells (s : ShutdownState) (r : Nat) (e : ShutdownStep) : Nat :=
  if e = .receive r then (s.step e).1.told else 0

/-- How often some steps trigger this channel. -/
def triggered (s : ShutdownState) (n : Nat) : List ShutdownStep → Nat
  | [] => 0
  | e :: es => (s.triggers n e).toNat + triggered (s.step e).2 n es

/-- How many triggers some steps tell a receiver of. -/
def heard (s : ShutdownState) (r : Nat) : List ShutdownStep → Nat
  | [] => 0
  | e :: es => s.tells r e + heard (s.step e).2 r es

theorem after_append (s : ShutdownState) (es es' : List ShutdownStep) :
    s.after (es ++ es') = (s.after es).after es' :=
  List.foldl_append

/-- What a run shows of a step is what the step does after all before it. -/
theorem getElem?_run (s : ShutdownState) (es : List ShutdownStep) (i : Nat) :
    (s.run es)[i]? = es[i]?.map (s.after (es.take i)).step := by
  induction es generalizing s i with
  | nil => rfl
  | cons e es ih =>
    cases i with
    | zero => rfl
    | succ i => exact ih (s.step e).2 i

theorem heard_eq_zero (hes : .receive r ∉ es) : s.heard r es = 0 := by
  induction es generalizing s with
  | nil => rfl
  | cons e es ih =>
    have he : .receive r ≠ e := List.ne_of_not_mem_cons hes
    rw [heard, tells, if_neg he.symm, ih (List.not_mem_of_not_mem_cons hes)]

theorem next_onChannel (s : ShutdownState) (n : Nat) (f : SignalChannel → SignalChannel)
    (hf : ∀ c, (f c).next = c.next) (m : Nat) :
    ((s.onChannel n f).channel m).next = (s.channel m).next := by
  rw [channel, channel, onChannel, List.getElem?_modify]
  cases s.channels[m]? with
  | none => split <;> rfl
  | some ch =>
    split
    · exact hf ch
    · rfl

namespace Behind

/-- What is left of a receiver where its place is as it was. -/
theorem frame (h : s.Behind r n k) (hr : s'.receivers[r]? = s.receivers[r]?)
    (hn : (s'.channel n).next = (s.channel n).next) : s'.Behind r n k := by
  obtain ⟨next, hreceiver, hnext⟩ := h
  refine ⟨next, ?_, hn.trans hnext⟩
  rw [receiver?, hr]
  exact hreceiver

theorem lt (h : s.Behind r n k) : r < s.receivers.length := by
  obtain ⟨next, hreceiver, -⟩ := h
  exact (List.getElem?_eq_some_iff.mp (receiver?_eq_some_iff.mp hreceiver)).1

/-- What a receiver finds that has so much still to take. -/
theorem receive (h : s.Behind r n k) (hs : s.Consistent) :
    (s.receive r).1 = .ofUnseen (s.speaking n != 0) k := by
  obtain ⟨next, hreceiver, hnext⟩ := h
  rw [ShutdownState.receive, hreceiver, ← hs.senders]
  exact SignalChannel.receive_eq hnext

theorem take (h : s.Behind r n k) :
    (s.receive r).1.told ≤ k ∧ (s.receive r).2.Behind r n (k - (s.receive r).1.told) := by
  have hlt := h.lt
  obtain ⟨next, hreceiver, hnext⟩ := h
  obtain ⟨htold, hle⟩ := (s.channel n).receive_told (hnext ▸ Nat.le_add_right next k)
  rw [ShutdownState.receive, hreceiver]
  refine ⟨?_, ((s.channel n).receive next).2, ?_, ?_⟩
  · change ((s.channel n).receive next).1.told ≤ k
    omega
  · rw [receiver?_eq_some_iff]
    exact List.getElem?_set_self hlt
  · change (s.channel n).next = _ + (k - ((s.channel n).receive next).1.told)
    omega

/-- Where a receiver is left, a trigger is sent. -/
theorem send (h : s.Behind r n k) (hs : s.Consistent) :
    (s.onChannel n .send).Behind r n (k + 1) := by
  obtain ⟨next, hreceiver, hnext⟩ := h
  have hheard : (s.channel n).receivers ≠ 0 := by
    rw [hs.receivers]
    exact listening_ne_zero hreceiver
  refine ⟨next, hreceiver, ?_⟩
  rw [channel_onChannel (hs.lt_of_receiver? hreceiver), if_pos rfl,
    SignalChannel.next_send hheard, hnext, Nat.add_assoc]

/-- A receiver falls behind by what is triggered on its channel and comes forward by what it is
told of. -/
theorem step (h : s.Behind r n k) (hs : s.Consistent) (he : e ≠ .drop r) :
    ∃ k', (s.step e).2.Behind r n k' ∧ k' + s.tells r e = k + (s.triggers n e).toNat := by
  -- Its own receive is the one step that moves the receiver; all others leave it in its place, and
  -- only a trigger moves the channel.
  by_cases hreceive : e = .receive r
  · subst hreceive
    obtain ⟨hle, hbehind⟩ := h.take
    rw [tells, if_pos rfl]
    exact ⟨_, hbehind, Nat.sub_add_cancel hle⟩
  have hstep := Step.of_step s e
  rw [tells, if_neg hreceive]
  generalize (s.step e).1 = o, (s.step e).2 = s' at hstep ⊢
  cases hstep with
  | @subscribe c m hc =>
    have hnext := next_onChannel s m .addReceiver (fun _ => rfl) n
    exact ⟨k, h.frame (List.getElem?_append_left h.lt) hnext, rfl⟩
  | @trigger c m hc =>
    rw [triggers, hc]
    by_cases hm : m = n
    · subst hm
      exact ⟨k + 1, h.send hs, by simp⟩
    · refine ⟨k, h.frame rfl ?_, by simp [hm]⟩
      rw [channel_onChannel (hs.lt_of_channel? hc), if_neg hm]
  | @clone c m hc =>
    exact ⟨k, h.frame rfl (next_onChannel s m .addSender (fun _ => rfl) n), rfl⟩
  | create =>
    have hlt : n < s.channels.length := by
      obtain ⟨next, hreceiver, -⟩ := h
      exact hs.lt_of_receiver? hreceiver
    refine ⟨k, h.frame rfl ?_, rfl⟩
    rw [channel_create, if_neg (Nat.ne_of_gt hlt)]
  | @discard c m hc =>
    exact ⟨k, h.frame rfl (next_onChannel s m .dropSender (fun _ => rfl) n), rfl⟩
  | @receive r' x hr =>
    have hne : r' ≠ r := fun h => hreceive (h ▸ rfl)
    exact ⟨k, h.frame (List.getElem?_set_ne hne) rfl, rfl⟩
  | @drop r' x hr =>
    have hne : r' ≠ r := fun h => he (h ▸ rfl)
    have hnext := next_onChannel s x.channel .dropReceiver (fun _ => rfl) n
    exact ⟨k, h.frame (List.getElem?_set_ne hne) hnext, rfl⟩
  | idle ht =>
    have hidle : s.triggers n e = false := by
      cases e with
      | trigger c => simp [triggers, ht c rfl]
      | _ => rfl
    rw [hidle]
    exact ⟨k, h, rfl⟩

theorem after (h : s.Behind r n k) (hs : s.Consistent) (hes : .drop r ∉ es) :
    ∃ k', (s.after es).Behind r n k' ∧ k' + s.heard r es = k + s.triggered n es := by
  induction es generalizing s k with
  | nil => exact ⟨k, h, rfl⟩
  | cons e es ih =>
    have he : .drop r ≠ e := List.ne_of_not_mem_cons hes
    obtain ⟨k₁, hstep, hk₁⟩ := h.step hs he.symm
    obtain ⟨k₂, hafter, hk₂⟩ :=
      ih hstep (hs.step (.of_step s e)) (List.not_mem_of_not_mem_cons hes)
    refine ⟨k₂, hafter, ?_⟩
    rw [heard, triggered]
    omega

theorem subscribe (hc : s.channel? c = some n) :
    (s.subscribe c).Behind s.receivers.length n 0 := by
  rw [ShutdownState.subscribe, hc]
  refine ⟨(s.channel n).next, ?_, ?_⟩
  · rw [receiver?_eq_some_iff]
    exact List.getElem?_concat_length
  · exact next_onChannel s n .addReceiver (fun _ => rfl) n

end Behind

/-! ## What a receiver hears -/

/-- What a receiver makes of the triggers on its channel `n`, where it came just before some steps
and is not dropped by them. -/
structure Hears (s : ShutdownState) (n r : Nat) (es : List ShutdownStep) : Prop where
  /-- It is told of triggers on its channel only, of those only that were made since it came, and
  of none twice. -/
  told : s.heard r es ≤ s.triggered n es
  /-- What it finds next says how many of them it was not told of. -/
  next : ((s.after es).receive r).1 =
    .ofUnseen ((s.after es).speaking n != 0) (s.triggered n es - s.heard r es)
  /-- After those that are lost there is one more. -/
  follows : ∀ m, ((s.after es).receive r).1 = .lagged m →
    (((s.after es).receive r).2.receive r).1 = .signalled
  /-- After a trigger, what it takes next is not nothing. -/
  reached : ∀ before c after, es = before ++ .trigger c :: after →
    (s.after before).channel? c = some n → .receive r ∉ after →
    ((s.after es).receive r).1 = .signalled ∨ ∃ m, ((s.after es).receive r).1 = .lagged m
  /-- A channel is not closed while a coordinator stays on it. -/
  stays : ∀ c, s.channel? c = some n → .discard c ∉ es → ((s.after es).speaking n != 0) = true

namespace Behind

theorem follows {m : Nat} (h : s.Behind r n k) (hs : s.Consistent)
    (hlagged : (s.receive r).1 = .lagged m) : ((s.receive r).2.receive r).1 = .signalled := by
  have hs' : (s.receive r).2.Consistent := hs.step (.of_step s (.receive r))
  obtain ⟨-, hbehind⟩ := h.take
  rw [hbehind.receive hs', hlagged]
  -- Only with two or more to take is anything lost, and then all but one is.
  have hk : .lagged m = ShutdownOutcome.ofUnseen (s.speaking n != 0) k :=
    hlagged.symm.trans (h.receive hs)
  match k with
  | 0 => cases hspeaking : (s.speaking n != 0) <;> rw [hspeaking] at hk <;> cases hk
  | 1 => cases hk
  | k + 2 =>
    obtain rfl : m = k + 1 := ShutdownOutcome.lagged.inj hk
    rw [ShutdownOutcome.told, show k + 2 - (k + 1) = 1 by omega]
    rfl

theorem reached (h : s.Behind r n k) (hs : s.Consistent) (hc : s.channel? c = some n)
    (hdrop : .drop r ∉ es) (hreceive : .receive r ∉ es) :
    ((s.after (.trigger c :: es)).receive r).1 = .signalled ∨
      ∃ m, ((s.after (.trigger c :: es)).receive r).1 = .lagged m := by
  have hdrop' : .drop r ∉ ShutdownStep.trigger c :: es := by simpa using hdrop
  have hreceive' : .receive r ∉ ShutdownStep.trigger c :: es := by simpa using hreceive
  have htriggers : s.triggers n (.trigger c) = true := beq_iff_eq.mpr hc
  obtain ⟨k', hbehind, hk'⟩ := h.after hs hdrop'
  rw [heard_eq_zero hreceive', triggered, htriggers, Bool.toNat_true] at hk'
  rw [hbehind.receive hs.after]
  match k' with
  | 0 => omega
  | 1 => exact .inl rfl
  | k' + 2 => exact .inr ⟨k' + 1, rfl⟩

theorem hears (h : s.Behind r n 0) (hs : s.Consistent) (hes : .drop r ∉ es) :
    s.Hears n r es := by
  have hs' : (s.after es).Consistent := hs.after
  obtain ⟨k, hbehind, hk⟩ := h.after hs hes
  rw [Nat.zero_add] at hk
  constructor
  case told => exact hk ▸ Nat.le_add_left ..
  case next => rw [hbehind.receive hs', ← hk, Nat.add_sub_cancel]
  case follows => exact fun m => hbehind.follows hs'
  case reached =>
    rintro before c after rfl hc hreceive
    obtain ⟨hbefore, hafter⟩ := not_or.mp (mt List.mem_append.mpr hes)
    obtain ⟨k', hbehind', -⟩ := h.after hs hbefore
    rw [after_append]
    exact hbehind'.reached hs.after hc (List.not_mem_of_not_mem_cons hafter) hreceive
  case stays =>
    intro c hc hdiscard
    exact bne_iff_ne.mpr (speaking_ne_zero (channel?_after hc hdiscard))

end Behind

/-- Whatever coordinators and receivers do, a receiver hears of each trigger that is made on its
channel while it is there, and of no other: it finds nothing when there is none that it has not
heard of, is signalled of one, and where there are more it is told how many are lost. A copy of a
coordinator is on the same channel, and a coordinator that is created is alone on one. -/
theorem signals_reach_receivers (before : List ShutdownStep) :
    let s := initial.after before
    (∀ c n, s.channel? c = some n →
      s.receiverCount c = s.listening n ∧
      (s.clone c).channel? s.coordinators.length = some n ∧
      (∀ since, .discard c ∉ since → (s.after since).channel? c = some n) ∧
      ∀ since, .drop s.receivers.length ∉ since →
        (s.subscribe c).Hears n s.receivers.length since) ∧
    s.create.channel? s.coordinators.length = some s.channels.length ∧
      s.speaking s.channels.length = 0 ∧ s.listening s.channels.length = 0 := by
  intro s
  have hs : s.Consistent := Consistent.initial.after
  refine ⟨fun c n hc => ⟨receiverCount_eq hs hc, ?_, ?_, fun since hsince => ?_⟩, ?_, ?_⟩
  · rw [clone, hc, channel?_eq_some_iff]
    exact List.getElem?_concat_length
  · exact fun since hsince => channel?_after hc hsince
  · exact (Behind.subscribe hc).hears (hs.step (.of_step s (.subscribe c))) hsince
  · exact channel?_eq_some_iff.mpr List.getElem?_concat_length
  · exact hs.nobody (Nat.le_refl _)

/-- Two triggers through both coordinators of a channel, and one on another channel. -/
theorem signals_reach_receivers_lagging :
    let s := initial.after [.clone 0, .create, .subscribe 1, .receive 0]
    let since : List ShutdownStep := [.trigger 1, .trigger 2, .trigger 0]
    s.channel? 1 = some 0 ∧ .drop s.receivers.length ∉ since ∧
      (((s.subscribe 1).after since).receive 1).1 = .lagged 1 ∧
      ((((s.subscribe 1).after since).receive 1).2.receive 1).1 = .signalled := by
  intro s since
  have hc : s.channel? 1 = some 0 := by decide
  have hsince : .drop s.receivers.length ∉ since := by decide
  obtain ⟨hcoordinators, -⟩ :=
    signals_reach_receivers [.clone 0, .create, .subscribe 1, .receive 0]
  obtain ⟨-, -, -, hhears⟩ := hcoordinators 1 0 hc
  have hlagged : (((s.subscribe 1).after since).receive 1).1 = .lagged 1 :=
    (hhears since hsince).next.trans (by decide)
  exact ⟨hc, hsince, hlagged, (hhears since hsince).follows 1 hlagged⟩

end ShutdownState
end SiteGateway
