import SiteGateway.Proofs.Proxy.Transparent
import SiteGateway.Proofs.Text.Utf8

/-!
# The chain of addresses

Proxies before the gateway record for whom they forwarded, each by a value of its own or at the end
of an earlier one. The gateway appends its client to the first value alone and puts the result in
the place of all, so the hops of every other value are lost. `Forward.carries_forwardedFor` says
which chain the backend gets, and that it is whole exactly when there was nothing to lose.
-/

namespace SiteGateway

namespace Forward

open ClientLibrary (Carries)

/-- The hops that some values tell of: those that are readable and not empty. -/
def hops (vs : List HeaderValue) : List Text :=
  (vs.filterMap HeaderValue.readable?).filter (!·.isEmpty)

/-- Hops and the client behind them. -/
def chain (hs : List Text) (client : Text) : Text := ", ".toList.intercalate (hs ++ [client])

variable (route : Route) (r : Request) (outcome : Except Text Incoming) {vs ws : List HeaderValue}
  {hs hs' : List Text} {client : Text}

theorem hops_append : hops (vs ++ ws) = hops vs ++ hops ws := by
  rw [hops, List.filterMap_append, List.filter_append]
  rfl

/-! ## Chains -/

@[simp] theorem chain_nil (client : Text) : chain [] client = client := by
  simp [chain]

theorem chain_cons (h : Text) (hs : List Text) (client : Text) :
    chain (h :: hs) client = h ++ ", ".toList ++ chain hs client := by
  cases hs with
  | nil => simp [chain]
  | cons x hs =>
    rw [chain, chain, List.cons_append, List.cons_append, List.intercalate_cons_cons]

theorem client_suffix_chain (hs : List Text) (client : Text) : client <:+ chain hs client := by
  induction hs with
  | nil => exact (chain_nil client).symm ▸ List.suffix_refl client
  | cons h hs ih => exact chain_cons h hs client ▸ ih.trans (List.suffix_append ..)

theorem chain_eq_client_iff : chain hs client = client ↔ hs = [] := by
  cases hs with
  | nil => simp
  | cons h hs =>
    refine iff_of_false (fun he => ?_) (List.cons_ne_nil h hs)
    have hle := (client_suffix_chain hs client).length_le
    have hlength := congrArg List.length he
    rw [chain_cons, List.length_append, List.length_append] at hlength
    have hcomma : ", ".toList.length = 2 := rfl
    omega

/-- Hops behind those of a chain make another one. -/
theorem chain_append_eq_iff : chain (hs ++ hs') client = chain hs client ↔ hs' = [] := by
  induction hs with
  | nil => rw [List.nil_append, chain_nil, chain_eq_client_iff]
  | cons h hs ih => rw [List.cons_append, chain_cons, chain_cons, List.append_cancel_left_eq, ih]

/-! ## What is appended -/

theorem values_addClient (fields : Headers) (client : Text) :
    (addClient fields client).values forwardedForName =
      [Utf8.encode (chain (hops ((fields.values forwardedForName).take 1)) client)] := by
  rw [addClient, Headers.values_insert, if_pos rfl]
  congr 2
  rw [Headers.text?, Headers.get?]
  cases fields.values forwardedForName with
  | nil => exact (chain_nil client).symm
  | cons v vs =>
    rw [List.head?_cons, Option.bind_some, List.take_succ_cons, List.take_zero, hops]
    cases hv : HeaderValue.readable? v with
    | none => simp [hv]
    | some prior => cases prior <;> simp [hv, chain_cons]

/-- The values under which earlier proxies recorded their hops, as far as the client lets them go
on. -/
def recorded : List HeaderValue := r.headers.endToEnd.values forwardedForName

theorem values_headers_of_client {client : IpAddress} (hc : r.client = some client) :
    (headers r).values forwardedForName =
      [Utf8.encode (chain (hops ((recorded r).take 1)) client.text)] := by
  rw [headers_of_some r hc, values_addClient,
    values_kept r (by decide) (by decide), recorded]

theorem hops_recorded :
    hops (recorded r) = hops ((recorded r).take 1) ++ hops ((recorded r).drop 1) := by
  rw [← hops_append, List.take_append_drop]

/-- A backend gets one value, the hops of the first one that was recorded and the client. That is
the whole chain exactly when no other value tells of a hop. -/
theorem carries_forwardedFor {client : IpAddress} (hc : r.client = some client) :
    ∃ o, (course route r outcome).2 = [o] ∧ ∀ w, Carries o w →
      w.headers.values forwardedForName =
        [Utf8.encode (chain (hops ((recorded r).take 1)) client.text)] ∧
      (w.headers.values forwardedForName = [Utf8.encode (chain (hops (recorded r)) client.text)] ↔
        hops ((recorded r).drop 1) = []) := by
  refine ⟨outgoing route r, by rw [course_eq], fun w hw => ?_⟩
  have hvalues : (outgoing route r).headers.values forwardedForName =
      [Utf8.encode (chain (hops ((recorded r).take 1)) client.text)] :=
    values_headers_of_client r hc
  have hgiven := hw.given forwardedForName (by rw [hvalues]; exact List.cons_ne_nil _ _)
  rw [hvalues] at hgiven
  refine ⟨hgiven, ?_⟩
  rw [hgiven, List.singleton_inj, Utf8.encode_inj, eq_comm, hops_recorded]
  exact chain_append_eq_iff

/-- The client's own two proxies stand in one value. -/
theorem carries_forwardedFor_joined :
    let r : Request := ⟨"GET".toList, ⟨none, none, "/api".toList, none⟩, .http11,
      [Headers.field "x-forwarded-for" "10.0.0.1, 10.0.0.2"], [], some (.v4 192 0 2 7)⟩
    r.client = some (.v4 192 0 2 7) ∧
      Carries (outgoing api r) (ClientLibrary.dressed (outgoing api r)) ∧
      (ClientLibrary.dressed (outgoing api r)).headers.values forwardedForName =
        [Utf8.encode "10.0.0.1, 10.0.0.2, 192.0.2.7".toList] := by
  intro r
  have hc : r.client = some (.v4 192 0 2 7) := rfl
  have hcarries := ClientLibrary.carries_dressed (outgoing api r)
  obtain ⟨o, ho, hw⟩ := carries_forwardedFor api r (.error []) hc
  obtain rfl : outgoing api r = o := by
    rw [course_eq] at ho
    exact List.singleton_inj.mp ho
  exact ⟨hc, hcarries, (hw _ hcarries).1.trans (by decide)⟩

/-- A backend gets one value, with all hops that were recorded and the client behind them. -/
def KeepsChain : Prop :=
  ∀ client ∈ r.client, ∀ o ∈ (course route r outcome).2, ∀ w, Carries o w →
    w.headers.values forwardedForName = [Utf8.encode (chain (hops (recorded r)) client.text)]

/-- A hop that is recorded on a line of its own is lost. -/
theorem not_forall_keepsChain :
    ¬ ∀ (route : Route) (r : Request) (outcome : Except Text Incoming),
      KeepsChain route r outcome := by
  intro h
  let r : Request := ⟨"GET".toList, ⟨none, none, "/api".toList, none⟩, .http11,
    [Headers.field "x-forwarded-for" "9.9.9.9", Headers.field "x-forwarded-for" "7.7.7.7"], [],
    some (.v4 10 1 2 3)⟩
  have ho : outgoing api r ∈ (course api r (.error [])).2 := by
    rw [course_eq]
    exact List.mem_singleton_self _
  have hchain := h api r (.error []) (.v4 10 1 2 3) rfl _ ho _ (ClientLibrary.carries_dressed _)
  exact absurd hchain (by decide)

end Forward
end SiteGateway
