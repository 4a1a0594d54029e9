import Mathlib.Data.List.Perm.Subperm
import Dabdub.PaymentRequest.Invariant

/-!
# The event log agrees with storage

An observer who reads only the `PAY_REQ` events of the successful calls of a run sees what the
storage holds. Each request id has at most one `created` event and at most one `paid`,
`cancelled` or `expired` event, the latter after the former; `TotalRequests` counts the
`created` events and `PendingRequests` the `created` events less the terminal ones; and each
created record carries the merchant, amount and expiry of its `created` event, the status of
its terminal event (`Pending` if it has none), and the payment time and id of its `paid` event.

`LogAgrees` relates the published events to the storage; deployment establishes it, and every
invocation keeps it (`LogAgrees.invoke`): a creation appends its `created` event, a terminal
transition its terminal event, and an admin setter only `config` events.

## Main definitions

* `ContractEvent.createdId`, `ContractEvent.settlement`.
* `PaymentRequestContract.createdIds`, `PaymentRequestContract.settlements`.
* `PaymentRequestContract.LogAgrees`.

## Main results

* `PaymentRequestContract.run_event_log`.
-/

namespace Dabdub

namespace ContractEvent

/-- The request a `created` event reports. -/
def createdId : ContractEvent → Option (BytesN 32)
  | paymentRequestCreated requestId .. => some requestId
  | _ => none

/-- The request a `paid`, `cancelled` or `expired` event reports, with the status it reports
for it. -/
def settlement : ContractEvent → Option (BytesN 32 × PaymentRequestStatus)
  | paymentRequestPaid requestId .. => some (requestId, .paid)
  | paymentRequestCancelled requestId => some (requestId, .cancelled)
  | paymentRequestExpired requestId => some (requestId, .expired)
  | _ => none

theorem createdId_of_isConfig {ev : ContractEvent} (h : ev.isConfig = true) :
    ev.createdId = none := by
  cases ev <;> simp_all [isConfig, createdId]

theorem settlement_of_isConfig {ev : ContractEvent} (h : ev.isConfig = true) :
    ev.settlement = none := by
  cases ev <;> simp_all [isConfig, settlement]

end ContractEvent

namespace PaymentRequestContract

open Function List

/-- The request ids of a log's `created` events, in order. -/
def createdIds (L : List ContractEvent) : List (BytesN 32) :=
  L.filterMap ContractEvent.createdId

/-- A log's terminal events, as the request id and the status each reports, in order. -/
def settlements (L : List ContractEvent) : List (BytesN 32 × PaymentRequestStatus) :=
  L.filterMap ContractEvent.settlement

@[simp] theorem createdIds_append (L L' : List ContractEvent) :
    createdIds (L ++ L') = createdIds L ++ createdIds L' :=
  filterMap_append _ _ _

@[simp] theorem settlements_append (L L' : List ContractEvent) :
    settlements (L ++ L') = settlements L ++ settlements L' :=
  filterMap_append _ _ _

@[simp] theorem createdIds_created {requestId : BytesN 32} {merchant : Address} {amount : Int}
    {expiresAt : Nat} :
    createdIds [.paymentRequestCreated requestId merchant amount expiresAt] = [requestId] := rfl

@[simp] theorem settlements_created {requestId : BytesN 32} {merchant : Address} {amount : Int}
    {expiresAt : Nat} :
    settlements [.paymentRequestCreated requestId merchant amount expiresAt] = [] := rfl

theorem createdIds_of_all_isConfig {evs : List ContractEvent}
    (h : evs.all ContractEvent.isConfig) : createdIds evs = [] :=
  filterMap_eq_nil_iff.mpr fun _ hx => ContractEvent.createdId_of_isConfig (all_eq_true.mp h _ hx)

theorem settlements_of_all_isConfig {evs : List ContractEvent}
    (h : evs.all ContractEvent.isConfig) : settlements evs = [] :=
  filterMap_eq_nil_iff.mpr fun _ hx =>
    ContractEvent.settlement_of_isConfig (all_eq_true.mp h _ hx)

variable {s : Storage} {t : Nat} {c : Call} {id : BytesN 32} {r r' : PaymentRequest}
  {ev : ContractEvent}

namespace Settles

theorem createdIds_event (hset : Settles s t id r c r' ev) : createdIds [ev] = [] := by
  cases hset <;> rfl

theorem settlement_eq (hset : Settles s t id r c r' ev) : ev.settlement = some (id, r'.status) := by
  cases hset <;> rfl

theorem settlements_event (hset : Settles s t id r c r' ev) :
    settlements [ev] = [(id, r'.status)] := by
  simp [settlements, hset.settlement_eq]

theorem paid_event (hset : Settles s t id r c r' ev) {id' paymentId : BytesN 32} {paidAt : Nat}
    (hev : ev = .paymentRequestPaid id' paymentId paidAt) :
    id' = id ∧ r'.paidAt = some paidAt ∧ r'.paymentId = some paymentId := by
  cases hset <;> cases hev
  exact ⟨rfl, rfl, rfl⟩

end Settles

/-! ### The agreement of log and storage -/

/-- The events `L` published so far agree with the storage `s`. -/
structure LogAgrees (L : List ContractEvent) (s : Storage) : Prop where
  createdIds_nodup : (createdIds L).Nodup
  settledIds_nodup : ((settlements L).map Prod.fst).Nodup
  mem_createdIds : ∀ id, id ∈ createdIds L ↔ (s.request id).isSome
  pending_iff : ∀ id r, s.request id = some r →
    (r.status = .pending ↔ id ∉ (settlements L).map Prod.fst)
  settled_after : ∀ id status, (id, status) ∈ settlements L →
    ∃ merchant amount expiresAt ev, ev.settlement = some (id, status) ∧
      [.paymentRequestCreated id merchant amount expiresAt, ev] <+ L
  totalRequests_eq : s.totalRequests = some (createdIds L).length
  pendingRequests_eq : s.pendingRequests = some ((createdIds L).length - (settlements L).length)
  created_fields : ∀ id merchant amount expiresAt,
    .paymentRequestCreated id merchant amount expiresAt ∈ L →
      ∃ r, s.request id = some r ∧ r.merchant = merchant ∧ r.amount = amount ∧
        r.expiresAt = expiresAt
  settled_status : ∀ id status, (id, status) ∈ settlements L →
    ∃ r, s.request id = some r ∧ r.status = status
  paid_fields : ∀ id paymentId paidAt, .paymentRequestPaid id paymentId paidAt ∈ L →
    ∃ r, s.request id = some r ∧ r.paidAt = some paidAt ∧ r.paymentId = some paymentId

namespace LogAgrees

variable {L : List ContractEvent} (hl : LogAgrees L s)
include hl

/-- Every terminal event is about a stored record. -/
theorem isSome_of_mem_settledIds (h : id ∈ (settlements L).map Prod.fst) :
    (s.request id).isSome := by
  obtain ⟨⟨_, status⟩, hm, rfl⟩ := mem_map.mp h
  obtain ⟨r, hr, -⟩ := hl.settled_status _ status hm
  simp [hr]

theorem settlements_length_le : (settlements L).length ≤ (createdIds L).length := by
  rw [← length_map _ Prod.fst]
  exact (hl.settledIds_nodup.subperm fun id h =>
    (hl.mem_createdIds id).mpr (hl.isSome_of_mem_settledIds h)).length_le

/-- A `create_request` of a fresh `Pending` record `r` appends its `created` event. -/
theorem insert (hid : s.request r.requestId = none) (hp : r.status = .pending) :
    LogAgrees (L ++ [.paymentRequestCreated r.requestId r.merchant r.amount r.expiresAt])
      (insertRequest s r) := by
  have hc : createdIds (L ++ [.paymentRequestCreated r.requestId r.merchant r.amount
      r.expiresAt]) = createdIds L ++ [r.requestId] := by simp [createdIds_created]
  have hs : settlements (L ++ [.paymentRequestCreated r.requestId r.merchant r.amount
      r.expiresAt]) = settlements L := by simp [settlements_created]
  have hnot : r.requestId ∉ createdIds L := fun h => by
    simpa [hid] using (hl.mem_createdIds _).mp h
  have hsettled : r.requestId ∉ (settlements L).map Prod.fst := fun h => by
    simpa [hid] using hl.isSome_of_mem_settledIds h
  have hne : ∀ id, (s.request id).isSome → id ≠ r.requestId := fun _ h he => by
    simp [he, hid] at h
  have hle := hl.settlements_length_le
  refine ⟨?_, ?_, fun id => ?_, fun id r'' h => ?_, fun id status h => ?_, ?_, ?_,
    fun id merchant amount expiresAt h => ?_, fun id status h => ?_,
    fun id paymentId paidAt h => ?_⟩
  · rw [hc]
    exact nodup_append.mpr ⟨hl.createdIds_nodup, nodup_singleton _, disjoint_singleton.mpr hnot⟩
  · rw [hs]
    exact hl.settledIds_nodup
  · rw [hc, mem_append, mem_singleton]
    by_cases hx : id = r.requestId
    · subst hx; simp [insertRequest]
    · simp [insertRequest, update_noteq hx, hx, hl.mem_createdIds id]
  · rw [hs]
    by_cases hx : id = r.requestId
    · subst hx
      simp only [insertRequest, update_same, Option.some.injEq] at h
      subst h
      exact ⟨fun _ => hsettled, fun _ => hp⟩
    · exact hl.pending_iff id r'' (by simpa [insertRequest, update_noteq hx] using h)
  · rw [hs] at h
    obtain ⟨merchant, amount, expiresAt, ev, hev, hsub⟩ := hl.settled_after id status h
    exact ⟨merchant, amount, expiresAt, ev, hev, hsub.trans (sublist_append_left _ _)⟩
  · simp [insertRequest, hl.totalRequests_eq, hc]
  · simp only [insertRequest, hl.pendingRequests_eq, Option.getD_some, hc, hs, length_append,
      length_singleton, Option.some.injEq]
    omega
  · rcases mem_append.mp h with h | h
    · obtain ⟨r'', hr'', hfields⟩ := hl.created_fields id merchant amount expiresAt h
      exact ⟨r'', by simp [insertRequest, update_noteq (hne id (by simp [hr''])), hr''],
        hfields⟩
    · simp only [mem_singleton, ContractEvent.paymentRequestCreated.injEq] at h
      obtain ⟨rfl, rfl, rfl, rfl⟩ := h
      exact ⟨r, by simp [insertRequest], rfl, rfl, rfl⟩
  · rw [hs] at h
    obtain ⟨r'', hr'', hst⟩ := hl.settled_status id status h
    exact ⟨r'', by simp [insertRequest, update_noteq (hne id (by simp [hr''])), hr''], hst⟩
  · rcases mem_append.mp h with h | h
    · obtain ⟨r'', hr'', hpaid⟩ := hl.paid_fields id paymentId paidAt h
      exact ⟨r'', by simp [insertRequest, update_noteq (hne id (by simp [hr''])), hr''], hpaid⟩
    · simp at h

/-- A terminal transition of the `Pending` record under `id` appends its terminal event. -/
theorem settle (hr : s.request id = some r) (hp : r.status = .pending)
    (hset : Settles s t id r c r' ev) : LogAgrees (L ++ [ev]) (settleRequest s id r') := by
  have hsettled : id ∉ (settlements L).map Prod.fst := (hl.pending_iff id r hr).mp hp
  obtain ⟨⟨status, paidAt, paymentId, rfl⟩, hne⟩ := hset.eq_with
  have hsome : ∀ {id'}, (settleRequest s id { r with status, paidAt, paymentId }).request id' =
      if id' = id then some { r with status, paidAt, paymentId } else s.request id' := by
    intro id'; simp [settleRequest, update_apply]
  refine ⟨?_, ?_, fun id' => ?_, fun id' r'' h => ?_, fun id' st h => ?_, ?_, ?_,
    fun id' merchant amount expiresAt h => ?_, fun id' st h => ?_,
    fun id' paymentId' paidAt' h => ?_⟩
  · simpa [hset.createdIds_event] using hl.createdIds_nodup
  · simpa [hset.settlements_event, nodup_append, hsettled] using hl.settledIds_nodup
  · rw [hsome]
    split_ifs with hx
    · subst hx; simpa [hset.createdIds_event, hr] using hl.mem_createdIds id'
    · simpa [hset.createdIds_event] using hl.mem_createdIds id'
  · rw [hsome] at h
    split_ifs at h with hx
    · subst hx; cases h; simpa [hset.settlements_event] using hne
    · simpa [hset.settlements_event, hx] using hl.pending_iff id' r'' h
  · rw [settlements_append, hset.settlements_event, mem_append, mem_singleton] at h
    rcases h with h | h
    · obtain ⟨merchant, amount, expiresAt, ev', hev, hsub⟩ := hl.settled_after id' st h
      exact ⟨merchant, amount, expiresAt, ev', hev, hsub.trans (sublist_append_left _ _)⟩
    · obtain ⟨rfl, rfl⟩ := Prod.mk.inj h
      obtain ⟨x, hx, hxid⟩ := mem_filterMap.mp ((hl.mem_createdIds id').mpr (by simp [hr]))
      cases x <;> simp only [ContractEvent.createdId, reduceCtorEq, Option.some.injEq] at hxid
      subst hxid
      exact ⟨_, _, _, ev, hset.settlement_eq, (singleton_sublist.mpr hx).append (Sublist.refl _)⟩
  · simpa [settleRequest, hset.createdIds_event] using hl.totalRequests_eq
  · have := hl.pendingRequests_eq
    simp only [settleRequest, this, Option.getD_some, createdIds_append, hset.createdIds_event,
      settlements_append, hset.settlements_event, append_nil, length_append, length_singleton,
      Nat.sub_sub]
  · have h' : .paymentRequestCreated id' merchant amount expiresAt ∈ L := by
      rcases mem_append.mp h with h | h
      · exact h
      · have := hset.createdIds_event
        rw [← mem_singleton.mp h, createdIds_created] at this
        cases this
    obtain ⟨r'', hr'', hfields⟩ := hl.created_fields id' merchant amount expiresAt h'
    rw [hsome]
    split_ifs with hx
    · subst hx; rw [hr] at hr''; cases hr''; exact ⟨_, rfl, hfields⟩
    · exact ⟨r'', hr'', hfields⟩
  · rw [settlements_append, hset.settlements_event, mem_append, mem_singleton] at h
    rw [hsome]
    rcases h with h | h
    · have hx : id' ≠ id := fun hx => hsettled (hx ▸ mem_map_of_mem Prod.fst h)
      simpa [hx] using hl.settled_status id' st h
    · obtain ⟨rfl, rfl⟩ := Prod.mk.inj h
      simp
  · rw [hsome]
    rcases mem_append.mp h with h | h
    · have hm : (id', PaymentRequestStatus.paid) ∈ settlements L :=
        mem_filterMap.mpr ⟨_, h, rfl⟩
      have hx : id' ≠ id := fun hx => hsettled (hx ▸ mem_map_of_mem Prod.fst hm)
      simpa [hx] using hl.paid_fields id' paymentId' paidAt' h
    · obtain ⟨rfl, h₁, h₂⟩ := hset.paid_event (mem_singleton.mp h).symm
      exact ⟨_, if_pos rfl, h₁, h₂⟩

/-- Writes that leave the records and the counters as they were, with only `config` events,
keep the agreement. -/
theorem config {s' : Storage} {evs : List ContractEvent} (hevs : evs.all ContractEvent.isConfig)
    (hreq : s'.request = s.request) (ht : s'.totalRequests = s.totalRequests)
    (hp : s'.pendingRequests = s.pendingRequests) : LogAgrees (L ++ evs) s' := by
  have hc := createdIds_of_all_isConfig hevs
  have hs := settlements_of_all_isConfig hevs
  have hmem : ∀ {ev}, ev.isConfig = false → ev ∈ L ++ evs → ev ∈ L := fun hev h =>
    (mem_append.mp h).resolve_right fun h' => by simp [all_eq_true.mp hevs _ h'] at hev
  refine ⟨?_, ?_, ?_, ?_, fun id status h => ?_, ?_, ?_,
    fun id merchant amount expiresAt h => ?_, ?_, fun id paymentId paidAt h => ?_⟩
  · simpa [hc] using hl.createdIds_nodup
  · simpa [hs] using hl.settledIds_nodup
  · simpa [hc, hreq] using hl.mem_createdIds
  · simpa [hs, hreq] using hl.pending_iff
  · rw [settlements_append, hs, append_nil] at h
    obtain ⟨merchant, amount, expiresAt, ev, hev, hsub⟩ := hl.settled_after id status h
    exact ⟨merchant, amount, expiresAt, ev, hev, hsub.trans (sublist_append_left _ _)⟩
  · simpa [hc, ht] using hl.totalRequests_eq
  · simpa [hc, hs, hp] using hl.pendingRequests_eq
  · simpa [hreq] using hl.created_fields id merchant amount expiresAt (hmem rfl h)
  · simpa [hs, hreq] using hl.settled_status
  · simpa [hreq] using hl.paid_fields id paymentId paidAt (hmem rfl h)

end LogAgrees

/-! ### Runs -/

/-- Every invocation keeps the agreement of the host's events with its storage. -/
theorem LogAgrees.invoke {h : Host} (hs : Configured h.storage)
    (hl : LogAgrees h.events h.storage) (i : Invocation) :
    LogAgrees (h.invoke i).events (h.invoke i).storage := by
  unfold Host.invoke
  split
  · rename_i e he
    rcases exec_cases hs he with ⟨caller, id, amount, ref, exp, -, -, -, hid, -, rfl⟩ |
      ⟨id, r, r', ev, hr, hp, hset, rfl⟩ | ⟨-, -, -, he', hevs⟩
    · exact hl.insert (r := ⟨id, caller, amount, ref, .pending, i.timestamp, exp, none, none⟩)
        hid rfl
    · exact hl.settle hr hp hset
    · exact hl.config hevs (by rw [he']) (by rw [he']) (by rw [he'])
  · exact hl

theorem Reachable.logAgrees {h : Host} (hr : Reachable h) : LogAgrees h.events h.storage := by
  induction hr with
  | deploy hd =>
    obtain ⟨-, -, rfl⟩ := deploy_eq_ok hd
    exact ⟨nodup_nil, nodup_nil, by simp [createdIds, Storage.empty], by simp [Storage.empty],
      by simp [settlements], rfl, rfl, by simp, by simp [settlements], by simp⟩
  | invoke i hr ih => exact ih.invoke hr.inv.config i

/-- For every run from a deployment, the `PAY_REQ` events of its successful calls agree with
the storage: each request id has at most one `created` and at most one terminal event, the
latter after the former; the counters count the `created` events and those without a terminal
event; and each record carries the merchant, amount and expiry of its `created` event, the
status of its terminal event (`Pending` if there is none), and the payment time and id of its
`paid` event. -/
theorem run_event_log {admin operator vault : Address} {minAmount maxAmount : Int} {h₀ : Host}
    (hd : deploy admin operator vault minAmount maxAmount = .ok h₀) (is : List Invocation) :
    (createdIds (h₀.run is).events).Nodup ∧
    ((settlements (h₀.run is).events).map Prod.fst).Nodup ∧
    (∀ id status, (id, status) ∈ settlements (h₀.run is).events →
      ∃ merchant amount expiresAt ev, ev.settlement = some (id, status) ∧
        [.paymentRequestCreated id merchant amount expiresAt, ev] <+ (h₀.run is).events) ∧
    (h₀.run is).storage.totalRequests = some (createdIds (h₀.run is).events).length ∧
    (h₀.run is).storage.pendingRequests = some ((createdIds (h₀.run is).events).length -
      (settlements (h₀.run is).events).length) ∧
    ∀ id merchant amount expiresAt,
      .paymentRequestCreated id merchant amount expiresAt ∈ (h₀.run is).events →
      ∃ r, (h₀.run is).storage.request id = some r ∧ r.merchant = merchant ∧
        r.amount = amount ∧ r.expiresAt = expiresAt ∧
        (r.status = .pending ↔ id ∉ (settlements (h₀.run is).events).map Prod.fst) ∧
        (∀ status, (id, status) ∈ settlements (h₀.run is).events → r.status = status) ∧
        ∀ paymentId paidAt, .paymentRequestPaid id paymentId paidAt ∈ (h₀.run is).events →
          r.paidAt = some paidAt ∧ r.paymentId = some paymentId := by
  have hl := ((Reachable.deploy hd).run is).logAgrees
  refine ⟨hl.createdIds_nodup, hl.settledIds_nodup, hl.settled_after, hl.totalRequests_eq,
    hl.pendingRequests_eq, fun id merchant amount expiresAt h => ?_⟩
  obtain ⟨r, hr, hm, ha, he⟩ := hl.created_fields id merchant amount expiresAt h
  refine ⟨r, hr, hm, ha, he, hl.pending_iff id r hr, fun status hst => ?_,
    fun paymentId paidAt hpaid => ?_⟩
  · obtain ⟨r', hr', rfl⟩ := hl.settled_status id status hst
    rw [hr] at hr'
    cases hr'
    rfl
  · obtain ⟨r', hr', hpaid'⟩ := hl.paid_fields id paymentId paidAt hpaid
    rw [hr] at hr'
    cases hr'
    exact hpaid'

/-- On the tests' deployment, a run that creates a request and pays it names each id in at most
one `created` event. -/
theorem run_event_log_setupEnv :
    (createdIds ((setupEnv (.account 1) (.account 2) (.account 3)).run
      [⟨1000, .createRequest (.account 4) 1 10000000 2 2000⟩,
       ⟨1500, .markPaid (.account 2) 1 10⟩]).events).Nodup :=
  (run_event_log (deploy_setupEnv (.account 1) (.account 2) (.account 3)) _).1

end PaymentRequestContract

end Dabdub
