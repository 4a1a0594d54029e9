import Dabdub.PaymentRequest.Invariant

/-!
# The admin can always close every pending request

No `Pending` request is ever stuck. From every reachable state, at any ledger time and whether
or not the contract is paused, the admin can cancel every `Pending` request, one
`cancel_request` each (`payment_request/src/lib.rs`, lines 295–333). Afterwards no record is
`Pending` and `PendingRequests` is `0`. Every other key and every settled record is as it was,
and the log has gained exactly one `cancelled` event per request.

A cancel by the admin of a `Pending` record always succeeds and writes only that record and
the counter (`Host.invoke_cancel_admin`). Running such cancels over distinct `Pending` ids
composes these writes (`Reachable.run_cancel_admin`). The ids of the `Pending` records are a
finite set, counted by `PendingRequests`.

## Main results

* `PaymentRequestContract.reachable_admin_cancels_all`.
-/

namespace Dabdub.PaymentRequestContract

open Function List

variable {h : Host} {admin : Address}

/-- The admin's `cancel_request` of a `Pending` record succeeds at every time, and writes the
record back `Cancelled` and `PendingRequests` one down. -/
theorem Host.invoke_cancel_admin (ha : h.storage.admin = some admin) (t : Nat)
    {id : BytesN 32} {r : PaymentRequest} (hr : h.storage.request id = some r)
    (hp : r.status = .pending) :
    h.invoke ⟨t, .cancelRequest admin id⟩ =
      ⟨settleRequest h.storage id { r with status := .cancelled },
        h.events ++ [.paymentRequestCancelled id]⟩ :=
  Host.invoke_of_ok (by simp only [Call.exec, cancelRequest_eq ha, hr, hp, or_true, if_true]; rfl)

/-- The admin's cancels of distinct `Pending` requests, in any order, cancel exactly those
records and lower `PendingRequests` by their number. -/
theorem Reachable.run_cancel_admin (hr : Reachable h) (ha : h.storage.admin = some admin)
    (t : Nat) {n : Nat} (hn : h.storage.pendingRequests = some n) {ids : List (BytesN 32)}
    (hnd : ids.Nodup)
    (hp : ∀ id ∈ ids, ∃ r, h.storage.request id = some r ∧ r.status = .pending) :
    h.run (ids.map fun id => ⟨t, .cancelRequest admin id⟩) =
      ⟨{ h.storage with
          request := fun id => if id ∈ ids then
            (h.storage.request id).map fun r => { r with status := .cancelled }
            else h.storage.request id,
          pendingRequests := some (n - ids.length) },
        h.events ++ ids.map .paymentRequestCancelled⟩ := by
  induction ids generalizing h n with
  | nil =>
    obtain ⟨⟨⟩, _⟩ := h
    simp only at hn
    simp [hn]
  | cons id ids ih =>
    obtain ⟨hid, hnd⟩ := nodup_cons.mp hnd
    obtain ⟨r, hr₀, hp₀⟩ := hp id (mem_cons_self _ _)
    have hstep := Host.invoke_cancel_admin ha t hr₀ hp₀
    have hother : ∀ x ∈ ids, (settleRequest h.storage id { r with status := .cancelled }).request
        x = h.storage.request x := fun x hx =>
      update_noteq (fun hx' : x = id => hid (hx' ▸ hx)) _ _
    have hr' : Reachable ⟨settleRequest h.storage id { r with status := .cancelled },
        h.events ++ [.paymentRequestCancelled id]⟩ := hstep ▸ hr.invoke _
    have hn' : (settleRequest h.storage id { r with status := .cancelled }).pendingRequests =
        some (n - 1) := by simp [settleRequest, hn]
    rw [map_cons, Host.run_cons, hstep,
      ih hr' ha hn' hnd fun x hx => hother x hx ▸ hp x (mem_cons_of_mem _ hx)]
    simp only [settleRequest, Host.mk.injEq, Storage.mk.injEq, append_assoc, map_cons,
      singleton_append, and_true, true_and, length_cons, Option.some.injEq]
    refine ⟨funext fun x => ?_, by omega⟩
    by_cases hx : x = id
    · subst hx
      simp [hid, hr₀]
    · by_cases hxs : x ∈ ids <;> simp [hx, hxs]

/-- From every reachable state, at any ledger time and whether or not the contract is paused,
the admin can cancel every `Pending` request with one `cancel_request` each: afterwards each
record that was `Pending` is `Cancelled` with its other fields as they were, every other record
and key is unchanged, `PendingRequests` is `0`, and the log has gained one `cancelled` event
per request. -/
theorem reachable_admin_cancels_all (hr : Reachable h) (ha : h.storage.admin = some admin)
    (t : Nat) :
    ∃ ids : List (BytesN 32), ids.Nodup ∧
      (∀ id, id ∈ ids ↔ ∃ r, h.storage.request id = some r ∧ r.status = .pending) ∧
      h.run (ids.map fun id => ⟨t, .cancelRequest admin id⟩) =
        ⟨{ h.storage with
            request := fun id => (h.storage.request id).map fun r =>
              if r.status = .pending then { r with status := .cancelled } else r,
            pendingRequests := some 0 },
          h.events ++ ids.map .paymentRequestCancelled⟩ := by
  obtain ⟨keys, hk, -, hpc⟩ := hr.inv.counters
  set P := keys.filter fun id => (h.storage.request id).any fun r => r.status = .pending
  have hmem : ∀ id, id ∈ P.toList ↔ ∃ r, h.storage.request id = some r ∧ r.status = .pending := by
    intro id
    rw [Finset.mem_toList, Finset.mem_filter, hk id]
    cases h.storage.request id <;> simp
  refine ⟨P.toList, P.nodup_toList, hmem, ?_⟩
  rw [hr.run_cancel_admin ha t hpc P.nodup_toList fun id hid => (hmem id).mp hid]
  simp only [Host.mk.injEq, Storage.mk.injEq, Finset.length_toList, and_true, true_and]
  refine ⟨funext fun id => ?_, by rw [countRequests, Nat.sub_self]⟩
  by_cases hid : id ∈ P.toList
  · obtain ⟨r, hr, hp⟩ := (hmem id).mp hid
    simp [hid, hr, hp]
  · cases hr : h.storage.request id with
    | none => simp [hid]
    | some r =>
      have hp : r.status ≠ .pending := fun hp => hid ((hmem id).mpr ⟨r, hr, hp⟩)
      simp [hid, hp]

/-- On the tests' deployment, after one request is created, the admin's cancels bring
`PendingRequests` back to `0`, even past the request's expiry. -/
theorem reachable_admin_cancels_all_setupEnv :
    ∃ ids : List (BytesN 32),
      (((setupEnv (.account 1) (.account 2) (.account 3)).invoke
        ⟨1000, .createRequest (.account 4) 1 10000000 2 2000⟩).run
          (ids.map fun id => ⟨5000, .cancelRequest (.account 1) id⟩)).storage.pendingRequests =
        some 0 :=
  have ⟨ids, _, _, hrun⟩ := reachable_admin_cancels_all
    ((Reachable.deploy (deploy_setupEnv (.account 1) (.account 2) (.account 3))).invoke
      ⟨1000, .createRequest (.account 4) 1 10000000 2 2000⟩) rfl 5000
  ⟨ids, by rw [hrun]⟩

end Dabdub.PaymentRequestContract
