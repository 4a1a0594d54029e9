import Dabdub.PaymentRequest.Invariant

/-!
# The counters overflow only at `u64::MAX` requests

`create_request` raises `TotalRequests` and then `PendingRequests` with `u64` additions
(`payment_request/src/lib.rs`, lines 217–236), and in a build with overflow checks each panics
past `u64::MAX`. In every reachable state `TotalRequests` fits a `u64`
(`Reachable.totalRequests_lt`) and bounds `PendingRequests`, so the second addition never
panics. Past its checks, `create_request` can then fail in one way only: once `u64::MAX`
requests exist, every creation panics with the overflow message.

## Main results

* `PaymentRequestContract.Reachable.totalRequests_lt`.
* `PaymentRequestContract.createRequest_succeeds_iff_checks`: `create_request` from every
  reachable state below that limit, and its roll-back on failure.
* `PaymentRequestContract.reachable_createRequest_eq`: `create_request` from every reachable
  state, with no bound on the counters assumed.
-/

namespace Dabdub.PaymentRequestContract

open Function

variable {s : Storage} {t : Nat} {c : Call} {e : Effect} {h : Host}

/-- A successful call either keeps `TotalRequests` or leaves it below `2 ^ 64`. -/
theorem exec_totalRequests (hs : Configured s) (he : c.exec ⟨s, t⟩ = .ok e) :
    e.storage.totalRequests = s.totalRequests ∨ e.storage.totalRequests.getD 0 < 2 ^ 64 := by
  have ⟨_, _, lo, hi, _, _, hlo, hhi, _⟩ := hs
  rcases exec_cases hs he with ⟨caller, id, amount, ref, exp, rfl, -⟩ |
    ⟨-, -, -, -, -, -, -, rfl⟩ | ⟨-, -, -, he', -⟩
  · obtain ⟨⟨_, e'⟩, hc, rfl⟩ := map_eq_ok he
    obtain ⟨-, -, -, -, -, -, -, ht, -, -, rfl⟩ := createRequest_eq_ok hlo hhi hc
    exact .inr ht
  · exact .inl rfl
  · exact .inl (by rw [he'])

/-- `TotalRequests` fits a `u64` in every reachable state. -/
theorem Reachable.totalRequests_lt (hr : Reachable h) :
    h.storage.totalRequests.getD 0 < 2 ^ 64 := by
  induction hr with
  | deploy hd =>
    obtain ⟨-, -, rfl⟩ := deploy_eq_ok hd
    exact Nat.two_pow_pos 64
  | @invoke h i hr ih =>
    cases he : i.call.exec ⟨h.storage, i.timestamp⟩ with
    | error msg => rwa [Host.invoke_of_error he]
    | ok e =>
      rw [Host.invoke_of_ok he]
      rcases exec_totalRequests hr.inv.config he with ht | ht
      · rwa [ht]
      · exact ht

/-- `create_request` from every reachable state with fewer than `u64::MAX` requests: it
succeeds exactly when every check passes, and then returns the id and writes the record, the
index entry and both counters one up and nothing else; otherwise it fails with the first failing
check's message, and the host keeps its state. -/
theorem createRequest_succeeds_iff_checks (hr : Reachable h) {lo hi : Int}
    (hlo : h.storage.minAmount = some lo) (hhi : h.storage.maxAmount = some hi)
    (htotal : h.storage.totalRequests.getD 0 < 2 ^ 64 - 1) (now : Nat) (caller : Address)
    (requestId : BytesN 32) (amount : Int) (reference : BytesN 32) (expiresAt : Nat) :
    createRequest ⟨h.storage, now⟩ caller requestId amount reference expiresAt =
      (if h.storage.paused.getD false then .error "Contract is paused"
      else if amount ≤ 0 then .error "Amount must be > 0"
      else if amount < lo then .error "Amount below minimum"
      else if hi < amount then .error "Amount above maximum"
      else if expiresAt ≤ now then .error "Expiry must be in the future"
      else if (h.storage.request requestId).isSome then .error "Request ID already exists"
      else if (h.storage.referenceIndex reference).isSome then .error "Reference already exists"
      else .ok (requestId, ⟨{ h.storage with
          request := update h.storage.request requestId
            (some ⟨requestId, caller, amount, reference, .pending, now, expiresAt, none, none⟩),
          referenceIndex := update h.storage.referenceIndex reference (some requestId),
          totalRequests := some (h.storage.totalRequests.getD 0 + 1),
          pendingRequests := some (h.storage.pendingRequests.getD 0 + 1) },
        [.paymentRequestCreated requestId caller amount expiresAt]⟩)) ∧
    ∀ msg, createRequest ⟨h.storage, now⟩ caller requestId amount reference expiresAt =
        .error msg →
      h.invoke ⟨now, .createRequest caller requestId amount reference expiresAt⟩ = h :=
  ⟨createRequest_eq_of_lt hlo hhi htotal (hr.pendingRequests_le.trans_lt htotal) caller requestId
    amount reference expiresAt,
    fun msg he => by simp only [Host.invoke, Call.exec, he, map_error]⟩

/-- On the tests' deployment, after one request is created, a second creation under the same id
is refused and leaves the host as it was. -/
theorem createRequest_succeeds_iff_checks_setupEnv :
    ((setupEnv (.account 1) (.account 2) (.account 3)).invoke
        ⟨1000, .createRequest (.account 4) 1 10000000 2 2000⟩).invoke
        ⟨1100, .createRequest (.account 5) 1 20000000 3 3000⟩ =
      (setupEnv (.account 1) (.account 2) (.account 3)).invoke
        ⟨1000, .createRequest (.account 4) 1 10000000 2 2000⟩ :=
  have hc := createRequest_succeeds_iff_checks
    ((Reachable.deploy (deploy_setupEnv (.account 1) (.account 2) (.account 3))).invoke
      ⟨1000, .createRequest (.account 4) 1 10000000 2 2000⟩)
    (show ((setupEnv (.account 1) (.account 2) (.account 3)).invoke
      ⟨1000, .createRequest (.account 4) 1 10000000 2 2000⟩).storage.minAmount = some 1000000
      from rfl) rfl (by decide) 1100 (.account 5) 1 20000000 3 3000
  hc.2 "Request ID already exists" (by rw [hc.1]; rfl)

/-- From every reachable state, `create_request` runs its checks in the order of the source,
and a call that passes them all succeeds, writing its record, its index entry and both counters
one up, unless `u64::MAX` requests already exist, where it panics with the overflow message. No
bound on the counters is assumed: `PendingRequests` never overflows first. -/
theorem reachable_createRequest_eq (hr : Reachable h) {lo hi : Int}
    (hlo : h.storage.minAmount = some lo) (hhi : h.storage.maxAmount = some hi) (now : Nat)
    (caller : Address) (requestId : BytesN 32) (amount : Int) (reference : BytesN 32)
    (expiresAt : Nat) :
    createRequest ⟨h.storage, now⟩ caller requestId amount reference expiresAt =
      if h.storage.paused.getD false then .error "Contract is paused"
      else if amount ≤ 0 then .error "Amount must be > 0"
      else if amount < lo then .error "Amount below minimum"
      else if hi < amount then .error "Amount above maximum"
      else if expiresAt ≤ now then .error "Expiry must be in the future"
      else if (h.storage.request requestId).isSome then .error "Request ID already exists"
      else if (h.storage.referenceIndex reference).isSome then .error "Reference already exists"
      else if h.storage.totalRequests.getD 0 = 2 ^ 64 - 1 then
        .error "attempt to add with overflow"
      else .ok (requestId, ⟨insertRequest h.storage
          ⟨requestId, caller, amount, reference, .pending, now, expiresAt, none, none⟩,
        [.paymentRequestCreated requestId caller amount expiresAt]⟩) := by
  have ht := hr.totalRequests_lt
  have hp := hr.pendingRequests_le
  by_cases hmax : h.storage.totalRequests.getD 0 = 2 ^ 64 - 1
  · rw [createRequest_eq hlo hhi, addU64_of_le (by omega), error_bind, if_pos hmax]
  · rw [createRequest_eq hlo hhi, addU64_of_lt (by omega), ok_bind, addU64_of_lt (by omega),
      ok_bind, if_neg hmax]
    rfl

/-- On the tests' deployment, a first request with a fresh id and reference is created. -/
theorem reachable_createRequest_eq_setupEnv :
    (createRequest ⟨(setupEnv (.account 1) (.account 2) (.account 3)).storage, 1000⟩
      (.account 4) 1 10000000 2 2000).isOk := by
  rw [reachable_createRequest_eq
    (.deploy (deploy_setupEnv (.account 1) (.account 2) (.account 3)))
    (show (setupEnv (.account 1) (.account 2) (.account 3)).storage.minAmount = some 1000000
      from rfl) rfl]
  rfl

end Dabdub.PaymentRequestContract
