import Mathlib.Algebra.BigOperators.Group.Finset
import Dabdub.PaymentRequest.Step

/-!
# The invariant of reachable storage

Every reachable storage satisfies `Inv`: the configuration keys are set with
`0 < min_amount < max_amount`, the two counters count the stored records and the `Pending` ones,
every record is well formed for its key (`PaymentRequest.WellFormed`), and `ReferenceIndex` is
the inverse of the map from a stored record's id to its reference.

`Inv` holds after deployment (`inv_deploy`) and every successful call keeps it (`Inv.exec`):
a `create_request` writes a fresh record and a fresh index entry (`inv_insertRequest`), a terminal
transition rewrites a `Pending` record with the same id and reference (`inv_settleRequest`), and
an admin setter touches only configuration (`inv_of_config`).

## Main definitions

* `PaymentRequestContract.countRequests`: the number of stored records satisfying a test.
* `PaymentRequest.WellFormed`, `PaymentRequestContract.Inv`.

## Main results

* `PaymentRequestContract.Reachable.inv`: every reachable storage satisfies `Inv`.
-/

namespace Dabdub

/-- The record stored under `Request(request_id)` is well formed for that key: it carries the
key as its id, a positive amount, an expiry after its creation, and a payment time and a
payment id exactly when it is `Paid`. -/
structure PaymentRequest.WellFormed (r : PaymentRequest) (requestId : BytesN 32) : Prop where
  requestId_eq : r.requestId = requestId
  amount_pos : 0 < r.amount
  createdAt_lt : r.createdAt < r.expiresAt
  paidAt_isSome : r.paidAt.isSome ↔ r.status = .paid
  paymentId_isSome : r.paymentId.isSome ↔ r.status = .paid

/-- A `Pending` record moved to a status other than `Paid` stays well formed. -/
theorem PaymentRequest.WellFormed.withStatus {r : PaymentRequest} {requestId : BytesN 32}
    (hwf : r.WellFormed requestId) (hp : r.status = .pending) {status : PaymentRequestStatus}
    (hs : status ≠ .paid) : { r with status }.WellFormed requestId :=
  ⟨hwf.requestId_eq, hwf.amount_pos, hwf.createdAt_lt,
    by simpa [hp, hs] using hwf.paidAt_isSome, by simpa [hp, hs] using hwf.paymentId_isSome⟩

/-- A record marked `Paid` with a payment time and id is well formed. -/
theorem PaymentRequest.WellFormed.paid {r : PaymentRequest} {requestId : BytesN 32}
    (hwf : r.WellFormed requestId) (paidAt : Nat) (paymentId : BytesN 32) :
    { r with status := .paid, paidAt := some paidAt, paymentId := some paymentId }.WellFormed
      requestId :=
  ⟨hwf.requestId_eq, hwf.amount_pos, hwf.createdAt_lt, by simp, by simp⟩

namespace PaymentRequestContract

open Function

/-! ### Counting records -/

/-- `keys` holds exactly the ids under which a record is stored. -/
def StoredKeys (request : BytesN 32 → Option PaymentRequest) (keys : Finset (BytesN 32)) :
    Prop :=
  ∀ id, id ∈ keys ↔ (request id).isSome

/-- The number of ids in `keys` whose record satisfies `p`. -/
def countRequests (keys : Finset (BytesN 32)) (request : BytesN 32 → Option PaymentRequest)
    (p : PaymentRequest → Bool) : Nat :=
  (keys.filter fun id => (request id).any p).card

variable {keys : Finset (BytesN 32)} {request : BytesN 32 → Option PaymentRequest}
  {id : BytesN 32}

/-- Writing `v` at a counted id adds `v` to the count and removes what was there. -/
theorem countRequests_update (request : BytesN 32 → Option PaymentRequest) (hid : id ∈ keys)
    (p : PaymentRequest → Bool) (v : Option PaymentRequest) :
    countRequests keys (update request id v) p + (if (request id).any p then 1 else 0) =
      countRequests keys request p + (if v.any p then 1 else 0) := by
  have hu : (fun x => if (update request id v x).any p then 1 else 0) =
      update (fun x => if (request x).any p then 1 else 0) id (if v.any p then 1 else 0) := by
    funext x
    by_cases hx : x = id
    · subst hx; simp
    · simp [hx]
  rw [countRequests, countRequests, Finset.card_filter, Finset.card_filter, hu,
    Finset.sum_update_of_mem hid, Finset.sum_eq_add_sum_diff_singleton hid]
  omega

/-- An id with no record adds nothing to a count. -/
theorem countRequests_insert (hid : request id = none) (p : PaymentRequest → Bool) :
    countRequests (insert id keys) request p = countRequests keys request p := by
  rw [countRequests, countRequests, Finset.filter_insert, hid]
  rfl

theorem countRequests_le_card (p : PaymentRequest → Bool) :
    countRequests keys request p ≤ keys.card :=
  Finset.card_filter_le _ _

theorem StoredKeys.insert (hk : StoredKeys request keys) (r : PaymentRequest) :
    StoredKeys (update request id (some r)) (insert id keys) := fun x => by
  by_cases hx : x = id
  · subst hx; simp
  · simp [hx, hk x]

theorem StoredKeys.update_of_isSome (hk : StoredKeys request keys) (hid : (request id).isSome)
    (r : PaymentRequest) : StoredKeys (update request id (some r)) keys := fun x => by
  by_cases hx : x = id
  · subst hx; simp [(hk x).mpr hid]
  · simp [hx, hk x]

/-! ### The invariant -/

/-- The invariant of reachable storage. -/
structure Inv (s : Storage) : Prop where
  config : Configured s
  counters : ∃ keys, StoredKeys s.request keys ∧ s.totalRequests = some keys.card ∧
    s.pendingRequests = some (countRequests keys s.request fun r => r.status = .pending)
  wellFormed : ∀ id r, s.request id = some r → r.WellFormed id
  referenceIndex_eq : ∀ id r, s.request id = some r → s.referenceIndex r.reference = some id
  request_of_referenceIndex :
    ∀ ref id, s.referenceIndex ref = some id → ∃ r, s.request id = some r ∧ r.reference = ref

variable {s : Storage}

theorem inv_deploy {admin operator vault : Address} {minAmount maxAmount : Int} {h : Host}
    (hd : deploy admin operator vault minAmount maxAmount = .ok h) : Inv h.storage := by
  obtain ⟨h₀, h₁, rfl⟩ := deploy_eq_ok hd
  refine ⟨⟨admin, operator, minAmount, maxAmount, rfl, rfl, rfl, rfl, h₀, h₁⟩,
    ⟨∅, fun _ => by simp [Storage.empty], rfl, rfl⟩, ?_, ?_, ?_⟩ <;> simp [Storage.empty]

/-- A fresh, well-formed `Pending` record under a fresh reference keeps the invariant. -/
theorem inv_insertRequest (hs : Inv s) {r : PaymentRequest} (hid : s.request r.requestId = none)
    (href : s.referenceIndex r.reference = none) (hwf : r.WellFormed r.requestId)
    (hp : r.status = .pending) : Inv (insertRequest s r) where
  config := hs.config
  counters := by
    obtain ⟨keys, hk, ht, hp'⟩ := hs.counters
    have hnk : r.requestId ∉ keys := fun h => by simpa [hid] using (hk _).mp h
    have hc := countRequests_update s.request (Finset.mem_insert_self r.requestId keys)
      (fun r => r.status = .pending) (some r)
    simp only [hid, Option.any_none, Option.any_some, hp, decide_True, Bool.false_eq_true,
      if_true, if_false, countRequests_insert hid] at hc
    refine ⟨insert r.requestId keys, hk.insert r, ?_, ?_⟩
    · simp only [insertRequest, ht, Option.getD_some, Finset.card_insert_of_not_mem hnk]
    · simp only [insertRequest, hp', Option.getD_some, Option.some.injEq]
      omega
  wellFormed id r' h := by
    simp only [insertRequest, update_apply] at h
    split_ifs at h with he
    · cases h; exact he ▸ hwf
    · exact hs.wellFormed id r' h
  referenceIndex_eq id r' h := by
    simp only [insertRequest, update_apply] at h ⊢
    split_ifs at h with he
    · cases h; simp [he]
    · have hi := hs.referenceIndex_eq id r' h
      have hne : r'.reference ≠ r.reference := fun e => by simp [e, href] at hi
      simp [hne, hi]
  request_of_referenceIndex ref id h := by
    simp only [insertRequest, update_apply] at h ⊢
    split_ifs at h with he
    · cases h; exact ⟨r, by simp, he.symm⟩
    · obtain ⟨r', hr', hrr⟩ := hs.request_of_referenceIndex ref id h
      have hne : id ≠ r.requestId := fun e => by simp [e, hid] at hr'
      exact ⟨r', by simp [hne, hr'], hrr⟩

/-- Rewriting a `Pending` record with a well-formed record of the same reference that is no
longer `Pending` keeps the invariant. -/
theorem inv_settleRequest (hs : Inv s) {r r' : PaymentRequest} (hr : s.request id = some r)
    (hp : r.status = .pending) (hwf : r'.WellFormed id) (href : r'.reference = r.reference)
    (hp' : r'.status ≠ .pending) : Inv (settleRequest s id r') where
  config := hs.config
  counters := by
    obtain ⟨keys, hk, ht, hpc⟩ := hs.counters
    have hsome : (s.request id).isSome := by simp [hr]
    have hc := countRequests_update s.request ((hk id).mpr hsome) (fun r => r.status = .pending)
      (some r')
    simp only [hr, Option.any_some, hp, hp', decide_True, decide_False, Bool.false_eq_true,
      if_true, if_false] at hc
    refine ⟨keys, hk.update_of_isSome hsome r', ht, ?_⟩
    simp only [settleRequest, hpc, Option.getD_some, Option.some.injEq]
    omega
  wellFormed x r'' h := by
    simp only [settleRequest, update_apply] at h
    split_ifs at h with he
    · cases h; exact he ▸ hwf
    · exact hs.wellFormed x r'' h
  referenceIndex_eq x r'' h := by
    simp only [settleRequest, update_apply] at h
    split_ifs at h with he
    · cases h; rw [href, he]; exact hs.referenceIndex_eq id r hr
    · exact hs.referenceIndex_eq x r'' h
  request_of_referenceIndex ref x h := by
    obtain ⟨r'', hr'', hrr⟩ := hs.request_of_referenceIndex ref x h
    simp only [settleRequest, update_apply]
    split_ifs with he
    · subst he; rw [hr] at hr''; cases hr''; exact ⟨r', rfl, href.trans hrr⟩
    · exact ⟨r'', hr'', hrr⟩

/-- A write to the configuration that keeps the bounds keeps the invariant. -/
theorem inv_of_config (hs : Inv s) {s' : Storage} (hconf : Configured s')
    (hreq : s'.request = s.request) (hidx : s'.referenceIndex = s.referenceIndex)
    (ht : s'.totalRequests = s.totalRequests) (hp : s'.pendingRequests = s.pendingRequests) :
    Inv s' where
  config := hconf
  counters := by simpa only [hreq, ht, hp] using hs.counters
  wellFormed := hreq ▸ hs.wellFormed
  referenceIndex_eq := hreq ▸ hidx ▸ hs.referenceIndex_eq
  request_of_referenceIndex := hreq ▸ hidx ▸ hs.request_of_referenceIndex

/-- Every successful call keeps the invariant. -/
theorem Inv.exec (hs : Inv s) {c : Call} {t : Nat} {e : Effect}
    (h : c.exec ⟨s, t⟩ = .ok e) : Inv e.storage := by
  rcases exec_cases hs.config h with
    ⟨_, _, _, _, _, -, h0, hexp, hid, href, rfl⟩ | ⟨id, r, r', ev, hr, hp, hset, rfl⟩ |
    ⟨-, -, hconf, he, -⟩
  · exact inv_insertRequest hs hid href ⟨rfl, h0, hexp, by simp, by simp⟩ rfl
  · have hwf := hs.wellFormed id r hr
    cases hset with
    | paid => exact inv_settleRequest hs hr hp (hwf.paid _ _) rfl (by simp)
    | cancelled => exact inv_settleRequest hs hr hp (hwf.withStatus hp (by simp)) rfl (by simp)
    | expired => exact inv_settleRequest hs hr hp (hwf.withStatus hp (by simp)) rfl (by simp)
  · exact inv_of_config hs hconf (by rw [he]) (by rw [he]) (by rw [he]) (by rw [he])

theorem Inv.invoke {h : Host} (hs : Inv h.storage) (i : Invocation) : Inv (h.invoke i).storage := by
  unfold Host.invoke
  split
  · exact hs.exec ‹_›
  · exact hs

/-- Every reachable storage satisfies the invariant. -/
theorem Reachable.inv {h : Host} (hr : Reachable h) : Inv h.storage := by
  induction hr with
  | deploy hd => exact inv_deploy hd
  | invoke i _ ih => exact ih.invoke i

/-- `PendingRequests` is at most `TotalRequests` in every reachable state. -/
theorem Reachable.pendingRequests_le {h : Host} (hr : Reachable h) :
    h.storage.pendingRequests.getD 0 ≤ h.storage.totalRequests.getD 0 := by
  obtain ⟨keys, -, ht, hp⟩ := hr.inv.counters
  rw [ht, hp]
  exact countRequests_le_card _

end PaymentRequestContract

end Dabdub
