import Mathlib.Tactic.SplitIfs
import Dabdub.PaymentRequest.Host

/-!
# What each function of the contract does

One lemma per function of `PaymentRequestContract`, in a form later proofs cite instead of
unfolding the function.

## Main results

* `createRequest_eq`: `create_request` once `MinAmount` and `MaxAmount` are set.
* `markPaid_eq`, `cancelRequest_eq`, `markExpired_eq`: the three terminal transitions once the
  roles they read are set.
* `terminal_transitions_spec`: when each terminal transition succeeds, what it writes, and that
  a failing call is rolled back.
-/

namespace Dabdub.PaymentRequestContract

open Function

variable {s : Storage} {now : Nat} {caller admin operator : Address}

/-! ### Helpers -/

theorem requireAdmin_eq (h : s.admin = some admin) :
    requireAdmin ⟨s, now⟩ caller = panicIf (¬caller = admin) "Not admin" := by
  simp only [requireAdmin, h, unwrap_some, ok_bind, ne_eq]

theorem requireOperatorOrAdmin_eq (ha : s.admin = some admin) (ho : s.operator = some operator) :
    requireOperatorOrAdmin ⟨s, now⟩ caller =
      panicIf (¬(caller = admin ∨ caller = operator)) "Not operator or admin" := by
  simp only [requireOperatorOrAdmin, ha, ho, unwrap_some, ok_bind, ne_eq, not_or]

theorem loadPendingRequest_eq (s : Storage) (requestId : BytesN 32) :
    loadPendingRequest s requestId =
      match s.request requestId with
      | none => .error "Request not found"
      | some r => if r.status = .pending then .ok r else .error "Request is not pending" := by
  cases h : s.request requestId with
  | none => simp [loadPendingRequest, h]
  | some r => by_cases hp : r.status = .pending <;> simp [loadPendingRequest, h, hp]

theorem decrementPending_writeRequest (s : Storage) (requestId : BytesN 32) (r : PaymentRequest) :
    decrementPending (writeRequest s requestId r) =
      { s with request := update s.request requestId (some r),
               pendingRequests := some (s.pendingRequests.getD 0 - 1) } := by
  simp only [decrementPending, writeRequest, Storage.mk.injEq, Option.some.injEq, and_true,
    true_and]
  split <;> omega

/-- The writes of a successful `create_request` of the record `r`: `Request(r.request_id)`,
`ReferenceIndex(r.reference)` and both counters one up. -/
def insertRequest (s : Storage) (r : PaymentRequest) : Storage :=
  { s with
    request := update s.request r.requestId (some r),
    referenceIndex := update s.referenceIndex r.reference (some r.requestId),
    totalRequests := some (s.totalRequests.getD 0 + 1),
    pendingRequests := some (s.pendingRequests.getD 0 + 1) }

/-- The writes of a successful terminal transition: `Request(request_id)` becomes `r`, and
`PendingRequests` one down, floored at `0`. -/
def settleRequest (s : Storage) (requestId : BytesN 32) (r : PaymentRequest) : Storage :=
  { s with
    request := update s.request requestId (some r),
    pendingRequests := some (s.pendingRequests.getD 0 - 1) }

/-! ### `create_request` -/

/-- `create_request` once `MinAmount` and `MaxAmount` are set: the checks in the order of the
source, then the two writes and the two counter increments. -/
theorem createRequest_eq {lo hi : Int} (hlo : s.minAmount = some lo)
    (hhi : s.maxAmount = some hi) (caller : Address) (requestId : BytesN 32) (amount : Int)
    (reference : BytesN 32) (expiresAt : Nat) :
    createRequest ⟨s, now⟩ caller requestId amount reference expiresAt =
      if s.paused.getD false then .error "Contract is paused"
      else if amount ≤ 0 then .error "Amount must be > 0"
      else if amount < lo then .error "Amount below minimum"
      else if hi < amount then .error "Amount above maximum"
      else if expiresAt ≤ now then .error "Expiry must be in the future"
      else if (s.request requestId).isSome then .error "Request ID already exists"
      else if (s.referenceIndex reference).isSome then .error "Reference already exists"
      else do
        let total ← addU64 (s.totalRequests.getD 0) 1
        let pending ← addU64 (s.pendingRequests.getD 0) 1
        return (requestId, ⟨{ s with
          request := update s.request requestId
            (some ⟨requestId, caller, amount, reference, .pending, now, expiresAt, none, none⟩),
          referenceIndex := update s.referenceIndex reference (some requestId),
          totalRequests := some total, pendingRequests := some pending },
          [.paymentRequestCreated requestId caller amount expiresAt]⟩) := by
  simp only [createRequest, hlo, hhi, unwrap_some, ok_bind, panicIf_bind, writeRequest, gt_iff_lt]

/-- A successful `create_request` passed every check and wrote its record. -/
theorem createRequest_eq_ok {lo hi : Int} (hlo : s.minAmount = some lo)
    (hhi : s.maxAmount = some hi) {caller : Address} {requestId : BytesN 32} {amount : Int}
    {reference : BytesN 32} {expiresAt : Nat} {ret : BytesN 32} {e : Effect}
    (h : createRequest ⟨s, now⟩ caller requestId amount reference expiresAt = .ok (ret, e)) :
    s.paused.getD false = false ∧ 0 < amount ∧ lo ≤ amount ∧ amount ≤ hi ∧ now < expiresAt ∧
      s.request requestId = none ∧ s.referenceIndex reference = none ∧
      s.totalRequests.getD 0 + 1 < 2 ^ 64 ∧ s.pendingRequests.getD 0 + 1 < 2 ^ 64 ∧
      ret = requestId ∧
      e = ⟨insertRequest s
          ⟨requestId, caller, amount, reference, .pending, now, expiresAt, none, none⟩,
        [.paymentRequestCreated requestId caller amount expiresAt]⟩ := by
  rw [createRequest_eq hlo hhi] at h
  simp only [ite_error_eq_ok] at h
  obtain ⟨h₁, h₂, h₃, h₄, h₅, h₆, h₇, h⟩ := h
  obtain ⟨t, ht, h⟩ := bind_eq_ok h
  obtain ⟨p, hp, h⟩ := bind_eq_ok h
  obtain ⟨ht', rfl⟩ := addU64_eq_ok ht
  obtain ⟨hp', rfl⟩ := addU64_eq_ok hp
  cases h
  exact ⟨by simpa using h₁, by omega, by omega, by omega, by omega,
    Option.not_isSome_iff_eq_none.mp h₆, Option.not_isSome_iff_eq_none.mp h₇, ht', hp', rfl, rfl⟩

/-- `create_request` with room in both counters: the checks in the order of the source, then
the record, the index entry and both counters one up. -/
theorem createRequest_eq_of_lt {lo hi : Int} (hlo : s.minAmount = some lo)
    (hhi : s.maxAmount = some hi) (htotal : s.totalRequests.getD 0 < 2 ^ 64 - 1)
    (hpending : s.pendingRequests.getD 0 < 2 ^ 64 - 1) (caller : Address)
    (requestId : BytesN 32) (amount : Int) (reference : BytesN 32) (expiresAt : Nat) :
    createRequest ⟨s, now⟩ caller requestId amount reference expiresAt =
      (if s.paused.getD false then .error "Contract is paused"
      else if amount ≤ 0 then .error "Amount must be > 0"
      else if amount < lo then .error "Amount below minimum"
      else if hi < amount then .error "Amount above maximum"
      else if expiresAt ≤ now then .error "Expiry must be in the future"
      else if (s.request requestId).isSome then .error "Request ID already exists"
      else if (s.referenceIndex reference).isSome then .error "Reference already exists"
      else .ok (requestId, ⟨{ s with
          request := update s.request requestId
            (some ⟨requestId, caller, amount, reference, .pending, now, expiresAt, none, none⟩),
          referenceIndex := update s.referenceIndex reference (some requestId),
          totalRequests := some (s.totalRequests.getD 0 + 1),
          pendingRequests := some (s.pendingRequests.getD 0 + 1) },
        [.paymentRequestCreated requestId caller amount expiresAt]⟩)) := by
  have ht : addU64 (s.totalRequests.getD 0) 1 = .ok (s.totalRequests.getD 0 + 1) :=
    addU64_of_lt (by omega)
  have hp : addU64 (s.pendingRequests.getD 0) 1 = .ok (s.pendingRequests.getD 0 + 1) :=
    addU64_of_lt (by omega)
  simp only [createRequest_eq hlo hhi, ht, hp, ok_bind, pure_eq_ok]

/-! ### Terminal transitions -/

theorem markPaid_eq (ha : s.admin = some admin) (ho : s.operator = some operator)
    (requestId paymentId : BytesN 32) :
    markPaid ⟨s, now⟩ caller requestId paymentId =
      if caller = admin ∨ caller = operator then
        match s.request requestId with
        | none => .error "Request not found"
        | some r =>
          if r.status = .pending then
            .ok ⟨{ s with
              request := update s.request requestId
                (some { r with status := .paid, paidAt := some now, paymentId := some paymentId }),
              pendingRequests := some (s.pendingRequests.getD 0 - 1) },
              [.paymentRequestPaid requestId paymentId now]⟩
          else .error "Request is not pending"
      else .error "Not operator or admin" := by
  simp only [markPaid, requireOperatorOrAdmin_eq ha ho, panicIf_bind, ite_not,
    loadPendingRequest_eq]
  split_ifs
  · cases s.request requestId with
    | none => rfl
    | some r => by_cases hp : r.status = .pending <;> simp [hp, decrementPending_writeRequest]
  · rfl

theorem cancelRequest_eq (ha : s.admin = some admin) (requestId : BytesN 32) :
    cancelRequest ⟨s, now⟩ caller requestId =
      match s.request requestId with
      | none => .error "Request not found"
      | some r =>
        if r.status = .pending then
          if caller = r.merchant ∨ caller = admin then
            .ok ⟨{ s with
              request := update s.request requestId (some { r with status := .cancelled }),
              pendingRequests := some (s.pendingRequests.getD 0 - 1) },
              [.paymentRequestCancelled requestId]⟩
          else .error "Not authorized to cancel"
        else .error "Request is not pending" := by
  have hu : unwrap s.admin = .ok admin := ha ▸ rfl
  simp only [cancelRequest, loadPendingRequest_eq, hu, ok_bind, panicIf_bind]
  cases s.request requestId with
  | none => rfl
  | some r =>
    by_cases hp : r.status = .pending
    · by_cases hc : caller = r.merchant ∨ caller = admin
      · have hn : ¬(caller ≠ r.merchant ∧ caller ≠ admin) := fun ⟨h₁, h₂⟩ => hc.elim h₁ h₂
        simp only [hp, if_pos hc, if_neg hn, ok_bind, if_true, pure_eq_ok,
          decrementPending_writeRequest]
      · simp only [hp, if_neg hc, if_pos (not_or.mp hc), ok_bind, if_true]
    · simp [hp]

theorem markExpired_eq (ha : s.admin = some admin) (ho : s.operator = some operator)
    (requestId : BytesN 32) :
    markExpired ⟨s, now⟩ caller requestId =
      if caller = admin ∨ caller = operator then
        match s.request requestId with
        | none => .error "Request not found"
        | some r =>
          if r.status = .pending then
            if now < r.expiresAt then .error "Request has not expired yet"
            else
              .ok ⟨{ s with
                request := update s.request requestId (some { r with status := .expired }),
                pendingRequests := some (s.pendingRequests.getD 0 - 1) },
                [.paymentRequestExpired requestId]⟩
          else .error "Request is not pending"
      else .error "Not operator or admin" := by
  simp only [markExpired, requireOperatorOrAdmin_eq ha ho, panicIf_bind, ite_not,
    loadPendingRequest_eq]
  split_ifs
  · cases s.request requestId with
    | none => rfl
    | some r =>
      by_cases hp : r.status = .pending <;> by_cases ht : now < r.expiresAt <;>
        simp [hp, ht, decrementPending_writeRequest]
  · rfl

theorem markPaid_eq_ok (ha : s.admin = some admin) (ho : s.operator = some operator)
    {requestId paymentId : BytesN 32} {e : Effect}
    (h : markPaid ⟨s, now⟩ caller requestId paymentId = .ok e) :
    (caller = admin ∨ caller = operator) ∧ ∃ r, s.request requestId = some r ∧
      r.status = .pending ∧
      e = ⟨settleRequest s requestId
          { r with status := .paid, paidAt := some now, paymentId := some paymentId },
        [.paymentRequestPaid requestId paymentId now]⟩ := by
  rw [markPaid_eq ha ho] at h
  split_ifs at h with hc
  cases hr : s.request requestId with
  | none => simp only [hr] at h; cases h
  | some r =>
    simp only [hr] at h
    split_ifs at h with hp
    cases h
    exact ⟨hc, r, rfl, hp, rfl⟩

theorem cancelRequest_eq_ok (ha : s.admin = some admin) {requestId : BytesN 32} {e : Effect}
    (h : cancelRequest ⟨s, now⟩ caller requestId = .ok e) :
    ∃ r, s.request requestId = some r ∧ r.status = .pending ∧
      (caller = r.merchant ∨ caller = admin) ∧
      e = ⟨settleRequest s requestId { r with status := .cancelled },
        [.paymentRequestCancelled requestId]⟩ := by
  rw [cancelRequest_eq ha] at h
  cases hr : s.request requestId with
  | none => simp only [hr] at h; cases h
  | some r =>
    simp only [hr] at h
    split_ifs at h with hp hc
    cases h
    exact ⟨r, rfl, hp, hc, rfl⟩

theorem markExpired_eq_ok (ha : s.admin = some admin) (ho : s.operator = some operator)
    {requestId : BytesN 32} {e : Effect}
    (h : markExpired ⟨s, now⟩ caller requestId = .ok e) :
    (caller = admin ∨ caller = operator) ∧ ∃ r, s.request requestId = some r ∧
      r.status = .pending ∧ r.expiresAt ≤ now ∧
      e = ⟨settleRequest s requestId { r with status := .expired },
        [.paymentRequestExpired requestId]⟩ := by
  rw [markExpired_eq ha ho] at h
  split_ifs at h with hc
  cases hr : s.request requestId with
  | none => simp only [hr] at h; cases h
  | some r =>
    simp only [hr] at h
    split_ifs at h with hp ht
    cases h
    exact ⟨hc, r, rfl, hp, Nat.le_of_not_lt ht, rfl⟩

/-! ### Constructor and admin functions -/

theorem __constructor_eq (env : Env) (admin operator vault : Address) (minAmount maxAmount : Int) :
    __constructor env admin operator vault minAmount maxAmount =
      if minAmount ≤ 0 then .error "Min amount must be > 0"
      else if maxAmount ≤ 0 then .error "Max amount must be > 0"
      else if maxAmount ≤ minAmount then .error "Min amount must be less than max amount"
      else .ok ⟨{ env.storage with
        admin := some admin, operator := some operator, vault := some vault,
        paused := some false, minAmount := some minAmount, maxAmount := some maxAmount,
        totalRequests := some 0, pendingRequests := some 0 }, []⟩ := by
  simp only [__constructor, panicIf_bind, ge_iff_le, pure_eq_ok]

/-- A successful deployment stores the constructor's arguments, an unpaused contract and zero
counters, and nothing else. -/
theorem deploy_eq_ok {vault : Address} {minAmount maxAmount : Int} {h : Host}
    (hd : deploy admin operator vault minAmount maxAmount = .ok h) :
    0 < minAmount ∧ minAmount < maxAmount ∧
      h = ⟨{ Storage.empty with
        admin := some admin, operator := some operator, vault := some vault,
        paused := some false, minAmount := some minAmount, maxAmount := some maxAmount,
        totalRequests := some 0, pendingRequests := some 0 }, []⟩ := by
  simp only [deploy, __constructor_eq] at hd
  split_ifs at hd with h₁ h₂ h₃ <;>
    simp only [map_error, map_ok, reduceCtorEq, Except.ok.injEq] at hd
  exact ⟨by omega, by omega, hd.symm⟩

theorem setOperator_eq (ha : s.admin = some admin) (ho : s.operator = some operator)
    (newOperator : Address) :
    setOperator ⟨s, now⟩ caller newOperator =
      if caller = admin then
        .ok ⟨{ s with operator := some newOperator }, [.operatorUpdated operator newOperator]⟩
      else .error "Not admin" := by
  have hu : unwrap s.operator = .ok operator := ho ▸ rfl
  simp only [setOperator, requireAdmin_eq ha, panicIf_bind, ite_not, hu, ok_bind, pure_eq_ok]

theorem setMinAmount_eq {lo hi : Int} (ha : s.admin = some admin) (hlo : s.minAmount = some lo)
    (hhi : s.maxAmount = some hi) (newMin : Int) :
    setMinAmount ⟨s, now⟩ caller newMin =
      if caller = admin then
        if newMin ≤ 0 then .error "Min amount must be > 0"
        else if hi ≤ newMin then .error "Min amount must be less than max amount"
        else .ok ⟨{ s with minAmount := some newMin }, [.minAmountUpdated lo newMin]⟩
      else .error "Not admin" := by
  have hulo : unwrap s.minAmount = .ok lo := hlo ▸ rfl
  have huhi : unwrap s.maxAmount = .ok hi := hhi ▸ rfl
  simp only [setMinAmount, requireAdmin_eq ha, panicIf_bind, ite_not, hulo, huhi, ok_bind,
    pure_eq_ok, ge_iff_le]

theorem setMaxAmount_eq {lo hi : Int} (ha : s.admin = some admin) (hlo : s.minAmount = some lo)
    (hhi : s.maxAmount = some hi) (newMax : Int) :
    setMaxAmount ⟨s, now⟩ caller newMax =
      if caller = admin then
        if newMax ≤ 0 then .error "Max amount must be > 0"
        else if newMax ≤ lo then .error "Max amount must be greater than min amount"
        else .ok ⟨{ s with maxAmount := some newMax }, [.maxAmountUpdated hi newMax]⟩
      else .error "Not admin" := by
  have hulo : unwrap s.minAmount = .ok lo := hlo ▸ rfl
  have huhi : unwrap s.maxAmount = .ok hi := hhi ▸ rfl
  simp only [setMaxAmount, requireAdmin_eq ha, panicIf_bind, ite_not, hulo, huhi, ok_bind,
    pure_eq_ok]

theorem setPaused_eq (ha : s.admin = some admin) (paused : Bool) :
    setPaused ⟨s, now⟩ caller paused =
      if caller = admin then .ok ⟨{ s with paused := some paused }, []⟩
      else .error "Not admin" := by
  simp only [setPaused, requireAdmin_eq ha, panicIf_bind, ite_not, pure_eq_ok]

theorem setOperator_eq_ok (ha : s.admin = some admin) (ho : s.operator = some operator)
    {newOperator : Address} {e : Effect} (h : setOperator ⟨s, now⟩ caller newOperator = .ok e) :
    caller = admin ∧
      e = ⟨{ s with operator := some newOperator }, [.operatorUpdated operator newOperator]⟩ := by
  rw [setOperator_eq ha ho] at h
  split_ifs at h with hc
  cases h
  exact ⟨hc, rfl⟩

theorem setMinAmount_eq_ok {lo hi : Int} (ha : s.admin = some admin)
    (hlo : s.minAmount = some lo) (hhi : s.maxAmount = some hi) {newMin : Int} {e : Effect}
    (h : setMinAmount ⟨s, now⟩ caller newMin = .ok e) :
    caller = admin ∧ 0 < newMin ∧ newMin < hi ∧
      e = ⟨{ s with minAmount := some newMin }, [.minAmountUpdated lo newMin]⟩ := by
  rw [setMinAmount_eq ha hlo hhi] at h
  split_ifs at h with hc h₁ h₂
  cases h
  exact ⟨hc, by omega, by omega, rfl⟩

theorem setMaxAmount_eq_ok {lo hi : Int} (ha : s.admin = some admin)
    (hlo : s.minAmount = some lo) (hhi : s.maxAmount = some hi) {newMax : Int} {e : Effect}
    (h : setMaxAmount ⟨s, now⟩ caller newMax = .ok e) :
    caller = admin ∧ 0 < newMax ∧ lo < newMax ∧
      e = ⟨{ s with maxAmount := some newMax }, [.maxAmountUpdated hi newMax]⟩ := by
  rw [setMaxAmount_eq ha hlo hhi] at h
  split_ifs at h with hc h₁ h₂
  cases h
  exact ⟨hc, by omega, by omega, rfl⟩

theorem setPaused_eq_ok (ha : s.admin = some admin) {paused : Bool} {e : Effect}
    (h : setPaused ⟨s, now⟩ caller paused = .ok e) :
    caller = admin ∧ e = ⟨{ s with paused := some paused }, []⟩ := by
  rw [setPaused_eq ha] at h
  split_ifs at h with hc
  cases h
  exact ⟨hc, rfl⟩

/-! ### The terminal transitions, with the host's roll-back -/

/-- The three terminal transitions from any storage with both roles set: who may call each,
the order of its checks, and the whole of what it writes: the record's status (and, for
`mark_paid`, its payment time and id) and `PendingRequests` one down, floored at `0`. On
failure the host keeps its state. -/
theorem terminal_transitions_spec (ha : s.admin = some admin)
    (ho : s.operator = some operator) (requestId paymentId : BytesN 32) :
    markPaid ⟨s, now⟩ caller requestId paymentId =
      (if caller = admin ∨ caller = operator then
        match s.request requestId with
        | none => .error "Request not found"
        | some r =>
          if r.status = .pending then
            .ok ⟨{ s with
              request := update s.request requestId
                (some { r with status := .paid, paidAt := some now, paymentId := some paymentId }),
              pendingRequests := some (s.pendingRequests.getD 0 - 1) },
              [.paymentRequestPaid requestId paymentId now]⟩
          else .error "Request is not pending"
      else .error "Not operator or admin") ∧
    cancelRequest ⟨s, now⟩ caller requestId =
      (match s.request requestId with
      | none => .error "Request not found"
      | some r =>
        if r.status = .pending then
          if caller = r.merchant ∨ caller = admin then
            .ok ⟨{ s with
              request := update s.request requestId (some { r with status := .cancelled }),
              pendingRequests := some (s.pendingRequests.getD 0 - 1) },
              [.paymentRequestCancelled requestId]⟩
          else .error "Not authorized to cancel"
        else .error "Request is not pending") ∧
    markExpired ⟨s, now⟩ caller requestId =
      (if caller = admin ∨ caller = operator then
        match s.request requestId with
        | none => .error "Request not found"
        | some r =>
          if r.status = .pending then
            if now < r.expiresAt then .error "Request has not expired yet"
            else
              .ok ⟨{ s with
                request := update s.request requestId (some { r with status := .expired }),
                pendingRequests := some (s.pendingRequests.getD 0 - 1) },
                [.paymentRequestExpired requestId]⟩
          else .error "Request is not pending"
      else .error "Not operator or admin") ∧
    ∀ (h : Host) (c : Call) (msg : String), h.storage = s →
      c = .markPaid caller requestId paymentId ∨ c = .cancelRequest caller requestId ∨
        c = .markExpired caller requestId →
      c.exec ⟨s, now⟩ = .error msg → h.invoke ⟨now, c⟩ = h := by
  refine ⟨markPaid_eq ha ho requestId paymentId, cancelRequest_eq ha requestId,
    markExpired_eq ha ho requestId, ?_⟩
  rintro h c msg rfl - he
  exact Host.invoke_of_error he

/-- On the tests' deployment, after a request is created, the operator's `mark_paid` of it
succeeds. -/
theorem terminal_transitions_spec_setupEnv :
    (markPaid ⟨((setupEnv (.account 1) (.account 2) (.account 3)).invoke
      ⟨1000, .createRequest (.account 4) 1 10000000 2 2000⟩).storage, 1500⟩
        (.account 2) 1 10).isOk := by
  rw [(terminal_transitions_spec
    (show ((setupEnv (.account 1) (.account 2) (.account 3)).invoke
      ⟨1000, .createRequest (.account 4) 1 10000000 2 2000⟩).storage.admin = some (.account 1)
      from rfl) rfl 1 10).1]
  rfl

end Dabdub.PaymentRequestContract
