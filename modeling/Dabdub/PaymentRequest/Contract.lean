import Dabdub.PaymentRequest.Types

/-!
# The functions of `PaymentRequestContract`

Each `pub fn` of `impl PaymentRequestContract` (`payment_request/src/lib.rs`, lines 99–545),
statement by statement. A function that writes storage returns an `Effect`; a panic is an
`Except.error` carrying the panic message, and the host then discards every write and event of
the call.

`caller.require_auth()` opens every function that takes a caller. It is the host's check that
the invocation was signed by `caller`; an invocation of this model is one the host has
authenticated, so the check passes and is left out.

The three terminal transitions share two blocks of the source: loading a request that must be
`Pending` (`loadPendingRequest`) and the `// Decrement pending counter` block
(`decrementPending`). `pause` and `unpause` are `setPaused` at `true` and `false`.

## Main definitions

* `PaymentRequestContract.__constructor`.
* `PaymentRequestContract.createRequest`, `PaymentRequestContract.markPaid`,
  `PaymentRequestContract.cancelRequest`, `PaymentRequestContract.markExpired`.
* The views `getRequest`, `getRequestByReference`, `getAdmin`, `getOperator`, `getVault`,
  `getMinAmount`, `getMaxAmount`, `getTotalRequests`, `getPendingRequests`, `isPaused`.
* The admin functions `setOperator`, `setMinAmount`, `setMaxAmount`, `pause`, `unpause`, and
  the helpers `requireAdmin`, `requireOperatorOrAdmin`.

## References

* `payment_request/src/lib.rs`, lines 99–545.
-/

namespace Dabdub.PaymentRequestContract

/-! ### Internal helpers -/

/-- `require_admin` (lines 531–536). -/
def requireAdmin (env : Env) (caller : Address) : Except String Unit := do
  let admin ← unwrap env.storage.admin
  panicIf (caller ≠ admin) "Not admin"

/-- `require_operator_or_admin` (lines 538–544). -/
def requireOperatorOrAdmin (env : Env) (caller : Address) : Except String Unit := do
  let admin ← unwrap env.storage.admin
  let operator ← unwrap env.storage.operator
  panicIf (caller ≠ admin ∧ caller ≠ operator) "Not operator or admin"

/-- The opening of `mark_paid`, `cancel_request` and `mark_expired`: load
`Request(request_id)` and check that it is `Pending`. -/
def loadPendingRequest (s : Storage) (requestId : BytesN 32) : Except String PaymentRequest := do
  let request ← expect "Request not found" (s.request requestId)
  panicIf (request.status ≠ .pending) "Request is not pending"
  return request

/-- The block `// Decrement pending counter` of the three terminal transitions: read
`PendingRequests` (default `0`), subtract one unless it is `0`, write it back. -/
def decrementPending (s : Storage) : Storage :=
  let pending := s.pendingRequests.getD 0
  { s with pendingRequests := some (if pending > 0 then pending - 1 else pending) }

/-- `env.storage().persistent().set(&DataKey::Request(request_id), &request)`. -/
def writeRequest (s : Storage) (requestId : BytesN 32) (request : PaymentRequest) : Storage :=
  { s with request := Function.update s.request requestId (some request) }

/-! ### Constructor and lifecycle -/

/-- `__constructor` (lines 102–136). -/
def __constructor (env : Env) (admin operator vault : Address) (minAmount maxAmount : Int) :
    Except String Effect := do
  panicIf (minAmount ≤ 0) "Min amount must be > 0"
  panicIf (maxAmount ≤ 0) "Max amount must be > 0"
  panicIf (minAmount ≥ maxAmount) "Min amount must be less than max amount"
  return ⟨{ env.storage with
    admin := some admin, operator := some operator, vault := some vault, paused := some false,
    minAmount := some minAmount, maxAmount := some maxAmount,
    totalRequests := some 0, pendingRequests := some 0 }, []⟩

/-- `create_request` (lines 139–247). -/
def createRequest (env : Env) (caller : Address) (requestId : BytesN 32) (amount : Int)
    (reference : BytesN 32) (expiresAt : Nat) : Except String (BytesN 32 × Effect) := do
  let s := env.storage
  panicIf (s.paused.getD false) "Contract is paused"
  panicIf (amount ≤ 0) "Amount must be > 0"
  let minAmount ← unwrap s.minAmount
  let maxAmount ← unwrap s.maxAmount
  panicIf (amount < minAmount) "Amount below minimum"
  panicIf (amount > maxAmount) "Amount above maximum"
  let currentTime := env.timestamp
  panicIf (expiresAt ≤ currentTime) "Expiry must be in the future"
  panicIf ((s.request requestId).isSome) "Request ID already exists"
  panicIf ((s.referenceIndex reference).isSome) "Reference already exists"
  let request : PaymentRequest :=
    { requestId, merchant := caller, amount, reference, status := .pending,
      createdAt := currentTime, expiresAt, paidAt := none, paymentId := none }
  let s := writeRequest s requestId request
  let s := { s with referenceIndex := Function.update s.referenceIndex reference (some requestId) }
  let total ← addU64 (s.totalRequests.getD 0) 1
  let s := { s with totalRequests := some total }
  let pending ← addU64 (s.pendingRequests.getD 0) 1
  let s := { s with pendingRequests := some pending }
  return (requestId, ⟨s, [.paymentRequestCreated requestId caller amount expiresAt]⟩)

/-- `mark_paid` (lines 250–292). -/
def markPaid (env : Env) (caller : Address) (requestId paymentId : BytesN 32) :
    Except String Effect := do
  requireOperatorOrAdmin env caller
  let request ← loadPendingRequest env.storage requestId
  let paidAt := env.timestamp
  let request := { request with status := .paid, paidAt := some paidAt, paymentId := some paymentId }
  let s := writeRequest env.storage requestId request
  return ⟨decrementPending s, [.paymentRequestPaid requestId paymentId paidAt]⟩

/-- `cancel_request` (lines 295–333). Unlike the other two transitions it checks the caller
after loading the request. -/
def cancelRequest (env : Env) (caller : Address) (requestId : BytesN 32) :
    Except String Effect := do
  let request ← loadPendingRequest env.storage requestId
  let admin ← unwrap env.storage.admin
  panicIf (caller ≠ request.merchant ∧ caller ≠ admin) "Not authorized to cancel"
  let request := { request with status := .cancelled }
  let s := writeRequest env.storage requestId request
  return ⟨decrementPending s, [.paymentRequestCancelled requestId]⟩

/-- `mark_expired` (lines 336–375). -/
def markExpired (env : Env) (caller : Address) (requestId : BytesN 32) :
    Except String Effect := do
  requireOperatorOrAdmin env caller
  let request ← loadPendingRequest env.storage requestId
  let currentTime := env.timestamp
  panicIf (currentTime < request.expiresAt) "Request has not expired yet"
  let request := { request with status := .expired }
  let s := writeRequest env.storage requestId request
  return ⟨decrementPending s, [.paymentRequestExpired requestId]⟩

/-! ### View functions -/

/-- `get_request` (lines 380–385). -/
def getRequest (env : Env) (requestId : BytesN 32) : Except String PaymentRequest :=
  expect "Request not found" (env.storage.request requestId)

/-- `get_request_by_reference` (lines 388–399). -/
def getRequestByReference (env : Env) (reference : BytesN 32) :
    Except String PaymentRequest := do
  let requestId ← expect "Reference not found" (env.storage.referenceIndex reference)
  expect "Request not found" (env.storage.request requestId)

/-- `get_admin`. -/
def getAdmin (env : Env) : Except String Address := unwrap env.storage.admin

/-- `get_operator`. -/
def getOperator (env : Env) : Except String Address := unwrap env.storage.operator

/-- `get_vault`. -/
def getVault (env : Env) : Except String Address := unwrap env.storage.vault

/-- `get_min_amount`. -/
def getMinAmount (env : Env) : Except String Int := unwrap env.storage.minAmount

/-- `get_max_amount`. -/
def getMaxAmount (env : Env) : Except String Int := unwrap env.storage.maxAmount

/-- `get_total_requests`: `TotalRequests`, default `0`. -/
def getTotalRequests (env : Env) : Nat := env.storage.totalRequests.getD 0

/-- `get_pending_requests`: `PendingRequests`, default `0`. -/
def getPendingRequests (env : Env) : Nat := env.storage.pendingRequests.getD 0

/-- `is_paused`: `Paused`, default `false`. -/
def isPaused (env : Env) : Bool := env.storage.paused.getD false

/-! ### Admin functions -/

/-- `set_operator` (lines 445–459). -/
def setOperator (env : Env) (caller newOperator : Address) : Except String Effect := do
  requireAdmin env caller
  let oldOperator ← unwrap env.storage.operator
  return ⟨{ env.storage with operator := some newOperator },
    [.operatorUpdated oldOperator newOperator]⟩

/-- `set_min_amount` (lines 462–485). -/
def setMinAmount (env : Env) (caller : Address) (newMin : Int) : Except String Effect := do
  requireAdmin env caller
  panicIf (newMin ≤ 0) "Min amount must be > 0"
  let maxAmount ← unwrap env.storage.maxAmount
  panicIf (newMin ≥ maxAmount) "Min amount must be less than max amount"
  let oldMin ← unwrap env.storage.minAmount
  return ⟨{ env.storage with minAmount := some newMin }, [.minAmountUpdated oldMin newMin]⟩

/-- `set_max_amount` (lines 488–511). -/
def setMaxAmount (env : Env) (caller : Address) (newMax : Int) : Except String Effect := do
  requireAdmin env caller
  panicIf (newMax ≤ 0) "Max amount must be > 0"
  let minAmount ← unwrap env.storage.minAmount
  panicIf (newMax ≤ minAmount) "Max amount must be greater than min amount"
  let oldMax ← unwrap env.storage.maxAmount
  return ⟨{ env.storage with maxAmount := some newMax }, [.maxAmountUpdated oldMax newMax]⟩

/-- The body shared by `pause` and `unpause`: an admin writes `Paused`; no event. -/
def setPaused (env : Env) (caller : Address) (paused : Bool) : Except String Effect := do
  requireAdmin env caller
  return ⟨{ env.storage with paused := some paused }, []⟩

/-- `pause` (lines 514–519). -/
def pause (env : Env) (caller : Address) : Except String Effect := setPaused env caller true

/-- `unpause` (lines 522–527). -/
def unpause (env : Env) (caller : Address) : Except String Effect := setPaused env caller false

end Dabdub.PaymentRequestContract
