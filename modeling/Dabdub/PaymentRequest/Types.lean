import Dabdub.Soroban

/-!
# Payment requests: records, storage and events

The data of `PaymentRequestContract` (`payment_request/src/lib.rs`, lines 9–92).

A `PaymentRequest` is the record stored under `DataKey::Request(request_id)`. The contract's
storage is one field per `DataKey`: the instance tier holds the configuration (`Admin`,
`Operator`, `Vault`, `Paused`, `MinAmount`, `MaxAmount`) and the two counters, the persistent
tier the records (`Request`) and the index from a reference hash to a request id
(`ReferenceIndex`). An absent key reads as `none`; the contract decides, key by key, whether an
absent key panics (`unwrap`) or reads as a default (`unwrap_or`).

A contract function sees an `Env`: the storage and the ledger's timestamp. A call that returns
leaves an `Effect`: the storage it wrote back and the events it published, in order.

## Main definitions

* `Dabdub.PaymentRequestStatus`, `Dabdub.PaymentRequest`.
* `Dabdub.Storage`, `Dabdub.Storage.empty`.
* `Dabdub.ContractEvent`: the seven `#[contractevent]` structs, and `ContractEvent.isConfig`.
* `Dabdub.Env`, `Dabdub.Effect`.

## References

* `payment_request/src/lib.rs`, lines 9–92.
-/

namespace Dabdub

/-- `PaymentRequestStatus`. -/
inductive PaymentRequestStatus
  | pending
  | paid
  | cancelled
  | expired
  deriving DecidableEq, Repr

/-- `PaymentRequest`, the record stored under `DataKey::Request(request_id)`. -/
structure PaymentRequest where
  requestId : BytesN 32
  merchant : Address
  amount : Int
  reference : BytesN 32
  status : PaymentRequestStatus
  createdAt : Nat
  expiresAt : Nat
  paidAt : Option Nat
  paymentId : Option (BytesN 32)
  deriving DecidableEq, Repr

/-- The contract's storage, one field per `DataKey`. The first six and the last two keys are
instance storage; `request` and `referenceIndex` are the persistent keys
`Request(request_id)` and `ReferenceIndex(reference)`. -/
structure Storage where
  admin : Option Address
  operator : Option Address
  vault : Option Address
  paused : Option Bool
  minAmount : Option Int
  maxAmount : Option Int
  request : BytesN 32 → Option PaymentRequest
  referenceIndex : BytesN 32 → Option (BytesN 32)
  totalRequests : Option Nat
  pendingRequests : Option Nat

/-- The storage of a contract that has not run its constructor: every key absent. -/
def Storage.empty : Storage where
  admin := none
  operator := none
  vault := none
  paused := none
  minAmount := none
  maxAmount := none
  request _ := none
  referenceIndex _ := none
  totalRequests := none
  pendingRequests := none

/-- The events the contract publishes, one constructor per `#[contractevent]` struct. The
first four have the topics `("PAY_REQ", "created" | "paid" | "cancelled" | "expired")`, the
last three `("PAY_REQ", "config")`. -/
inductive ContractEvent
  | paymentRequestCreated (requestId : BytesN 32) (merchant : Address) (amount : Int)
      (expiresAt : Nat)
  | paymentRequestPaid (requestId paymentId : BytesN 32) (paidAt : Nat)
  | paymentRequestCancelled (requestId : BytesN 32)
  | paymentRequestExpired (requestId : BytesN 32)
  | operatorUpdated (oldOperator newOperator : Address)
  | minAmountUpdated (oldMin newMin : Int)
  | maxAmountUpdated (oldMax newMax : Int)
  deriving DecidableEq, Repr

namespace ContractEvent

/-- The event has the topic `("PAY_REQ", "config")`. -/
def isConfig : ContractEvent → Bool
  | operatorUpdated .. | minAmountUpdated .. | maxAmountUpdated .. => true
  | _ => false

end ContractEvent

/-- What a contract function reads from `soroban_sdk::Env`: the storage and
`env.ledger().timestamp()`. -/
structure Env where
  storage : Storage
  timestamp : Nat

/-- What a call that returns leaves: the storage it wrote back and the events it published. -/
structure Effect where
  storage : Storage
  events : List ContractEvent

end Dabdub
