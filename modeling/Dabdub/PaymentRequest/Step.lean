import Dabdub.PaymentRequest.Spec

/-!
# What one successful call can do

From a configured storage, a successful call does one of three things (`exec_cases`): a
`create_request` writes a fresh `Pending` record and a fresh index entry; a terminal transition
rewrites a `Pending` record (`Settles` says how, for each of the three); an admin setter, called
by the admin, rewrites configuration only. Every result about runs splits on these three cases.

## Main definitions

* `PaymentRequestContract.Configured`, `PaymentRequestContract.Settles`.
* `Call.requestId`, `Call.reference`: the keys a lifecycle call names; `Call.isTerminal`.

## Main results

* `PaymentRequestContract.exec_cases`.
-/

namespace Dabdub.PaymentRequestContract

/-- The configuration keys read by the lifecycle are set, with `0 < min_amount < max_amount`. -/
def Configured (s : Storage) : Prop :=
  ∃ admin operator lo hi, s.admin = some admin ∧ s.operator = some operator ∧
    s.minAmount = some lo ∧ s.maxAmount = some hi ∧ 0 < lo ∧ lo < hi

/-- How a terminal transition at time `t` rewrites the `Pending` record `r` stored under
`requestId`: the call, the record it writes back and the event it publishes. -/
inductive Settles (s : Storage) (t : Nat) (requestId : BytesN 32) (r : PaymentRequest) :
    Call → PaymentRequest → ContractEvent → Prop
  | paid {caller : Address} {paymentId : BytesN 32} :
      s.admin = some caller ∨ s.operator = some caller →
      Settles s t requestId r (.markPaid caller requestId paymentId)
        { r with status := .paid, paidAt := some t, paymentId := some paymentId }
        (.paymentRequestPaid requestId paymentId t)
  | cancelled {caller : Address} :
      caller = r.merchant ∨ s.admin = some caller →
      Settles s t requestId r (.cancelRequest caller requestId) { r with status := .cancelled }
        (.paymentRequestCancelled requestId)
  | expired {caller : Address} :
      s.admin = some caller ∨ s.operator = some caller → r.expiresAt ≤ t →
      Settles s t requestId r (.markExpired caller requestId) { r with status := .expired }
        (.paymentRequestExpired requestId)

namespace Call

/-- The request id a lifecycle call names; `none` for the admin functions. -/
def requestId : Call → Option (BytesN 32)
  | createRequest _ id .. | markPaid _ id _ | cancelRequest _ id | markExpired _ id => some id
  | _ => none

/-- The reference a `create_request` names; `none` for every other call. -/
def reference : Call → Option (BytesN 32)
  | createRequest _ _ _ ref _ => some ref
  | _ => none

/-- `mark_paid`, `cancel_request` and `mark_expired`. -/
def isTerminal : Call → Bool
  | markPaid .. | cancelRequest .. | markExpired .. => true
  | _ => false

/-- A terminal transition names a request id and no reference. -/
theorem requestId_of_isTerminal {c : Call} (hc : c.isTerminal) :
    ∃ id, c.requestId = some id ∧ c.reference = none := by
  cases c <;> first | exact ⟨_, rfl, rfl⟩ | cases hc

end Call

variable {s : Storage} {t : Nat} {c : Call} {e : Effect}

namespace Settles

variable {requestId : BytesN 32} {r r' : PaymentRequest} {ev : ContractEvent}

/-- A terminal transition rewrites only the status, payment time and payment id of the record,
and leaves it no longer `Pending`. -/
theorem eq_with (hset : Settles s t requestId r c r' ev) :
    (∃ status paidAt paymentId, r' = { r with status, paidAt, paymentId }) ∧
      r'.status ≠ .pending := by
  cases hset <;> exact ⟨⟨_, _, _, rfl⟩, by simp⟩

/-- The record a terminal transition writes depends only on the call, the time and the record
it reads. -/
theorem record_eq {s' : Storage} {r'' : PaymentRequest} {ev' : ContractEvent}
    (h₁ : Settles s t requestId r c r' ev) (h₂ : Settles s' t requestId r c r'' ev') :
    r'' = r' ∧ ev' = ev := by
  cases h₁ <;> cases h₂ <;> exact ⟨rfl, rfl⟩

end Settles

/-- Everything a successful call can do to a configured storage. -/
theorem exec_cases (hs : Configured s) (h : c.exec ⟨s, t⟩ = .ok e) :
    (∃ caller requestId amount reference expiresAt,
      c = .createRequest caller requestId amount reference expiresAt ∧ 0 < amount ∧
      t < expiresAt ∧ s.request requestId = none ∧ s.referenceIndex reference = none ∧
      e = ⟨insertRequest s
          ⟨requestId, caller, amount, reference, .pending, t, expiresAt, none, none⟩,
        [.paymentRequestCreated requestId caller amount expiresAt]⟩) ∨
    (∃ requestId r r' ev, s.request requestId = some r ∧ r.status = .pending ∧
      Settles s t requestId r c r' ev ∧ e = ⟨settleRequest s requestId r', [ev]⟩) ∨
    (c.requestId = none ∧ s.admin = some c.caller ∧ Configured e.storage ∧
      e.storage = { s with
        operator := e.storage.operator, minAmount := e.storage.minAmount,
        maxAmount := e.storage.maxAmount, paused := e.storage.paused } ∧
      e.events.all ContractEvent.isConfig) := by
  obtain ⟨admin, operator, lo, hi, ha, ho, hlo, hhi, hlo0, hlohi⟩ := hs
  cases c with
  | createRequest caller id amount ref exp =>
    obtain ⟨⟨ret, e'⟩, hc, rfl⟩ := map_eq_ok h
    obtain ⟨-, h0, -, -, hexp, hid, href, -, -, -, rfl⟩ := createRequest_eq_ok hlo hhi hc
    exact .inl ⟨caller, id, amount, ref, exp, rfl, h0, hexp, hid, href, rfl⟩
  | markPaid caller id p =>
    obtain ⟨hc, r, hr, hp, rfl⟩ := markPaid_eq_ok ha ho h
    exact .inr (.inl ⟨id, r, _, _, hr, hp, .paid (by rw [ha, ho]; simpa [eq_comm] using hc), rfl⟩)
  | cancelRequest caller id =>
    obtain ⟨r, hr, hp, hc, rfl⟩ := cancelRequest_eq_ok ha h
    exact .inr (.inl ⟨id, r, _, _, hr, hp, .cancelled (by rw [ha]; simpa [eq_comm] using hc), rfl⟩)
  | markExpired caller id =>
    obtain ⟨hc, r, hr, hp, ht, rfl⟩ := markExpired_eq_ok ha ho h
    exact .inr (.inl ⟨id, r, _, _, hr, hp,
      .expired (by rw [ha, ho]; simpa [eq_comm] using hc) ht, rfl⟩)
  | setOperator caller o =>
    obtain ⟨rfl, rfl⟩ := setOperator_eq_ok ha ho h
    exact .inr (.inr ⟨rfl, ha, ⟨caller, o, lo, hi, ha, rfl, hlo, hhi, hlo0, hlohi⟩, rfl, rfl⟩)
  | setMinAmount caller m =>
    obtain ⟨rfl, h0, hlt, rfl⟩ := setMinAmount_eq_ok ha hlo hhi h
    exact .inr (.inr ⟨rfl, ha, ⟨caller, operator, m, hi, ha, ho, rfl, hhi, h0, hlt⟩, rfl, rfl⟩)
  | setMaxAmount caller m =>
    obtain ⟨rfl, -, hlt, rfl⟩ := setMaxAmount_eq_ok ha hlo hhi h
    exact .inr (.inr ⟨rfl, ha, ⟨caller, operator, lo, m, ha, ho, hlo, rfl, hlo0, hlt⟩, rfl, rfl⟩)
  | pause caller =>
    obtain ⟨rfl, rfl⟩ := setPaused_eq_ok ha h
    exact .inr (.inr ⟨rfl, ha, ⟨caller, operator, lo, hi, ha, ho, hlo, hhi, hlo0, hlohi⟩, rfl, rfl⟩)
  | unpause caller =>
    obtain ⟨rfl, rfl⟩ := setPaused_eq_ok ha h
    exact .inr (.inr ⟨rfl, ha, ⟨caller, operator, lo, hi, ha, ho, hlo, hhi, hlo0, hlohi⟩, rfl, rfl⟩)

end Dabdub.PaymentRequestContract
