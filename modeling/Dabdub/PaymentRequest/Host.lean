import Dabdub.PaymentRequest.Contract

/-!
# Invocations, runs and reachable states

The host runs each invocation of the contract to completion before the next one: a call that
returns has its writes and events applied, a call that panics has none applied
(`Host.invoke`). A run is a list of invocations, each a `Call` with the ledger timestamp it
runs at; the reachable hosts are those a run reaches from a successful deployment.

## Main definitions

* `PaymentRequestContract.Call`: the nine state-changing `pub fn`s with their arguments, and
  `Call.exec`, `Call.caller`.
* `PaymentRequestContract.Invocation`, `PaymentRequestContract.Host`, `Host.invoke`,
  `Host.run`, `Host.trace`, `Host.created`.
* `PaymentRequestContract.deploy`, `PaymentRequestContract.Reachable`, and the tests' deployment
  `PaymentRequestContract.setupEnv`.

## Main results

* `Host.invoke_of_error`: a call that panics leaves the host unchanged.
* `Host.reachable_iff_run`: the reachable hosts are the ends of runs from a deployment.
-/

namespace Dabdub.PaymentRequestContract

/-! ### Calls -/

/-- A call of one of the nine `pub fn`s that write storage, with its arguments. The views
write nothing and are left out. -/
inductive Call
  | createRequest (caller : Address) (requestId : BytesN 32) (amount : Int)
      (reference : BytesN 32) (expiresAt : Nat)
  | markPaid (caller : Address) (requestId paymentId : BytesN 32)
  | cancelRequest (caller : Address) (requestId : BytesN 32)
  | markExpired (caller : Address) (requestId : BytesN 32)
  | setOperator (caller newOperator : Address)
  | setMinAmount (caller : Address) (newMin : Int)
  | setMaxAmount (caller : Address) (newMax : Int)
  | pause (caller : Address)
  | unpause (caller : Address)
  deriving DecidableEq, Repr

namespace Call

/-- The principal that makes the call, its first argument. -/
def caller : Call → Address
  | createRequest c .. | markPaid c .. | cancelRequest c .. | markExpired c ..
  | setOperator c _ | setMinAmount c _ | setMaxAmount c _ | pause c | unpause c => c

/-- The call's function run in `env`; the id `create_request` returns is dropped. -/
def exec (env : Env) : Call → Except String Effect
  | createRequest c id a r e => Prod.snd <$> PaymentRequestContract.createRequest env c id a r e
  | markPaid c id p => PaymentRequestContract.markPaid env c id p
  | cancelRequest c id => PaymentRequestContract.cancelRequest env c id
  | markExpired c id => PaymentRequestContract.markExpired env c id
  | setOperator c o => PaymentRequestContract.setOperator env c o
  | setMinAmount c m => PaymentRequestContract.setMinAmount env c m
  | setMaxAmount c m => PaymentRequestContract.setMaxAmount env c m
  | pause c => PaymentRequestContract.pause env c
  | unpause c => PaymentRequestContract.unpause env c

end Call

/-- One invocation: a call and the ledger timestamp it runs at. -/
structure Invocation where
  timestamp : Nat
  call : Call
  deriving DecidableEq, Repr

/-! ### The host -/

/-- The deployed contract as the host holds it: its storage and the events published so far. -/
structure Host where
  storage : Storage
  events : List ContractEvent

namespace Host

/-- One invocation run to completion: the call's writes and events if it returns, none of
them if it panics. -/
def invoke (h : Host) (i : Invocation) : Host :=
  match i.call.exec ⟨h.storage, i.timestamp⟩ with
  | .ok e => ⟨e.storage, h.events ++ e.events⟩
  | .error _ => h

/-- The host after a run. -/
def run (h : Host) : List Invocation → Host
  | [] => h
  | i :: is => (h.invoke i).run is

/-- The hosts a run passes through, the first one first. -/
def trace (h : Host) : List Invocation → List Host
  | [] => [h]
  | i :: is => h :: (h.invoke i).trace is

/-- The `(request_id, reference)` of the successful `create_request` calls of a run, in
order. -/
def created (h : Host) : List Invocation → List (BytesN 32 × BytesN 32)
  | [] => []
  | i :: is =>
    match i.call with
    | .createRequest _ id _ ref _ =>
      if (i.call.exec ⟨h.storage, i.timestamp⟩).isOk then (id, ref) :: (h.invoke i).created is
      else (h.invoke i).created is
    | _ => (h.invoke i).created is

theorem invoke_of_error {h : Host} {i : Invocation} {msg : String}
    (he : i.call.exec ⟨h.storage, i.timestamp⟩ = .error msg) : h.invoke i = h := by
  simp only [invoke, he]

theorem invoke_of_ok {h : Host} {i : Invocation} {e : Effect}
    (he : i.call.exec ⟨h.storage, i.timestamp⟩ = .ok e) :
    h.invoke i = ⟨e.storage, h.events ++ e.events⟩ := by
  simp only [invoke, he]

@[simp] theorem run_nil (h : Host) : h.run [] = h := rfl

@[simp] theorem run_cons (h : Host) (i : Invocation) (is : List Invocation) :
    h.run (i :: is) = (h.invoke i).run is := rfl

theorem run_append (h : Host) (is js : List Invocation) :
    h.run (is ++ js) = (h.run is).run js := by
  induction is generalizing h with
  | nil => rfl
  | cons i is ih => exact ih _

end Host

/-! ### Reachable hosts -/

/-- Deployment: `__constructor` on the empty storage of a new contract. It reads no ledger
time. -/
def deploy (admin operator vault : Address) (minAmount maxAmount : Int) : Except String Host :=
  (fun e => ⟨e.storage, e.events⟩) <$>
    __constructor ⟨Storage.empty, 0⟩ admin operator vault minAmount maxAmount

/-- The host `setup_env` of the tests deploys (`payment_request/src/test.rs`, lines 6–33): the
bounds `1_000_000` and `100_000_000_000`. -/
def setupEnv (admin operator vault : Address) : Host :=
  ⟨{ Storage.empty with
    admin := some admin, operator := some operator, vault := some vault, paused := some false,
    minAmount := some 1000000, maxAmount := some 100000000000,
    totalRequests := some 0, pendingRequests := some 0 }, []⟩

theorem deploy_setupEnv (admin operator vault : Address) :
    deploy admin operator vault 1000000 100000000000 = .ok (setupEnv admin operator vault) := rfl

/-- The hosts a successful deployment and then any invocations reach. -/
inductive Reachable : Host → Prop
  | deploy {admin operator vault : Address} {minAmount maxAmount : Int} {h : Host} :
      deploy admin operator vault minAmount maxAmount = .ok h → Reachable h
  | invoke {h : Host} (i : Invocation) : Reachable h → Reachable (h.invoke i)

theorem Reachable.run {h : Host} (hr : Reachable h) (is : List Invocation) :
    Reachable (h.run is) := by
  induction is generalizing h with
  | nil => exact hr
  | cons i is ih => exact ih (hr.invoke i)

theorem Reachable.of_mem_trace {h h' : Host} (hr : Reachable h) {is : List Invocation}
    (hh' : h' ∈ h.trace is) : Reachable h' := by
  induction is generalizing h with
  | nil => rwa [List.mem_singleton.mp hh']
  | cons i is ih =>
    rcases List.mem_cons.mp hh' with rfl | hh'
    · exact hr
    · exact ih (hr.invoke i) hh'

/-- The reachable hosts are the ends of runs from a deployment. -/
theorem Host.reachable_iff_run (h : Host) :
    Reachable h ↔ ∃ admin operator vault minAmount maxAmount h₀ is,
      deploy admin operator vault minAmount maxAmount = .ok h₀ ∧ h = h₀.run is := by
  constructor
  · intro hr
    induction hr with
    | deploy hd => exact ⟨_, _, _, _, _, _, [], hd, rfl⟩
    | invoke i _ ih =>
      obtain ⟨a, o, v, lo, hi, h₀, is, hd, rfl⟩ := ih
      exact ⟨a, o, v, lo, hi, h₀, is ++ [i], hd, by rw [Host.run_append]; rfl⟩
  · rintro ⟨_, _, _, _, _, h₀, is, hd, rfl⟩
    exact (Reachable.deploy hd).run is

end Dabdub.PaymentRequestContract
