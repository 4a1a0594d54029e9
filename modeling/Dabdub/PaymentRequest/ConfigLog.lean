import Dabdub.PaymentRequest.Invariant

/-!
# The `config` events replay to the stored configuration

`set_operator`, `set_min_amount` and `set_max_amount` each publish a `("PAY_REQ", "config")`
event carrying the value they replace and the value they write (`payment_request/src/lib.rs`,
lines 76–92 and 445–511). An observer who knows the constructor's arguments and replays these
events in order, checking at each one that the value it replaces is the value the observer
holds, never finds a mismatch, and ends with the stored `Operator`, `MinAmount` and `MaxAmount`.
`pause` and `unpause` publish nothing, and no other call publishes a `config` event.

## Main definitions

* `ContractEvent.operatorUpdate`, `ContractEvent.minAmountUpdate`,
  `ContractEvent.maxAmountUpdate`: the `(old, new)` pair a `config` event reports.
* `PaymentRequestContract.replayUpdates`: the observer's replay of one key.

## Main results

* `PaymentRequestContract.run_config_replay`.
-/

namespace Dabdub

namespace ContractEvent

/-- The `(old_operator, new_operator)` of an `OperatorUpdatedEvent`. -/
def operatorUpdate : ContractEvent → Option (Address × Address)
  | operatorUpdated oldOperator newOperator => some (oldOperator, newOperator)
  | _ => none

/-- The `(old_min, new_min)` of a `MinAmountUpdatedEvent`. -/
def minAmountUpdate : ContractEvent → Option (Int × Int)
  | minAmountUpdated oldMin newMin => some (oldMin, newMin)
  | _ => none

/-- The `(old_max, new_max)` of a `MaxAmountUpdatedEvent`. -/
def maxAmountUpdate : ContractEvent → Option (Int × Int)
  | maxAmountUpdated oldMax newMax => some (oldMax, newMax)
  | _ => none

end ContractEvent

namespace PaymentRequestContract

open List

/-- An observer's replay of one key's updates from the value it starts with: each update must
replace the value the observer holds, and the replay fails (`none`) at the first one that
does not. -/
def replayUpdates {α : Type} [DecidableEq α] : α → List (α × α) → Option α
  | a, [] => some a
  | a, (old, new) :: rest => if old = a then replayUpdates new rest else none

theorem replayUpdates_append {α : Type} [DecidableEq α] (a : α) (l m : List (α × α)) :
    replayUpdates a (l ++ m) = (replayUpdates a l).bind fun b => replayUpdates b m := by
  induction l generalizing a with
  | nil => rfl
  | cons p l ih =>
    obtain ⟨old, new⟩ := p
    simp only [cons_append, replayUpdates]
    split
    · exact ih new
    · rfl

/-- The replay of the host's `config` events from `operator`, `minAmount` and `maxAmount`
gives the stored `Operator`, `MinAmount` and `MaxAmount`. -/
def ConfigReplays (operator : Address) (minAmount maxAmount : Int) (h : Host) : Prop :=
  replayUpdates operator (h.events.filterMap ContractEvent.operatorUpdate) =
      h.storage.operator ∧
    replayUpdates minAmount (h.events.filterMap ContractEvent.minAmountUpdate) =
      h.storage.minAmount ∧
    replayUpdates maxAmount (h.events.filterMap ContractEvent.maxAmountUpdate) =
      h.storage.maxAmount

variable {s : Storage} {t : Nat} {c : Call} {e : Effect}

/-- The `config` events of one successful call, replayed from the stored values, give the
values it stores. -/
theorem exec_replayUpdates (hs : Configured s) (h : c.exec ⟨s, t⟩ = .ok e) {operator : Address}
    {lo hi : Int} (ho : s.operator = some operator) (hlo : s.minAmount = some lo)
    (hhi : s.maxAmount = some hi) :
    replayUpdates operator (e.events.filterMap ContractEvent.operatorUpdate) =
        e.storage.operator ∧
      replayUpdates lo (e.events.filterMap ContractEvent.minAmountUpdate) =
        e.storage.minAmount ∧
      replayUpdates hi (e.events.filterMap ContractEvent.maxAmountUpdate) =
        e.storage.maxAmount := by
  obtain ⟨admin, -, -, -, ha, -⟩ := hs
  cases c with
  | createRequest =>
    obtain ⟨⟨_, e'⟩, hc, rfl⟩ := map_eq_ok h
    obtain ⟨-, -, -, -, -, -, -, -, -, -, rfl⟩ := createRequest_eq_ok hlo hhi hc
    exact ⟨ho.symm, hlo.symm, hhi.symm⟩
  | markPaid =>
    obtain ⟨-, _, -, -, rfl⟩ := markPaid_eq_ok ha ho h
    exact ⟨ho.symm, hlo.symm, hhi.symm⟩
  | cancelRequest =>
    obtain ⟨_, -, -, -, rfl⟩ := cancelRequest_eq_ok ha h
    exact ⟨ho.symm, hlo.symm, hhi.symm⟩
  | markExpired =>
    obtain ⟨-, _, -, -, -, rfl⟩ := markExpired_eq_ok ha ho h
    exact ⟨ho.symm, hlo.symm, hhi.symm⟩
  | setOperator =>
    obtain ⟨-, rfl⟩ := setOperator_eq_ok ha ho h
    exact ⟨by simp [replayUpdates, ContractEvent.operatorUpdate], hlo.symm, hhi.symm⟩
  | setMinAmount =>
    obtain ⟨-, -, -, rfl⟩ := setMinAmount_eq_ok ha hlo hhi h
    exact ⟨ho.symm, by simp [replayUpdates, ContractEvent.minAmountUpdate], hhi.symm⟩
  | setMaxAmount =>
    obtain ⟨-, -, -, rfl⟩ := setMaxAmount_eq_ok ha hlo hhi h
    exact ⟨ho.symm, hlo.symm, by simp [replayUpdates, ContractEvent.maxAmountUpdate]⟩
  | pause =>
    obtain ⟨-, rfl⟩ := setPaused_eq_ok ha h
    exact ⟨ho.symm, hlo.symm, hhi.symm⟩
  | unpause =>
    obtain ⟨-, rfl⟩ := setPaused_eq_ok ha h
    exact ⟨ho.symm, hlo.symm, hhi.symm⟩

/-- Every invocation keeps the replay of the host's `config` events in step with its
storage. -/
theorem ConfigReplays.invoke {h : Host} {operator : Address} {minAmount maxAmount : Int}
    (hs : Configured h.storage) (hrep : ConfigReplays operator minAmount maxAmount h)
    (i : Invocation) : ConfigReplays operator minAmount maxAmount (h.invoke i) := by
  have ⟨_, o, lo, hi, _, ho, hlo, hhi, _⟩ := hs
  obtain ⟨h₁, h₂, h₃⟩ := hrep
  unfold Host.invoke
  split
  · rename_i e he
    obtain ⟨e₁, e₂, e₃⟩ := exec_replayUpdates hs he ho hlo hhi
    refine ⟨?_, ?_, ?_⟩ <;> simp only [filterMap_append, replayUpdates_append]
    · rw [h₁, ho, Option.some_bind, e₁]
    · rw [h₂, hlo, Option.some_bind, e₂]
    · rw [h₃, hhi, Option.some_bind, e₃]
  · exact ⟨h₁, h₂, h₃⟩

/-- For every run from a deployment, replaying the `config` events from the constructor's
operator and bounds, each event replacing the value the replay holds, ends with the stored
`Operator`, `MinAmount` and `MaxAmount`; these are set in every state, so the replay never
fails. -/
theorem run_config_replay {admin operator vault : Address} {minAmount maxAmount : Int}
    {h₀ : Host} (hd : deploy admin operator vault minAmount maxAmount = .ok h₀)
    (is : List Invocation) :
    replayUpdates operator ((h₀.run is).events.filterMap ContractEvent.operatorUpdate) =
        (h₀.run is).storage.operator ∧
      replayUpdates minAmount ((h₀.run is).events.filterMap ContractEvent.minAmountUpdate) =
        (h₀.run is).storage.minAmount ∧
      replayUpdates maxAmount ((h₀.run is).events.filterMap ContractEvent.maxAmountUpdate) =
        (h₀.run is).storage.maxAmount ∧
      ∃ operator' minAmount' maxAmount', (h₀.run is).storage.operator = some operator' ∧
        (h₀.run is).storage.minAmount = some minAmount' ∧
        (h₀.run is).storage.maxAmount = some maxAmount' := by
  have hr := Reachable.deploy hd
  suffices hrep : ConfigReplays operator minAmount maxAmount (h₀.run is) by
    obtain ⟨-, o, lo, hi, -, ho, hlo, hhi, -⟩ := (hr.run is).inv.config
    exact ⟨hrep.1, hrep.2.1, hrep.2.2, o, lo, hi, ho, hlo, hhi⟩
  obtain ⟨-, -, rfl⟩ := deploy_eq_ok hd
  have hstart : ConfigReplays operator minAmount maxAmount
      ⟨{ Storage.empty with
        admin := some admin, operator := some operator, vault := some vault,
        paused := some false, minAmount := some minAmount, maxAmount := some maxAmount,
        totalRequests := some 0, pendingRequests := some 0 }, []⟩ := ⟨rfl, rfl, rfl⟩
  induction is using List.reverseRecOn with
  | nil => exact hstart
  | append_singleton is i ih =>
    rw [Host.run_append]
    exact ConfigReplays.invoke (hr.run is).inv.config ih i

/-- On the tests' deployment, after the admin replaces the operator and the minimum, the
replay of the operator's updates gives the new operator. -/
theorem run_config_replay_setupEnv :
    replayUpdates (.account 2) (((setupEnv (.account 1) (.account 2) (.account 3)).run
        [⟨0, .setOperator (.account 1) (.account 7)⟩,
         ⟨0, .setMinAmount (.account 1) 5⟩]).events.filterMap ContractEvent.operatorUpdate) =
      some (.account 7) :=
  (run_config_replay (deploy_setupEnv (.account 1) (.account 2) (.account 3)) _).1.trans rfl

end PaymentRequestContract

end Dabdub
