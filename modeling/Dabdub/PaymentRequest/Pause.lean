import Dabdub.PaymentRequest.Commute

/-!
# Pausing and the amount bounds leave settlement alone

`pause`, `unpause`, `set_min_amount` and `set_max_amount` (`payment_request/src/lib.rs`, lines
462–527) write only `Paused`, `MinAmount` or `MaxAmount`. `mark_paid`, `cancel_request` and
`mark_expired` (lines 250–375) read only `Admin`, `Operator` and the record they settle. A
paused contract therefore still settles its `Pending` requests, and a change of the bounds
never reaches a request already created.

From a reachable state, one call of each family runs in either order with the same outcome for
each, and leaves the same storage.

## Main definitions

* `Call.setsPauseOrBounds`: the pause and bounds setters.

## Main results

* `PaymentRequestContract.reachable_pause_terminal_commute`.
-/

namespace Dabdub.PaymentRequestContract

namespace Call

/-- `set_min_amount`, `set_max_amount`, `pause` and `unpause`. -/
def setsPauseOrBounds : Call → Bool
  | setMinAmount .. | setMaxAmount .. | pause .. | unpause .. => true
  | _ => false

end Call

variable {s s' : Storage} {t : Nat} {c : Call} {e e' : Effect}

/-! ### What each family reads and writes -/

/-- A successful terminal transition rewrites its own record and `PendingRequests`, the same
way from every storage that holds the same record. -/
theorem exec_terminal (hs : Configured s) (hc : c.isTerminal) {id : BytesN 32}
    (hid : c.requestId = some id) (h : c.exec ⟨s, t⟩ = .ok e) :
    ∃ r r', s.request id = some r ∧ e.storage = settleRequest s id r' ∧
      ∀ {s' e'}, Configured s' → s'.request id = some r → c.exec ⟨s', t⟩ = .ok e' →
        e'.storage = settleRequest s' id r' := by
  obtain ⟨-, -, href⟩ := Call.requestId_of_isTerminal hc
  rcases exec_lifecycle hs hid h with ⟨r, -, hr, -⟩ | ⟨r, r', -, hr, -, he, h'⟩
  · rw [href] at hr
    cases hr
  · exact ⟨r, r', hr, he, h'⟩

/-- The outcome of a pause or bounds setter depends only on `Admin` and the two bounds. -/
theorem exec_setter_congr (hs : Configured s) (hc : c.setsPauseOrBounds)
    (ha : s'.admin = s.admin) (hlo : s'.minAmount = s.minAmount)
    (hhi : s'.maxAmount = s.maxAmount) :
    (fun _ => ()) <$> c.exec ⟨s', t⟩ = (fun _ => ()) <$> c.exec ⟨s, t⟩ := by
  obtain ⟨admin, -, lo, hi, ha₀, -, hlo₀, hhi₀, -⟩ := hs
  cases c with
  | setMinAmount caller m =>
    simp only [Call.exec, setMinAmount_eq ha₀ hlo₀ hhi₀,
      setMinAmount_eq (ha.trans ha₀) (hlo.trans hlo₀) (hhi.trans hhi₀), map_ite, map_error,
      map_ok]
  | setMaxAmount caller m =>
    simp only [Call.exec, setMaxAmount_eq ha₀ hlo₀ hhi₀,
      setMaxAmount_eq (ha.trans ha₀) (hlo.trans hlo₀) (hhi.trans hhi₀), map_ite, map_error,
      map_ok]
  | pause caller =>
    simp only [Call.exec, pause, setPaused_eq ha₀, setPaused_eq (ha.trans ha₀), map_ite,
      map_error, map_ok]
  | unpause caller =>
    simp only [Call.exec, unpause, setPaused_eq ha₀, setPaused_eq (ha.trans ha₀), map_ite,
      map_error, map_ok]
  | _ => cases hc

/-- A successful pause or bounds setter writes the same `Paused`, `MinAmount` and `MaxAmount`
from every storage that agrees on those and on `Admin`, and nothing else. -/
theorem exec_setter (hs : Configured s) (hc : c.setsPauseOrBounds) (h : c.exec ⟨s, t⟩ = .ok e)
    (h' : c.exec ⟨s', t⟩ = .ok e') (ha : s'.admin = s.admin) (hpa : s'.paused = s.paused)
    (hlo : s'.minAmount = s.minAmount) (hhi : s'.maxAmount = s.maxAmount) :
    e'.storage = { s' with
      paused := e.storage.paused, minAmount := e.storage.minAmount,
      maxAmount := e.storage.maxAmount } := by
  obtain ⟨admin, -, lo, hi, ha₀, -, hlo₀, hhi₀, -⟩ := hs
  cases c with
  | setMinAmount caller m =>
    obtain ⟨-, -, -, rfl⟩ := setMinAmount_eq_ok ha₀ hlo₀ hhi₀ h
    obtain ⟨-, -, -, rfl⟩ :=
      setMinAmount_eq_ok (ha.trans ha₀) (hlo.trans hlo₀) (hhi.trans hhi₀) h'
    dsimp only
    rw [← hpa, ← hhi]
  | setMaxAmount caller m =>
    obtain ⟨-, -, -, rfl⟩ := setMaxAmount_eq_ok ha₀ hlo₀ hhi₀ h
    obtain ⟨-, -, -, rfl⟩ :=
      setMaxAmount_eq_ok (ha.trans ha₀) (hlo.trans hlo₀) (hhi.trans hhi₀) h'
    dsimp only
    rw [← hpa, ← hlo]
  | pause caller =>
    obtain ⟨-, rfl⟩ := setPaused_eq_ok ha₀ h
    obtain ⟨-, rfl⟩ := setPaused_eq_ok (ha.trans ha₀) h'
    dsimp only
    rw [← hlo, ← hhi]
  | unpause caller =>
    obtain ⟨-, rfl⟩ := setPaused_eq_ok ha₀ h
    obtain ⟨-, rfl⟩ := setPaused_eq_ok (ha.trans ha₀) h'
    dsimp only
    rw [← hlo, ← hhi]
  | _ => cases hc

/-! ### The two families in either order -/

/-- From every reachable state, a `pause`, `unpause`, `set_min_amount` or `set_max_amount` and a
`mark_paid`, `cancel_request` or `mark_expired` give each call the same outcome in either order,
and leave the same storage: pausing never blocks or changes a settlement, and a settlement never
changes whether a pause or a new bound is accepted. -/
theorem reachable_pause_terminal_commute {h : Host} (hr : Reachable h) {A B : Invocation}
    (hA : A.call.setsPauseOrBounds) (hB : B.call.isTerminal) :
    (h.invoke B).outcome A = h.outcome A ∧ (h.invoke A).outcome B = h.outcome B ∧
      ((h.invoke A).invoke B).storage = ((h.invoke B).invoke A).storage := by
  have hs := hr.inv.config
  obtain ⟨id, hid, -⟩ := Call.requestId_of_isTerminal hB
  have hAB : (h.invoke B).outcome A = h.outcome A := by
    cases heB : B.call.exec ⟨h.storage, B.timestamp⟩ with
    | error msg => rw [Host.invoke_of_error heB]
    | ok eB =>
      obtain ⟨r, r', -, he, -⟩ := exec_terminal hs hB hid heB
      simp only [Host.outcome, Host.invoke_of_ok heB, he]
      exact exec_setter_congr hs hA rfl rfl rfl
  have hBA : (h.invoke A).outcome B = h.outcome B := by
    cases heA : A.call.exec ⟨h.storage, A.timestamp⟩ with
    | error msg => rw [Host.invoke_of_error heA]
    | ok eA =>
      have hwA := exec_setter hs hA heA heA rfl rfl rfl rfl
      simp only [Host.outcome, Host.invoke_of_ok heA]
      exact exec_terminal_congr hs hB hid (by rw [hwA]) (by rw [hwA]) (by rw [hwA])
  refine ⟨hAB, hBA, Host.invoke_comm hAB hBA fun heA heB heA' heB' => ?_⟩
  obtain ⟨r, r', hr₀, he, hB'⟩ := exec_terminal hs hB hid heB
  have hwA := exec_setter hs hA heA heA rfl rfl rfl rfl
  have hsA := (hr.inv.exec heA).config
  rw [he] at heA'
  rw [hB' hsA (by rw [hwA]; exact hr₀) heB', hwA,
    exec_setter hs hA heA heA' rfl rfl rfl rfl]
  rfl

/-- On the tests' deployment, after one request is created, pausing the contract and marking the
request paid leave the same storage in either order. -/
theorem reachable_pause_terminal_commute_setupEnv :
    ((((setupEnv (.account 1) (.account 2) (.account 3)).invoke
        ⟨1000, .createRequest (.account 4) 1 10000000 2 2000⟩).invoke
        ⟨1100, .pause (.account 1)⟩).invoke ⟨1200, .markPaid (.account 2) 1 9⟩).storage =
      ((((setupEnv (.account 1) (.account 2) (.account 3)).invoke
        ⟨1000, .createRequest (.account 4) 1 10000000 2 2000⟩).invoke
        ⟨1200, .markPaid (.account 2) 1 9⟩).invoke ⟨1100, .pause (.account 1)⟩).storage :=
  (reachable_pause_terminal_commute ((Reachable.deploy (deploy_setupEnv (.account 1) (.account 2)
    (.account 3))).invoke _) (A := ⟨1100, .pause (.account 1)⟩)
    (B := ⟨1200, .markPaid (.account 2) 1 9⟩) rfl rfl).2.2

end Dabdub.PaymentRequestContract
