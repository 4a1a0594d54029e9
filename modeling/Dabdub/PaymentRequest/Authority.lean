import Dabdub.PaymentRequest.Invariant

/-!
# Who may change what

`Admin` and `Vault` are written by the constructor only. The other configuration keys change
only when the admin calls a setter. A caller who is not the admin can only create a request of
its own, cancel its own `Pending` request, and, when it is the operator, mark a `Pending`
request paid or expired; any other call it makes fails and leaves the host as it was.

## Main results

* `PaymentRequestContract.run_authority`.
-/

namespace Dabdub.PaymentRequestContract

variable {s : Storage} {t : Nat} {c : Call} {e : Effect}

/-! ### One call -/

/-- No successful call writes `Admin` or `Vault`. -/
theorem exec_admin_vault (hs : Configured s) (h : c.exec ⟨s, t⟩ = .ok e) :
    e.storage.admin = s.admin ∧ e.storage.vault = s.vault := by
  rcases exec_cases hs h with ⟨_, _, _, _, _, -, -, -, -, -, rfl⟩ | ⟨_, _, _, _, -, -, -, rfl⟩ |
    ⟨-, -, -, he, -⟩
  · exact ⟨rfl, rfl⟩
  · exact ⟨rfl, rfl⟩
  · rw [he]
    exact ⟨rfl, rfl⟩

/-- A successful call that writes `Operator`, `MinAmount`, `MaxAmount` or `Paused` is the
admin's. -/
theorem exec_config_of_ne (hs : Configured s) (h : c.exec ⟨s, t⟩ = .ok e)
    (hne : e.storage.operator ≠ s.operator ∨ e.storage.minAmount ≠ s.minAmount ∨
      e.storage.maxAmount ≠ s.maxAmount ∨ e.storage.paused ≠ s.paused) :
    s.admin = some c.caller := by
  rcases exec_cases hs h with ⟨_, _, _, _, _, -, -, -, -, -, rfl⟩ | ⟨_, _, _, _, -, -, -, rfl⟩ |
    ⟨-, ha, -⟩
  · simp [insertRequest] at hne
  · simp [settleRequest] at hne
  · exact ha

/-- What a successful call by a caller other than the admin does: create a request of its own,
cancel its own `Pending` request, or, as the operator, mark a `Pending` request paid or
expired. -/
theorem exec_of_not_admin (hs : Configured s) (h : c.exec ⟨s, t⟩ = .ok e)
    (hc : s.admin ≠ some c.caller) :
    (∃ requestId amount reference expiresAt,
      c = .createRequest c.caller requestId amount reference expiresAt ∧
      e.storage = insertRequest s
        ⟨requestId, c.caller, amount, reference, .pending, t, expiresAt, none, none⟩) ∨
    (∃ requestId r, s.request requestId = some r ∧ r.status = .pending ∧
      ((c = .cancelRequest r.merchant requestId ∧
          e.storage = settleRequest s requestId { r with status := .cancelled }) ∨
        (s.operator = some c.caller ∧
          ((∃ paymentId, c = .markPaid c.caller requestId paymentId ∧
              e.storage = settleRequest s requestId
                { r with status := .paid, paidAt := some t, paymentId := some paymentId }) ∨
            (c = .markExpired c.caller requestId ∧
              e.storage = settleRequest s requestId { r with status := .expired }))))) := by
  rcases exec_cases hs h with ⟨caller, id, amount, ref, exp, rfl, -, -, -, -, rfl⟩ |
    ⟨id, r, r', ev, hr, hp, hset, rfl⟩ | ⟨-, ha, -⟩
  · exact .inl ⟨id, amount, ref, exp, rfl, rfl⟩
  · refine .inr ⟨id, r, hr, hp, ?_⟩
    cases hset with
    | paid hpo => exact .inr ⟨hpo.resolve_left hc, .inl ⟨_, rfl, rfl⟩⟩
    | cancelled hpo =>
      obtain rfl := hpo.resolve_right hc
      exact .inl ⟨rfl, rfl⟩
    | expired hpo => exact .inr ⟨hpo.resolve_left hc, .inr ⟨rfl, rfl⟩⟩
  · exact absurd ha hc

/-! ### Runs -/

namespace Host

variable {h : Host}

theorem admin_vault_invoke (hs : Configured h.storage) (i : Invocation) :
    (h.invoke i).storage.admin = h.storage.admin ∧
      (h.invoke i).storage.vault = h.storage.vault := by
  unfold invoke
  split
  · exact exec_admin_vault hs ‹_›
  · exact ⟨rfl, rfl⟩

theorem admin_vault_of_mem_trace (hr : Reachable h) {is : List Invocation} {h' : Host}
    (hh' : h' ∈ h.trace is) : h'.storage.admin = h.storage.admin ∧
      h'.storage.vault = h.storage.vault := by
  induction is generalizing h with
  | nil => rw [List.mem_singleton.mp hh']; exact ⟨rfl, rfl⟩
  | cons i is ih =>
    rcases List.mem_cons.mp hh' with rfl | hh'
    · exact ⟨rfl, rfl⟩
    · obtain ⟨ha, hv⟩ := admin_vault_invoke hr.inv.config i
      obtain ⟨ha', hv'⟩ := ih (hr.invoke i) hh'
      exact ⟨ha'.trans ha, hv'.trans hv⟩

end Host

/-- Along every run from a deployment, `Admin` and `Vault` keep the constructor's values; an
invocation that changes `Operator`, `MinAmount`, `MaxAmount` or `Paused` is a successful call
by the admin; and an invocation by any other caller fails and leaves the host as it was, or
creates a request with that caller as merchant, or cancels that caller's own `Pending`
request, or, when the caller is the operator, marks a `Pending` request paid or expired. -/
theorem run_authority {admin operator vault : Address} {minAmount maxAmount : Int} {h₀ : Host}
    (hd : deploy admin operator vault minAmount maxAmount = .ok h₀) (is : List Invocation) :
    ∀ h ∈ h₀.trace is,
      h.storage.admin = some admin ∧ h.storage.vault = some vault ∧
      ∀ i : Invocation,
        ((h.invoke i).storage.operator ≠ h.storage.operator ∨
            (h.invoke i).storage.minAmount ≠ h.storage.minAmount ∨
            (h.invoke i).storage.maxAmount ≠ h.storage.maxAmount ∨
            (h.invoke i).storage.paused ≠ h.storage.paused →
          (i.call.exec ⟨h.storage, i.timestamp⟩).isOk ∧ h.storage.admin = some i.call.caller) ∧
        (h.storage.admin ≠ some i.call.caller →
          h.invoke i = h ∨
          (∃ requestId amount reference expiresAt,
            i.call = .createRequest i.call.caller requestId amount reference expiresAt ∧
            (h.invoke i).storage = insertRequest h.storage
              ⟨requestId, i.call.caller, amount, reference, .pending, i.timestamp, expiresAt,
                none, none⟩) ∨
          (∃ requestId r, h.storage.request requestId = some r ∧ r.status = .pending ∧
            ((i.call = .cancelRequest r.merchant requestId ∧
                (h.invoke i).storage =
                  settleRequest h.storage requestId { r with status := .cancelled }) ∨
              (h.storage.operator = some i.call.caller ∧
                ((∃ paymentId, i.call = .markPaid i.call.caller requestId paymentId ∧
                    (h.invoke i).storage = settleRequest h.storage requestId { r with
                      status := .paid, paidAt := some i.timestamp, paymentId := some paymentId }) ∨
                  (i.call = .markExpired i.call.caller requestId ∧
                    (h.invoke i).storage =
                      settleRequest h.storage requestId { r with status := .expired })))))) := by
  intro h hh
  have hr := (Reachable.deploy hd).of_mem_trace hh
  have hs := hr.inv.config
  obtain ⟨ha, hv⟩ := Host.admin_vault_of_mem_trace (.deploy hd) hh
  obtain ⟨-, -, rfl⟩ := deploy_eq_ok hd
  refine ⟨ha, hv, fun i => ⟨fun hne => ?_, fun hc => ?_⟩⟩
  · cases he : i.call.exec ⟨h.storage, i.timestamp⟩ with
    | error msg => simp [Host.invoke_of_error he] at hne
    | ok e =>
      rw [Host.invoke_of_ok he] at hne
      exact ⟨rfl, exec_config_of_ne hs he hne⟩
  · cases he : i.call.exec ⟨h.storage, i.timestamp⟩ with
    | error msg => exact .inl (Host.invoke_of_error he)
    | ok e =>
      rw [Host.invoke_of_ok he]
      exact .inr (exec_of_not_admin hs he hc)

/-- On the tests' deployment, a stranger's `set_operator` leaves `Operator` as it was. -/
theorem run_authority_setupEnv :
    (setupEnv (.account 1) (.account 2) (.account 3)).storage.admin = some (.account 1) ∧
      ((setupEnv (.account 1) (.account 2) (.account 3)).invoke
        ⟨0, .setOperator (.account 9) (.account 9)⟩).storage.operator = some (.account 2) :=
  have hauth := run_authority (deploy_setupEnv (.account 1) (.account 2) (.account 3)) []
    _ (List.mem_singleton_self _)
  ⟨hauth.1, by_contra fun hne =>
    absurd ((hauth.2.2 ⟨0, .setOperator (.account 9) (.account 9)⟩).1 (.inl hne)).2 (by decide)⟩

end Dabdub.PaymentRequestContract
