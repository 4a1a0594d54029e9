import Dabdub.PaymentRequest.Ledger

/-!
# Lifecycle calls on different requests commute

Two calls among `create_request`, `mark_paid`, `cancel_request` and `mark_expired` that name
different request ids (and, for two creations, different references) can run in either order
from a reachable state: each call sees the same outcome, and the storage ends the same.

A lifecycle call reads only the configuration, the record under its own id, the index entry of
its own reference and the two counters (`exec_outcome_congr`; a terminal transition reads only
the roles and its record, `exec_terminal_congr`), and another lifecycle call changes none of
these but the counters (`exec_frame`). A successful one writes its own record
and index entry and moves the counters by one (`exec_lifecycle`), and any two such writes on
different keys commute (`insertRequest_comm`, `settleRequest_insertRequest`,
`settleRequest_comm`). The one place the order could show is the floor of
`PendingRequests` at `0`; the counter invariant keeps it out of reach. Two invocations that see
the same outcomes in either order, and whose writes commute, end in the same storage
(`Host.invoke_comm`).

## Main definitions

* `PaymentRequestContract.Host.outcome`: what the caller of an invocation sees.

## Main results

* `PaymentRequestContract.reachable_calls_commute`.
-/

namespace Dabdub.PaymentRequestContract

open Function

/-- What the caller of an invocation sees: success, or the panic's message. -/
def Host.outcome (h : Host) (i : Invocation) : Except String Unit :=
  (fun _ => ()) <$> i.call.exec ⟨h.storage, i.timestamp⟩

variable {s : Storage} {t : Nat} {c : Call} {e : Effect} {id : BytesN 32}

/-! ### Writes on different keys commute -/

theorem insertRequest_comm {r₁ r₂ : PaymentRequest} (hid : r₁.requestId ≠ r₂.requestId)
    (href : r₁.reference ≠ r₂.reference) :
    insertRequest (insertRequest s r₁) r₂ = insertRequest (insertRequest s r₂) r₁ := by
  simp only [insertRequest, Option.getD_some, update_comm hid, update_comm href]

theorem settleRequest_insertRequest {r r' : PaymentRequest} (hid : r.requestId ≠ id)
    {n : Nat} (hp : s.pendingRequests = some (n + 1)) :
    settleRequest (insertRequest s r) id r' = insertRequest (settleRequest s id r') r := by
  simp only [insertRequest, settleRequest, Option.getD_some, hp, update_comm hid,
    Nat.add_sub_cancel]

theorem settleRequest_comm {id' : BytesN 32} {r r' : PaymentRequest} (hid : id ≠ id') :
    settleRequest (settleRequest s id r) id' r' = settleRequest (settleRequest s id' r') id r := by
  simp only [settleRequest, Option.getD_some, update_comm hid]

/-! ### One lifecycle call -/

theorem Settles.requestId_eq {r r' : PaymentRequest} {ev : ContractEvent}
    (hset : Settles s t id r c r' ev) : c.requestId = some id := by
  cases hset <;> rfl

/-- A successful lifecycle call either creates the record under its id, the same record from
any storage where it succeeds, or rewrites the `Pending` record under its id, the same way from
any storage where it reads the same record and succeeds. -/
theorem exec_lifecycle (hs : Configured s) (hid : c.requestId = some id)
    (h : c.exec ⟨s, t⟩ = .ok e) :
    (∃ r, r.requestId = id ∧ c.reference = some r.reference ∧ e.storage = insertRequest s r ∧
      ∀ {s' e'}, Configured s' → c.exec ⟨s', t⟩ = .ok e' → e'.storage = insertRequest s' r) ∨
    (∃ r r', c.reference = none ∧ s.request id = some r ∧ r.status = .pending ∧
      e.storage = settleRequest s id r' ∧
      ∀ {s' e'}, Configured s' → s'.request id = some r → c.exec ⟨s', t⟩ = .ok e' →
        e'.storage = settleRequest s' id r') := by
  rcases exec_cases hs h with ⟨caller, rid, amount, ref, exp, rfl, -, -, -, -, rfl⟩ |
    ⟨rid, r, r', ev, hr, hp, hset, rfl⟩ | ⟨hnone, -⟩
  · cases hid
    refine .inl ⟨⟨id, caller, amount, ref, .pending, t, exp, none, none⟩, rfl, rfl, rfl,
      fun hs' h' => ?_⟩
    rcases exec_cases hs' h' with ⟨_, _, _, _, _, hc, -, -, -, -, rfl⟩ |
      ⟨_, _, _, _, -, -, hset', -⟩ | ⟨hnone, -⟩
    · cases hc; rfl
    · cases hset'
    · cases hnone
  · obtain rfl : rid = id := Option.some.inj (hset.requestId_eq.symm.trans hid)
    refine .inr ⟨r, r', by cases hset <;> rfl, hr, hp, rfl, fun hs' hr' h' => ?_⟩
    rcases exec_cases hs' h' with ⟨_, _, _, _, _, rfl, -, -, -, -, rfl⟩ |
      ⟨rid', r₁, r₁', ev', hr₁, -, hset', rfl⟩ | ⟨hnone, -⟩
    · cases hset
    · obtain rfl : rid' = rid := Option.some.inj (hset'.requestId_eq.symm.trans hid)
      rw [hr'] at hr₁
      cases hr₁
      rw [(hset.record_eq hset').1]
    · rw [hid] at hnone; cases hnone
  · rw [hid] at hnone; cases hnone

/-- What a successful lifecycle call leaves as it was: the configuration, every other record,
every index entry but its own reference's; and it moves each counter by at most one. -/
theorem exec_frame (hs : Configured s) (hid : c.requestId = some id)
    (h : c.exec ⟨s, t⟩ = .ok e) {id' : BytesN 32} (hne : id' ≠ id) :
    e.storage.admin = s.admin ∧ e.storage.operator = s.operator ∧ e.storage.paused = s.paused ∧
    e.storage.minAmount = s.minAmount ∧ e.storage.maxAmount = s.maxAmount ∧
    e.storage.request id' = s.request id' ∧
    (∀ ref, c.reference ≠ some ref → e.storage.referenceIndex ref = s.referenceIndex ref) ∧
    e.storage.totalRequests.getD 0 ≤ s.totalRequests.getD 0 + 1 ∧
    e.storage.pendingRequests.getD 0 ≤ s.pendingRequests.getD 0 + 1 := by
  rcases exec_lifecycle hs hid h with ⟨r, rfl, href, he, -⟩ | ⟨r, r', -, -, -, he, -⟩ <;>
    rw [he]
  · refine ⟨rfl, rfl, rfl, rfl, rfl, update_noteq hne _ _, fun ref hr => ?_, by
      simp [insertRequest], by simp [insertRequest]⟩
    exact update_noteq (fun h => hr (by rw [h]; exact href)) _ _
  · exact ⟨rfl, rfl, rfl, rfl, rfl, update_noteq hne _ _, fun _ _ => rfl, Nat.le_succ _,
      by simp only [settleRequest, Option.getD_some]; omega⟩

/-- A terminal transition's outcome depends only on `Admin`, `Operator` and its own record. -/
theorem exec_terminal_congr (hs : Configured s) (hc : c.isTerminal) (hid : c.requestId = some id)
    {s' : Storage} (ha : s'.admin = s.admin) (ho : s'.operator = s.operator)
    (hreq : s'.request id = s.request id) :
    (fun _ => ()) <$> c.exec ⟨s', t⟩ = (fun _ => ()) <$> c.exec ⟨s, t⟩ := by
  obtain ⟨admin, operator, -, -, ha₀, ho₀, -⟩ := hs
  cases c with
  | markPaid caller rid p =>
    cases hid
    simp only [Call.exec, markPaid_eq ha₀ ho₀, markPaid_eq (ha.trans ha₀) (ho.trans ho₀), hreq]
    cases s.request id <;> simp only [map_ite, map_error, map_ok]
  | cancelRequest caller rid =>
    cases hid
    simp only [Call.exec, cancelRequest_eq ha₀, cancelRequest_eq (ha.trans ha₀), hreq]
    cases s.request id <;> simp only [map_ite, map_error, map_ok]
  | markExpired caller rid =>
    cases hid
    simp only [Call.exec, markExpired_eq ha₀ ho₀, markExpired_eq (ha.trans ha₀) (ho.trans ho₀),
      hreq]
    cases s.request id <;> simp only [map_ite, map_error, map_ok]
  | _ => cases hc

/-- A lifecycle call's outcome depends only on the configuration, the record under its id and
the index entry of its reference, as long as both counters have room. -/
theorem exec_outcome_congr (hs : Configured s) (hid : c.requestId = some id) {s' : Storage}
    (hcfg : s'.admin = s.admin ∧ s'.operator = s.operator ∧ s'.paused = s.paused ∧
      s'.minAmount = s.minAmount ∧ s'.maxAmount = s.maxAmount)
    (hreq : s'.request id = s.request id)
    (href : ∀ ref, c.reference = some ref → s'.referenceIndex ref = s.referenceIndex ref)
    (hcount : s.totalRequests.getD 0 < 2 ^ 64 - 1 ∧ s.pendingRequests.getD 0 < 2 ^ 64 - 1 ∧
      s'.totalRequests.getD 0 < 2 ^ 64 - 1 ∧ s'.pendingRequests.getD 0 < 2 ^ 64 - 1) :
    (fun _ => ()) <$> c.exec ⟨s', t⟩ = (fun _ => ()) <$> c.exec ⟨s, t⟩ := by
  obtain ⟨ha', ho', hpa', hlo', hhi'⟩ := hcfg
  cases c with
  | createRequest caller rid amount ref exp =>
    obtain ⟨-, -, lo, hi, -, -, hlo, hhi, -⟩ := hs
    obtain ⟨ht, hp, ht', hp'⟩ := hcount
    cases hid
    simp only [Call.exec, createRequest_eq_of_lt hlo hhi ht hp,
      createRequest_eq_of_lt (hlo'.trans hlo) (hhi'.trans hhi) ht' hp', hpa', hreq,
      href ref rfl, map_ite, map_error, map_ok]
  | markPaid | cancelRequest | markExpired =>
    exact exec_terminal_congr hs (by rfl) hid ha' ho' hreq
  | _ => cases hid

/-! ### Two invocations -/

/-- Two invocations that each see the same outcome after the other end in the same storage in
either order, as soon as they do so when both succeed. -/
theorem Host.invoke_comm {h : Host} {A B : Invocation}
    (hAB : (h.invoke B).outcome A = h.outcome A) (hBA : (h.invoke A).outcome B = h.outcome B)
    (hok : ∀ {eA eB eA' eB'}, A.call.exec ⟨h.storage, A.timestamp⟩ = .ok eA →
      B.call.exec ⟨h.storage, B.timestamp⟩ = .ok eB →
      A.call.exec ⟨eB.storage, A.timestamp⟩ = .ok eA' →
      B.call.exec ⟨eA.storage, B.timestamp⟩ = .ok eB' → eB'.storage = eA'.storage) :
    ((h.invoke A).invoke B).storage = ((h.invoke B).invoke A).storage := by
  cases heA : A.call.exec ⟨h.storage, A.timestamp⟩ with
  | error msg =>
    cases heA' : A.call.exec ⟨(h.invoke B).storage, A.timestamp⟩ <;>
      simp only [Host.outcome, heA, heA', map_error, map_ok, reduceCtorEq] at hAB
    rw [Host.invoke_of_error heA, Host.invoke_of_error heA']
  | ok eA =>
  cases heB : B.call.exec ⟨h.storage, B.timestamp⟩ with
  | error msg =>
    cases heB' : B.call.exec ⟨(h.invoke A).storage, B.timestamp⟩ <;>
      simp only [Host.outcome, heB, heB', map_error, map_ok, reduceCtorEq] at hBA
    rw [Host.invoke_of_error heB, Host.invoke_of_error heB']
  | ok eB =>
  cases heA' : A.call.exec ⟨(h.invoke B).storage, A.timestamp⟩ <;>
    simp only [Host.outcome, heA, heA', map_error, map_ok, reduceCtorEq] at hAB
  cases heB' : B.call.exec ⟨(h.invoke A).storage, B.timestamp⟩ <;>
    simp only [Host.outcome, heB, heB', map_error, map_ok, reduceCtorEq] at hBA
  rw [Host.invoke_of_ok heA] at heB' ⊢
  rw [Host.invoke_of_ok heB] at heA' ⊢
  rw [Host.invoke_of_ok heB', Host.invoke_of_ok heA']
  exact hok heA heB heA' heB'

/-! ### Two calls from a reachable state -/

section Reachable

variable {h : Host} (hr : Reachable h) (htotal : h.storage.totalRequests.getD 0 < 2 ^ 64 - 2)
  {A B : Invocation} {idA idB : BytesN 32} (hA : A.call.requestId = some idA)
  (hB : B.call.requestId = some idB) (hne : idA ≠ idB)
include hr htotal hA hB hne

/-- Running `B` first does not change what `A` sees. -/
theorem Reachable.outcome_invoke
    (href : ∀ ref, A.call.reference = some ref → B.call.reference ≠ some ref) :
    (h.invoke B).outcome A = h.outcome A := by
  have hs := hr.inv
  have hpt := hr.pendingRequests_le
  cases he : B.call.exec ⟨h.storage, B.timestamp⟩ with
  | error msg => rw [Host.invoke_of_error he]
  | ok e =>
    simp only [Host.outcome, Host.invoke_of_ok he]
    obtain ⟨h₁, h₂, h₃, h₄, h₅, hreq, hidx, ht', hp'⟩ := exec_frame hs.config hB he hne
    exact exec_outcome_congr hs.config hA ⟨h₁, h₂, h₃, h₄, h₅⟩ hreq
      (fun ref hA' => hidx ref (href ref hA')) ⟨by omega, by omega, by omega, by omega⟩

/-- From a reachable state with room for two more requests, two lifecycle calls on different
request ids (and, for two creations, different references) give each call the same outcome in
either order, and leave the same storage. -/
theorem reachable_calls_commute
    (href : ∀ ref, A.call.reference = some ref → B.call.reference ≠ some ref) :
    (h.invoke B).outcome A = h.outcome A ∧ (h.invoke A).outcome B = h.outcome B ∧
      ((h.invoke A).invoke B).storage = ((h.invoke B).invoke A).storage := by
  have hAB := hr.outcome_invoke htotal hA hB hne href
  have hBA := hr.outcome_invoke htotal hB hA hne.symm fun ref hB' hA' => href ref hA' hB'
  refine ⟨hAB, hBA, Host.invoke_comm hAB hBA fun heA heB heA' heB' => ?_⟩
  have hs := hr.inv
  have hsA := (hs.exec heA).config
  have hsB := (hs.exec heB).config
  have hreqA := (exec_frame hs.config hB heB hne).2.2.2.2.2.1
  have hreqB := (exec_frame hs.config hA heA hne.symm).2.2.2.2.2.1
  rcases exec_lifecycle hs.config hA heA with ⟨rA, rfl, hrefA, hA₁, hA₂⟩ |
    ⟨rA, rA', -, hrA, hpA, hA₁, hA₂⟩ <;>
  rcases exec_lifecycle hs.config hB heB with ⟨rB, rfl, hrefB, hB₁, hB₂⟩ |
    ⟨rB, rB', -, hrB, hpB, hB₁, hB₂⟩
  · -- two creations
    rw [hB₂ hsA heB', hA₂ hsB heA', hA₁, hB₁]
    refine insertRequest_comm hne fun h => href _ hrefA ?_
    rw [hrefB, h]
  · -- `A` creates, `B` settles
    obtain ⟨n, hn, -⟩ := hs.pendingRequests_settle hrB hpB rB'
    rw [hB₂ hsA (hrB ▸ hreqB) heB', hA₂ hsB heA', hA₁, hB₁,
      settleRequest_insertRequest hne hn]
  · -- `A` settles, `B` creates
    obtain ⟨n, hn, -⟩ := hs.pendingRequests_settle hrA hpA rA'
    rw [hB₂ hsA heB', hA₂ hsB (hrA ▸ hreqA) heA', hA₁, hB₁,
      settleRequest_insertRequest (Ne.symm hne) hn]
  · -- two terminal transitions
    rw [hB₂ hsA (hrB ▸ hreqB) heB', hA₂ hsB (hrA ▸ hreqA) heA', hA₁, hB₁, settleRequest_comm hne]

end Reachable

/-- On the tests' deployment, two creations of different requests at different times end in
the same storage in either order. -/
theorem reachable_calls_commute_setupEnv :
    (((setupEnv (.account 1) (.account 2) (.account 3)).invoke
        ⟨1000, .createRequest (.account 4) 1 10000000 2 2000⟩).invoke
        ⟨1100, .createRequest (.account 5) 3 20000000 4 3000⟩).storage =
      (((setupEnv (.account 1) (.account 2) (.account 3)).invoke
        ⟨1100, .createRequest (.account 5) 3 20000000 4 3000⟩).invoke
        ⟨1000, .createRequest (.account 4) 1 10000000 2 2000⟩).storage :=
  (@reachable_calls_commute _ (.deploy (deploy_setupEnv (.account 1) (.account 2) (.account 3)))
    (by decide) ⟨1000, .createRequest (.account 4) 1 10000000 2 2000⟩
    ⟨1100, .createRequest (.account 5) 3 20000000 4 3000⟩ 1 3 rfl rfl (by decide)
    fun _ h => by cases h; decide).2.2

end Dabdub.PaymentRequestContract
