import Dabdub.PaymentRequest.Invariant

/-!
# What every reachable state of the ledger satisfies

Consequences of `Inv` for the counters, the reference index and its lookup, the stored records
and the amount bounds, and a second invariant along runs whose ledger time never decreases:
a record is paid no earlier than it was created (`CreatedBy`).

## Main results

* `reachable_counters`: the counters count the stored and the `Pending` records, and each
  terminal transition lowers a positive `PendingRequests` by exactly one.
* `reachable_referenceIndex`: `ReferenceIndex` and the records determine each other, and
  `get_request_by_reference` agrees with `get_request`.
* `run_request_wellFormed`: the shape of every stored record, and its payment time.
* `reachable_amount_bounds`: `0 < min_amount < max_amount`, and which bound updates succeed.
-/

namespace Dabdub.PaymentRequestContract

variable {s : Storage}

/-! ### Counters -/

/-- A stored `Pending` record makes `PendingRequests` positive, and rewriting it lowers the
counter by one. -/
theorem Inv.pendingRequests_settle (hs : Inv s) {id : BytesN 32} {r : PaymentRequest}
    (hr : s.request id = some r) (hp : r.status = .pending) (r' : PaymentRequest) :
    ∃ n, s.pendingRequests = some (n + 1) ∧ (settleRequest s id r').pendingRequests = some n := by
  obtain ⟨keys, hk, -, hpc⟩ := hs.counters
  have hpos : 0 < countRequests keys s.request fun r => r.status = .pending :=
    Finset.card_pos.mpr ⟨id, Finset.mem_filter.mpr ⟨(hk id).mpr (by simp [hr]), by simp [hr, hp]⟩⟩
  refine ⟨countRequests keys s.request (fun r => r.status = .pending) - 1, ?_, ?_⟩
  · rw [hpc, Nat.sub_add_cancel hpos]
  · simp only [settleRequest, hpc, Option.getD_some]

/-- The counters of a reachable storage count its records and its `Pending` records, and each
terminal transition finds `PendingRequests` positive and lowers it by exactly one. -/
theorem reachable_counters {h : Host} (hr : Reachable h) :
    (∃ keys, StoredKeys h.storage.request keys ∧ h.storage.totalRequests = some keys.card ∧
      h.storage.pendingRequests =
        some (countRequests keys h.storage.request fun r => r.status = .pending) ∧
      countRequests keys h.storage.request (fun r => r.status = .pending) ≤ keys.card) ∧
    (∀ t caller requestId paymentId e,
      markPaid ⟨h.storage, t⟩ caller requestId paymentId = .ok e →
      ∃ n, h.storage.pendingRequests = some (n + 1) ∧ e.storage.pendingRequests = some n) ∧
    (∀ t caller requestId e, cancelRequest ⟨h.storage, t⟩ caller requestId = .ok e →
      ∃ n, h.storage.pendingRequests = some (n + 1) ∧ e.storage.pendingRequests = some n) ∧
    (∀ t caller requestId e, markExpired ⟨h.storage, t⟩ caller requestId = .ok e →
      ∃ n, h.storage.pendingRequests = some (n + 1) ∧ e.storage.pendingRequests = some n) := by
  have hs := hr.inv
  obtain ⟨admin, operator, -, -, ha, ho, -⟩ := hs.config
  obtain ⟨keys, hk, ht, hp⟩ := hs.counters
  refine ⟨⟨keys, hk, ht, hp, countRequests_le_card _⟩, ?_, ?_, ?_⟩
  · intro t caller requestId paymentId e he
    obtain ⟨-, r, hr, hpend, rfl⟩ := markPaid_eq_ok ha ho he
    exact hs.pendingRequests_settle hr hpend _
  · intro t caller requestId e he
    obtain ⟨r, hr, hpend, -, rfl⟩ := cancelRequest_eq_ok ha he
    exact hs.pendingRequests_settle hr hpend _
  · intro t caller requestId e he
    obtain ⟨-, r, hr, hpend, -, rfl⟩ := markExpired_eq_ok ha ho he
    exact hs.pendingRequests_settle hr hpend _

/-- On the tests' deployment, after one request is created, the operator's `mark_paid` of it
finds `PendingRequests` positive and lowers it by one. -/
theorem reachable_counters_setupEnv :
    ∃ e n,
      markPaid ⟨((setupEnv (.account 1) (.account 2) (.account 3)).invoke
        ⟨1000, .createRequest (.account 4) 1 10000000 2 2000⟩).storage, 1500⟩
          (.account 2) 1 10 = .ok e ∧
      ((setupEnv (.account 1) (.account 2) (.account 3)).invoke
        ⟨1000, .createRequest (.account 4) 1 10000000 2 2000⟩).storage.pendingRequests =
          some (n + 1) ∧
      e.storage.pendingRequests = some n :=
  have ⟨n, h₁, h₂⟩ := (reachable_counters
    ((Reachable.deploy (deploy_setupEnv (.account 1) (.account 2) (.account 3))).invoke
      ⟨1000, .createRequest (.account 4) 1 10000000 2 2000⟩)).2.1 1500 (.account 2) 1 10 _ rfl
  ⟨_, n, rfl, h₁, h₂⟩

/-! ### The reference index -/

theorem getRequestByReference_eq (s : Storage) (t : Nat) (reference : BytesN 32) :
    getRequestByReference ⟨s, t⟩ reference =
      match s.referenceIndex reference with
      | none => .error "Reference not found"
      | some id => getRequest ⟨s, t⟩ id := by
  cases hi : s.referenceIndex reference <;> simp [getRequestByReference, getRequest, hi]

/-- In a reachable storage `ReferenceIndex` maps each stored record's reference to its id and
points only at stored records with that reference; so references are unique, and
`get_request_by_reference` succeeds exactly on the references of stored records, returns
`get_request` of their id, and never fails with `Request not found`. -/
theorem reachable_referenceIndex {h : Host} (hr : Reachable h) :
    (∀ id r, h.storage.request id = some r → h.storage.referenceIndex r.reference = some id) ∧
    (∀ ref id, h.storage.referenceIndex ref = some id →
      ∃ r, h.storage.request id = some r ∧ r.reference = ref) ∧
    (∀ id₁ id₂ r₁ r₂, h.storage.request id₁ = some r₁ → h.storage.request id₂ = some r₂ →
      r₁.reference = r₂.reference → id₁ = id₂) ∧
    (∀ t ref, (getRequestByReference ⟨h.storage, t⟩ ref).isOk ↔
      ∃ id r, h.storage.request id = some r ∧ r.reference = ref) ∧
    (∀ t ref id r, h.storage.request id = some r → r.reference = ref →
      getRequestByReference ⟨h.storage, t⟩ ref = getRequest ⟨h.storage, t⟩ id) ∧
    (∀ t ref, getRequestByReference ⟨h.storage, t⟩ ref ≠ .error "Request not found") := by
  have hs := hr.inv
  have hbyref : ∀ t id r, h.storage.request id = some r →
      getRequestByReference ⟨h.storage, t⟩ r.reference = .ok r := fun t id r hid => by
    simp only [getRequestByReference_eq, hs.referenceIndex_eq id r hid, getRequest, hid,
      expect_some]
  refine ⟨hs.referenceIndex_eq, hs.request_of_referenceIndex, fun id₁ id₂ r₁ r₂ h₁ h₂ he => ?_,
    fun t ref => ⟨fun hok => ?_, ?_⟩, ?_, fun t ref => ?_⟩
  · have h₁' := hs.referenceIndex_eq id₁ r₁ h₁
    rw [he, hs.referenceIndex_eq id₂ r₂ h₂] at h₁'
    exact (Option.some.inj h₁').symm
  · cases hi : h.storage.referenceIndex ref with
    | none => simp [getRequestByReference_eq, hi, Except.isOk, Except.toBool] at hok
    | some id =>
      obtain ⟨r, hid, hrr⟩ := hs.request_of_referenceIndex ref id hi
      exact ⟨id, r, hid, hrr⟩
  · rintro ⟨id, r, hid, rfl⟩
    rw [hbyref t id r hid]
    rfl
  · rintro t ref id r hid rfl
    simp only [hbyref t id r hid, getRequest, hid, expect_some]
  · cases hi : h.storage.referenceIndex ref with
    | none => simp [getRequestByReference_eq, hi]
    | some id =>
      obtain ⟨r, hid, rfl⟩ := hs.request_of_referenceIndex ref id hi
      simp [hbyref t id r hid]

/-- On the tests' deployment, after a request is created under reference `2` and marked paid,
looking the reference up returns what `get_request` returns for its id. -/
theorem reachable_referenceIndex_setupEnv :
    getRequestByReference ⟨(((setupEnv (.account 1) (.account 2) (.account 3)).invoke
      ⟨1000, .createRequest (.account 4) 1 10000000 2 2000⟩).invoke
        ⟨1500, .markPaid (.account 2) 1 10⟩).storage, 1600⟩ 2 =
      getRequest ⟨(((setupEnv (.account 1) (.account 2) (.account 3)).invoke
        ⟨1000, .createRequest (.account 4) 1 10000000 2 2000⟩).invoke
          ⟨1500, .markPaid (.account 2) 1 10⟩).storage, 1600⟩ 1 :=
  (reachable_referenceIndex
    (((Reachable.deploy (deploy_setupEnv (.account 1) (.account 2) (.account 3))).invoke
      ⟨1000, .createRequest (.account 4) 1 10000000 2 2000⟩).invoke
        ⟨1500, .markPaid (.account 2) 1 10⟩)).2.2.2.2.1 1600 2 1 _ rfl rfl

/-! ### Records -/

/-- Every stored record was created no later than `now`, and was paid, if at all, no earlier
than it was created. -/
def CreatedBy (now : Nat) (s : Storage) : Prop :=
  ∀ id r, s.request id = some r → r.createdAt ≤ now ∧ ∀ t, r.paidAt = some t → r.createdAt ≤ t

theorem CreatedBy.mono {T T' : Nat} (hc : CreatedBy T s) (hT : T ≤ T') : CreatedBy T' s :=
  fun id r hr => ⟨(hc id r hr).1.trans hT, (hc id r hr).2⟩

/-- A call at a time no earlier than `T` keeps `CreatedBy`, moved to its own time. -/
theorem CreatedBy.invoke {h : Host} (hs : Inv h.storage) {T : Nat} (hc : CreatedBy T h.storage)
    {i : Invocation} (hT : T ≤ i.timestamp) : CreatedBy i.timestamp (h.invoke i).storage := by
  obtain ⟨t, c⟩ := i
  unfold Host.invoke
  split
  · rename_i e he
    rcases exec_cases hs.config he with ⟨_, id, _, _, _, -, -, -, -, -, rfl⟩ |
      ⟨id, r, r', ev, hr, -, hset, rfl⟩ | ⟨-, -, -, he', -⟩
    · intro x r' hx
      simp only [insertRequest, Function.update_apply] at hx
      split_ifs at hx with hxid
      · cases hx; simp
      · exact (hc.mono hT) x r' hx
    · intro x r'' hx
      simp only [settleRequest, Function.update_apply] at hx
      split_ifs at hx with hxid
      · cases hx
        obtain ⟨h₁, h₂⟩ := hc id r hr
        cases hset with
        | paid => exact ⟨h₁.trans hT, fun t ht => by cases ht; exact h₁.trans hT⟩
        | cancelled => exact ⟨h₁.trans hT, h₂⟩
        | expired => exact ⟨h₁.trans hT, h₂⟩
      · exact (hc.mono hT) x r'' hx
    · rw [he']
      exact hc.mono hT
  · exact hc.mono hT

/-- Along a run whose timestamps never decrease, starting no earlier than `T`, `CreatedBy`
keeps holding. -/
theorem CreatedBy.run {h : Host} (hr : Reachable h) {T : Nat} (hc : CreatedBy T h.storage)
    {is : List Invocation} (hmono : (T :: is.map Invocation.timestamp).Chain' (· ≤ ·)) :
    ∃ T', CreatedBy T' (h.run is).storage := by
  induction is generalizing h T with
  | nil => exact ⟨T, hc⟩
  | cons i is ih =>
    rw [List.map_cons, List.chain'_cons] at hmono
    exact ih (hr.invoke i) (hc.invoke hr.inv hmono.1) hmono.2

/-- Every record stored in any state of a run carries its key as its id, a positive amount and
an expiry after its creation, and has a payment time and a payment id exactly when it is
`Paid`; when the run's timestamps never decrease, it was paid no earlier than created. -/
theorem run_request_wellFormed {admin operator vault : Address} {minAmount maxAmount : Int}
    {h₀ : Host} (hd : deploy admin operator vault minAmount maxAmount = .ok h₀)
    (is : List Invocation) :
    (∀ id r, (h₀.run is).storage.request id = some r →
      r.requestId = id ∧ 0 < r.amount ∧ r.createdAt < r.expiresAt ∧
      (r.status = .paid → r.paidAt.isSome ∧ r.paymentId.isSome) ∧
      (r.status ≠ .paid → r.paidAt = none ∧ r.paymentId = none)) ∧
    ((is.map Invocation.timestamp).Chain' (· ≤ ·) →
      ∀ id r t, (h₀.run is).storage.request id = some r → r.paidAt = some t →
        r.createdAt ≤ t) := by
  refine ⟨fun id r hid => ?_, fun hmono id r t hid ht => ?_⟩
  · have hwf := ((Reachable.deploy hd).run is).inv.wellFormed id r hid
    exact ⟨hwf.requestId_eq, hwf.amount_pos, hwf.createdAt_lt,
      fun hp => ⟨hwf.paidAt_isSome.mpr hp, hwf.paymentId_isSome.mpr hp⟩,
      fun hp => ⟨Option.not_isSome_iff_eq_none.mp (mt hwf.paidAt_isSome.mp hp),
        Option.not_isSome_iff_eq_none.mp (mt hwf.paymentId_isSome.mp hp)⟩⟩
  · obtain ⟨-, -, rfl⟩ := deploy_eq_ok hd
    have hc₀ : CreatedBy 0 (setupEnv admin operator vault).storage := fun _ _ h => by
      simp [setupEnv, Storage.empty] at h
    obtain ⟨T, hT⟩ := CreatedBy.run (Reachable.deploy hd) hc₀
      (List.chain'_cons'.mpr ⟨fun _ _ => Nat.zero_le _, hmono⟩)
    exact (hT id r hid).2 t ht

/-- The scenario of the tests: a request created at `1000` and paid at `1500`. -/
theorem run_request_wellFormed_setupEnv :
    ((setupEnv (.account 1) (.account 2) (.account 3)).run
        [⟨1000, .createRequest (.account 4) 1 10000000 2 2000⟩,
         ⟨1500, .markPaid (.account 2) 1 10⟩]).storage.request 1 =
      some ⟨1, .account 4, 10000000, 2, .paid, 1000, 2000, some 1500, some 10⟩ ∧
    1000 ≤ 1500 :=
  ⟨rfl, (run_request_wellFormed (deploy_setupEnv (.account 1) (.account 2) (.account 3))
    [⟨1000, .createRequest (.account 4) 1 10000000 2 2000⟩, ⟨1500, .markPaid (.account 2) 1 10⟩]).2
    (by simp) 1 ⟨1, .account 4, 10000000, 2, .paid, 1000, 2000, some 1500, some 10⟩ 1500 rfl rfl⟩

/-! ### Amount bounds -/

/-- In a reachable storage `0 < min_amount < max_amount`, and the admin's bound updates succeed
exactly when they keep it: `set_min_amount` when `0 < m < max_amount`, `set_max_amount` when
`min_amount < M`. -/
theorem reachable_amount_bounds {h : Host} (hr : Reachable h) :
    ∃ lo hi, h.storage.minAmount = some lo ∧ h.storage.maxAmount = some hi ∧ 0 < lo ∧ lo < hi ∧
      ∀ admin, h.storage.admin = some admin → ∀ t,
        (∀ m, (setMinAmount ⟨h.storage, t⟩ admin m).isOk ↔ 0 < m ∧ m < hi) ∧
        (∀ m, (setMaxAmount ⟨h.storage, t⟩ admin m).isOk ↔ lo < m) := by
  obtain ⟨-, -, lo, hi, -, -, hlo, hhi, h₀, hlt⟩ := hr.inv.config
  refine ⟨lo, hi, hlo, hhi, h₀, hlt, fun admin ha t => ⟨fun m => ?_, fun m => ?_⟩⟩
  · rw [setMinAmount_eq ha hlo hhi, if_pos rfl]
    split_ifs <;> simp [Except.isOk, Except.toBool] <;> omega
  · rw [setMaxAmount_eq ha hlo hhi, if_pos rfl]
    split_ifs <;> simp [Except.isOk, Except.toBool] <;> omega

/-- On the tests' deployment, after a request is created and the admin lowers the maximum to
`50000000`, a minimum of `60000000` is refused. -/
theorem reachable_amount_bounds_setupEnv :
    (setMinAmount ⟨(((setupEnv (.account 1) (.account 2) (.account 3)).invoke
      ⟨1000, .createRequest (.account 4) 1 10000000 2 2000⟩).invoke
        ⟨1100, .setMaxAmount (.account 1) 50000000⟩).storage, 1200⟩
          (.account 1) 60000000).isOk = false :=
  have ⟨_, hi, _, hhi, _, _, hset⟩ := reachable_amount_bounds
    (((Reachable.deploy (deploy_setupEnv (.account 1) (.account 2) (.account 3))).invoke
      ⟨1000, .createRequest (.account 4) 1 10000000 2 2000⟩).invoke
        ⟨1100, .setMaxAmount (.account 1) 50000000⟩)
  have hhi : hi = 50000000 := Option.some.inj (hhi.symm.trans rfl)
  Bool.eq_false_iff.mpr fun hok => absurd (((hset _ rfl 1200).1 _).mp hok).2 (by omega)

end Dabdub.PaymentRequestContract
