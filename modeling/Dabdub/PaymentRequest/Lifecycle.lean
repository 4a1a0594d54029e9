import Dabdub.PaymentRequest.Invariant

/-!
# The lifecycle of one request along a run

Along any run from a deployment, the record under one key takes at most three values in turn:
absent, then one `Pending` record, then at most one record that is no longer `Pending` and
differs from it only in its status, payment time and payment id (`RequestHistory`). An entry
of `ReferenceIndex` is written once and never changes again (`IndexHistory`). Hence no request
id and no reference is created twice in a run, whatever became of the first request.

Each invocation moves the record under a key by one `RecordStep` and an index entry by one
`IndexStep`; the histories of a run follow by induction on the run, one invocation at a time.

## Main definitions

* `PaymentRequestContract.RecordStep`, `PaymentRequestContract.IndexStep`.
* `PaymentRequestContract.RequestHistory`, `PaymentRequestContract.IndexHistory`.

## Main results

* `PaymentRequestContract.run_request_lifecycle`.
-/

namespace Dabdub.PaymentRequestContract

open Function List

/-! ### One invocation -/

/-- How one invocation may change the record stored under one key: create a `Pending` record,
or move a `Pending` record to another status, rewriting only its status, payment time and
payment id. -/
inductive RecordStep : Option PaymentRequest → Option PaymentRequest → Prop
  | stay (v : Option PaymentRequest) : RecordStep v v
  | create {r : PaymentRequest} : r.status = .pending → RecordStep none (some r)
  | settle {r : PaymentRequest} {status : PaymentRequestStatus} {paidAt : Option Nat}
      {paymentId : Option (BytesN 32)} : r.status = .pending → status ≠ .pending →
      RecordStep (some r) (some { r with status, paidAt, paymentId })

/-- How one invocation may change one entry of `ReferenceIndex`: write it once. -/
inductive IndexStep : Option (BytesN 32) → Option (BytesN 32) → Prop
  | stay (v : Option (BytesN 32)) : IndexStep v v
  | create (requestId : BytesN 32) : IndexStep none (some requestId)

theorem RecordStep.isSome {v w : Option PaymentRequest} (hstep : RecordStep v w) :
    v.isSome → w.isSome := by
  cases hstep <;> simp

variable {s : Storage} {t : Nat} {c : Call} {e : Effect}

theorem exec_recordStep (hs : Configured s) (h : c.exec ⟨s, t⟩ = .ok e) (id : BytesN 32) :
    RecordStep (s.request id) (e.storage.request id) := by
  rcases exec_cases hs h with ⟨_, rid, _, _, _, -, -, -, hid, -, rfl⟩ |
    ⟨rid, r, r', ev, hr, hp, hset, rfl⟩ | ⟨-, -, -, he, -⟩
  · by_cases hx : id = rid
    · subst hx
      simp only [insertRequest, update_same, hid]
      exact .create rfl
    · simp only [insertRequest, update_noteq hx]
      exact .stay _
  · obtain ⟨⟨status, paidAt, paymentId, rfl⟩, hne⟩ := hset.eq_with
    by_cases hx : id = rid
    · subst hx
      simp only [settleRequest, update_same, hr]
      exact .settle hp hne
    · simp only [settleRequest, update_noteq hx]
      exact .stay _
  · rw [he]
    exact .stay _

theorem exec_indexStep (hs : Configured s) (h : c.exec ⟨s, t⟩ = .ok e) (ref : BytesN 32) :
    IndexStep (s.referenceIndex ref) (e.storage.referenceIndex ref) := by
  rcases exec_cases hs h with ⟨_, rid, _, rref, _, -, -, -, -, href, rfl⟩ |
    ⟨rid, r, r', ev, -, -, -, rfl⟩ | ⟨-, -, -, he, -⟩
  · by_cases hx : ref = rref
    · subst hx
      simp only [insertRequest, update_same, href]
      exact .create rid
    · simp only [insertRequest, update_noteq hx]
      exact .stay _
  · exact .stay _
  · rw [he]
    exact .stay _

/-- A successful `create_request` found its id and its reference absent, and writes both. -/
theorem exec_createRequest (hs : Configured s)
    {caller : Address} {requestId : BytesN 32} {amount : Int} {reference : BytesN 32}
    {expiresAt : Nat} (h : (Call.createRequest caller requestId amount reference expiresAt).exec
      ⟨s, t⟩ = .ok e) :
    s.request requestId = none ∧ s.referenceIndex reference = none ∧
      (e.storage.request requestId).isSome ∧ (e.storage.referenceIndex reference).isSome := by
  rcases exec_cases hs h with ⟨_, _, _, _, _, hc, -, -, hid, href, rfl⟩ |
    ⟨_, _, _, _, -, -, hset, -⟩ | ⟨hnone, -⟩
  · cases hc
    simp [insertRequest, hid, href]
  · cases hset
  · cases hnone

namespace Host

variable {h : Host} {i : Invocation}

theorem recordStep_invoke (hs : Configured h.storage) (i : Invocation) (id : BytesN 32) :
    RecordStep (h.storage.request id) ((h.invoke i).storage.request id) := by
  unfold invoke
  split
  · exact exec_recordStep hs ‹_› id
  · exact .stay _

theorem indexStep_invoke (hs : Configured h.storage) (i : Invocation) (ref : BytesN 32) :
    IndexStep (h.storage.referenceIndex ref) ((h.invoke i).storage.referenceIndex ref) := by
  unfold invoke
  split
  · exact exec_indexStep hs ‹_› ref
  · exact .stay _

/-- An id is stored after an invocation exactly when it was stored before or the invocation is
a successful `create_request` of it. -/
theorem request_isSome_invoke (hs : Configured h.storage) (id : BytesN 32) :
    ((h.invoke i).storage.request id).isSome ↔ (h.storage.request id).isSome ∨
      ∃ caller amount reference expiresAt e,
        i.call = .createRequest caller id amount reference expiresAt ∧
        i.call.exec ⟨h.storage, i.timestamp⟩ = .ok e := by
  obtain ⟨t, c⟩ := i
  unfold invoke
  split
  · rename_i e he
    rcases exec_cases hs he with ⟨caller, rid, amount, ref, exp, rfl, -, -, hid, -, rfl⟩ |
      ⟨rid, r, r', ev, hr, -, hset, rfl⟩ | ⟨hnone, -, -, he', -⟩
    · by_cases hx : id = rid
      · subst hx
        simp only [insertRequest, update_same, Option.isSome_some, true_iff]
        exact .inr ⟨caller, amount, ref, exp, _, rfl, he⟩
      · simp [insertRequest, update_noteq hx, Ne.symm hx]
    · have hne : ∀ caller amount reference expiresAt,
          c ≠ .createRequest caller id amount reference expiresAt := by
        rintro _ _ _ _ rfl; cases hset
      by_cases hx : id = rid
      · subst hx
        simp [settleRequest, hr, hne]
      · simp [settleRequest, update_noteq hx, hne]
    · rw [he']
      have hne : ∀ caller amount reference expiresAt,
          c ≠ .createRequest caller id amount reference expiresAt := by
        rintro _ _ _ _ rfl; cases hnone
      simp [hne]
  · rename_i msg he
    refine ⟨.inl, ?_⟩
    rintro (h | ⟨_, _, _, _, _, -, he'⟩)
    · exact h
    · exact absurd (he.symm.trans he') (by simp)

/-- One invocation's contribution to `Host.created`. -/
theorem mem_created_cons {x : BytesN 32 × BytesN 32} {is : List Invocation} :
    x ∈ h.created (i :: is) ↔
      (∃ caller amount expiresAt e,
        i.call = .createRequest caller x.1 amount x.2 expiresAt ∧
        i.call.exec ⟨h.storage, i.timestamp⟩ = .ok e) ∨
      x ∈ (h.invoke i).created is := by
  obtain ⟨t, c⟩ := i
  cases c with
  | createRequest caller id amount ref exp =>
    simp only [created]
    split_ifs with hok
    · obtain ⟨e, he⟩ := isOk_iff_exists.mp hok
      simp only [mem_cons]
      constructor
      · rintro (rfl | hx)
        · exact .inl ⟨caller, amount, exp, e, rfl, he⟩
        · exact .inr hx
      · rintro (⟨_, _, _, _, hc, -⟩ | hx)
        · cases hc; exact .inl rfl
        · exact .inr hx
    · constructor
      · exact .inr
      · rintro (⟨_, _, _, e, -, he⟩ | hx)
        · simp [he, Except.isOk, Except.toBool] at hok
        · exact hx
  | _ => simp [created]

end Host

/-! ### Runs -/

theorem Host.trace_append_singleton (h : Host) (is : List Invocation) (i : Invocation) :
    h.trace (is ++ [i]) = h.trace is ++ [(h.run is).invoke i] := by
  induction is generalizing h with
  | nil => rfl
  | cons j is ih => exact congrArg (h :: ·) (ih _)

theorem Host.getLast?_trace (h : Host) (is : List Invocation) :
    (h.trace is).getLast? = some (h.run is) := by
  induction is using List.reverseRecOn with
  | nil => rfl
  | append_singleton is i _ => simp [trace_append_singleton, run_append]

/-- The values the record under one key takes along a run: absent at first, then one `Pending`
record, then at most one other record, no longer `Pending`, that differs from it only in its
status, payment time and payment id. -/
def RequestHistory (vs : List (Option PaymentRequest)) : Prop :=
  ∃ a b c r status paidAt paymentId,
    vs = replicate (a + 1) none ++ replicate b (some r) ++
      replicate c (some { r with status, paidAt, paymentId }) ∧
    (0 < b → r.status = .pending) ∧ (0 < c → 0 < b ∧ status ≠ .pending)

/-- The values one entry of `ReferenceIndex` takes along a run: absent at first, then one
request id for good. -/
def IndexHistory (vs : List (Option (BytesN 32))) : Prop :=
  ∃ a b requestId, vs = replicate (a + 1) none ++ replicate b (some requestId)

theorem RequestHistory.concat {vs : List (Option PaymentRequest)} (hv : RequestHistory vs)
    {v w : Option PaymentRequest} (hlast : vs.getLast? = some v) (hstep : RecordStep v w) :
    RequestHistory (vs ++ [w]) := by
  obtain ⟨a, b, c, r, status, paidAt, paymentId, rfl, hb, hc⟩ := hv
  rcases c with _ | c
  · rcases b with _ | b
    · -- the key is still absent
      simp only [replicate_zero, append_nil, replicate_succ', getLast?_concat,
        Option.some.injEq] at hlast
      subst hlast
      cases hstep with
      | stay => exact ⟨a + 1, 0, 0, r, status, paidAt, paymentId, by simp [replicate_succ'],
          by simp, by simp⟩
      | @create r' hp => exact ⟨a, 1, 0, r', status, paidAt, paymentId, by simp, fun _ => hp,
          by simp⟩
    · -- the record is `Pending`
      simp only [replicate_zero, append_nil, replicate_succ', ← append_assoc, getLast?_concat,
        Option.some.injEq] at hlast
      subst hlast
      cases hstep with
      | stay => exact ⟨a, b + 2, 0, r, status, paidAt, paymentId,
          by simp [replicate_succ'], fun _ => hb (by omega), by simp⟩
      | @settle _ status' paidAt' paymentId' hp hne =>
        exact ⟨a, b + 1, 1, r, status', paidAt', paymentId', by simp [replicate_succ'], hb,
          fun _ => ⟨by omega, hne⟩⟩
  · -- the record is settled
    simp only [replicate_succ', ← append_assoc, getLast?_concat, Option.some.injEq] at hlast
    subst hlast
    obtain ⟨hb0, hne⟩ := hc (by omega)
    cases hstep with
    | stay => exact ⟨a, b, c + 2, r, status, paidAt, paymentId, by simp [replicate_succ'], hb,
        fun _ => ⟨hb0, hne⟩⟩
    | settle hp => exact absurd hp hne

theorem IndexHistory.concat {vs : List (Option (BytesN 32))} (hv : IndexHistory vs)
    {v w : Option (BytesN 32)} (hlast : vs.getLast? = some v) (hstep : IndexStep v w) :
    IndexHistory (vs ++ [w]) := by
  obtain ⟨a, b, requestId, rfl⟩ := hv
  rcases b with _ | b
  · simp only [replicate_zero, append_nil, replicate_succ', getLast?_concat,
      Option.some.injEq] at hlast
    subst hlast
    cases hstep with
    | stay => exact ⟨a + 1, 0, requestId, by simp [replicate_succ']⟩
    | create id => exact ⟨a, 1, id, by simp⟩
  · simp only [replicate_succ', ← append_assoc, getLast?_concat, Option.some.injEq] at hlast
    subst hlast
    cases hstep
    exact ⟨a, b + 2, requestId, by simp [replicate_succ']⟩

section Run

variable {h : Host} (hr : Reachable h)
include hr

theorem Reachable.requestHistory {id : BytesN 32} (h0 : h.storage.request id = none)
    (is : List Invocation) :
    RequestHistory ((h.trace is).map fun h => h.storage.request id) := by
  induction is using List.reverseRecOn with
  | nil => exact ⟨0, 0, 0, ⟨0, .account 0, 0, 0, .pending, 0, 0, none, none⟩, .pending, none,
      none, by simp [Host.trace, h0], by simp, by simp⟩
  | append_singleton is i ih =>
    rw [Host.trace_append_singleton, map_append]
    exact ih.concat (by rw [getLast?_map, Host.getLast?_trace]; rfl)
      (Host.recordStep_invoke (hr.run is).inv.config i id)

theorem Reachable.indexHistory {ref : BytesN 32} (h0 : h.storage.referenceIndex ref = none)
    (is : List Invocation) :
    IndexHistory ((h.trace is).map fun h => h.storage.referenceIndex ref) := by
  induction is using List.reverseRecOn with
  | nil => exact ⟨0, 0, default, by simp [Host.trace, h0]⟩
  | append_singleton is i ih =>
    rw [Host.trace_append_singleton, map_append]
    exact ih.concat (by rw [getLast?_map, Host.getLast?_trace]; rfl)
      (Host.indexStep_invoke (hr.run is).inv.config i ref)

/-- An id is stored at the end of a run exactly when it was stored at its start or the run
created it. -/
theorem Reachable.request_isSome_run (id : BytesN 32) (is : List Invocation) :
    ((h.run is).storage.request id).isSome ↔
      (h.storage.request id).isSome ∨ ∃ ref, (id, ref) ∈ h.created is := by
  induction is generalizing h with
  | nil => simp [Host.created]
  | cons i is ih =>
    simp only [Host.run_cons, ih (hr.invoke i), Host.request_isSome_invoke hr.inv.config,
      Host.mem_created_cons]
    constructor
    · rintro ((h | ⟨caller, amount, ref, exp, e, hc, he⟩) | ⟨ref, hx⟩)
      · exact .inl h
      · exact .inr ⟨ref, .inl ⟨caller, amount, exp, e, hc, he⟩⟩
      · exact .inr ⟨ref, .inr hx⟩
    · rintro (h | ⟨ref, ⟨caller, amount, exp, e, hc, he⟩ | hx⟩)
      · exact .inl (.inl h)
      · exact .inl (.inr ⟨caller, amount, ref, exp, e, hc, he⟩)
      · exact .inr ⟨ref, hx⟩

/-- Every request a run creates was absent, with its reference, where the run starts. -/
theorem Reachable.absent_of_mem_created {is : List Invocation} {x : BytesN 32 × BytesN 32}
    (hx : x ∈ h.created is) :
    h.storage.request x.1 = none ∧ h.storage.referenceIndex x.2 = none := by
  induction is generalizing h with
  | nil => simp [Host.created] at hx
  | cons i is ih =>
    rcases Host.mem_created_cons.mp hx with ⟨caller, amount, exp, e, hc, he⟩ | hx
    · rw [hc] at he
      exact ⟨(exec_createRequest hr.inv.config he).1, (exec_createRequest hr.inv.config he).2.1⟩
    · obtain ⟨h₁, h₂⟩ := ih (hr.invoke i) hx
      refine ⟨Option.not_isSome_iff_eq_none.mp fun hs => ?_,
        Option.not_isSome_iff_eq_none.mp fun hs => ?_⟩
      · simpa [h₁] using (Host.recordStep_invoke hr.inv.config i x.1).isSome hs
      · cases hi : h.storage.referenceIndex x.2 with
        | none => simp [hi] at hs
        | some _ =>
          have := Host.indexStep_invoke hr.inv.config i x.2
          rw [hi, h₂] at this
          cases this

/-- A run creates each request id and each reference at most once. -/
theorem Reachable.created_nodup (is : List Invocation) :
    ((h.created is).map Prod.fst).Nodup ∧ ((h.created is).map Prod.snd).Nodup := by
  induction is generalizing h with
  | nil => simp [Host.created]
  | cons i is ih =>
    obtain ⟨ih₁, ih₂⟩ := ih (hr.invoke i)
    obtain ⟨t, c⟩ := i
    cases c with
    | createRequest caller id amount ref exp =>
      simp only [Host.created]
      split_ifs with hok
      · obtain ⟨e, he⟩ := isOk_iff_exists.mp hok
        obtain ⟨-, -, hid, href⟩ := exec_createRequest hr.inv.config he
        have hinv : (h.invoke ⟨t, .createRequest caller id amount ref exp⟩) =
            ⟨e.storage, h.events ++ e.events⟩ := Host.invoke_of_ok he
        simp only [map_cons, nodup_cons, mem_map, Prod.exists, exists_and_right,
          exists_eq_right, not_exists]
        refine ⟨⟨fun r hx => ?_, ih₁⟩, ⟨fun r hx => ?_, ih₂⟩⟩
        · exact absurd hid (by simpa [hinv] using ((hr.invoke _).absent_of_mem_created hx).1)
        · exact absurd href (by simpa [hinv] using ((hr.invoke _).absent_of_mem_created hx).2)
      · exact ⟨ih₁, ih₂⟩
    | _ => exact ⟨ih₁, ih₂⟩

end Run

/-- Along every run from a deployment, the record under each key is absent, then one `Pending`
record, then at most one settled record that keeps every field written at creation; each
`ReferenceIndex` entry is written once and never removed or re-pointed; a key is stored at the
end exactly when the run created it; and no two successful `create_request` calls share a
request id or a reference. -/
theorem run_request_lifecycle {admin operator vault : Address} {minAmount maxAmount : Int}
    {h₀ : Host} (hd : deploy admin operator vault minAmount maxAmount = .ok h₀)
    (is : List Invocation) :
    (∀ id, RequestHistory ((h₀.trace is).map fun h => h.storage.request id)) ∧
    (∀ ref, IndexHistory ((h₀.trace is).map fun h => h.storage.referenceIndex ref)) ∧
    (∀ id, ((h₀.run is).storage.request id).isSome ↔ ∃ ref, (id, ref) ∈ h₀.created is) ∧
    ((h₀.created is).map Prod.fst).Nodup ∧ ((h₀.created is).map Prod.snd).Nodup := by
  have hr := Reachable.deploy hd
  obtain ⟨-, -, rfl⟩ := deploy_eq_ok hd
  refine ⟨fun id => hr.requestHistory rfl is, fun ref => hr.indexHistory rfl is,
    fun id => ?_, hr.created_nodup is⟩
  simpa [Storage.empty] using hr.request_isSome_run id is

/-- On the tests' deployment, a reference reused after its request was cancelled is not created
again. -/
theorem run_request_lifecycle_setupEnv :
    List.Nodup (((setupEnv (.account 1) (.account 2) (.account 3)).created
      [⟨1000, .createRequest (.account 4) 1 10000000 2 2000⟩,
       ⟨1100, .cancelRequest (.account 4) 1⟩,
       ⟨1200, .createRequest (.account 5) 3 10000000 2 3000⟩]).map Prod.snd) :=
  (run_request_lifecycle (deploy_setupEnv (.account 1) (.account 2) (.account 3)) _).2.2.2.2

end Dabdub.PaymentRequestContract
