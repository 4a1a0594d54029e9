import Mathlib.Algebra.Group.Nat.Basic
import Mathlib.Logic.Function.Basic

/-!
# The Soroban host, as the payment-request contract sees it

The contract `PaymentRequestContract` runs on the Soroban host. This file fixes the host
values and failures it uses.

* `BytesN n` is the host type `BytesN<n>`: `n` opaque bytes, read here as one word of `8 * n`
  bits.
* `Address` is `soroban_sdk::Address`: an account, named by its public key, or a contract,
  named by its hash. The contract only compares addresses.
* A call either returns or panics, and a panic aborts the whole invocation. Calls are
  `Except String` computations whose error is the panic message: `panicIf cond msg` is
  `if cond { panic!(msg) }`, `unwrap` and `expect` are `Option::unwrap` and
  `Option::expect`, and `addU64` is `+` on `u64` in a build with overflow checks, which panics
  past `u64::MAX`.

The `i128` amounts and `u64` timestamps of the contract are `Int` and `Nat`: it compares them
and never computes with them. Its two counters are `u64` and grow by `addU64`.

## Main definitions

* `Dabdub.BytesN`, `Dabdub.Address`.
* `Dabdub.panicIf`, `Dabdub.unwrap`, `Dabdub.expect`, `Dabdub.addU64`.
-/

namespace Dabdub

/-! ### Bytes and addresses -/

/-- `BytesN<n>`: `n` opaque bytes, as one word of `8 * n` bits. -/
abbrev BytesN (n : Nat) : Type := BitVec (8 * n)

/-- `soroban_sdk::Address`: an account, named by its public key, or a contract, named by its
hash. -/
inductive Address
  | account (key : BytesN 32)
  | contract (hash : BytesN 32)
  deriving DecidableEq, Repr

/-! ### Panics -/

variable {ε α β : Type}

/-- `if cond { panic!(msg) }`. -/
def panicIf (cond : Prop) [Decidable cond] (msg : String) : Except String Unit :=
  if cond then .error msg else .ok ()

/-- `Option::unwrap`: the value, or a panic. -/
def unwrap : Option α → Except String α
  | some a => .ok a
  | none => .error "called `Option::unwrap()` on a `None` value"

/-- `Option::expect(msg)`: the value, or a panic with `msg`. -/
def expect (msg : String) : Option α → Except String α
  | some a => .ok a
  | none => .error msg

/-- `a + b` on `u64` with overflow checks. -/
def addU64 (a b : Nat) : Except String Nat :=
  if a + b < 2 ^ 64 then .ok (a + b) else .error "attempt to add with overflow"

@[simp] theorem unwrap_some (a : α) : unwrap (some a) = .ok a := rfl

@[simp] theorem unwrap_none : unwrap (none : Option α) =
    .error "called `Option::unwrap()` on a `None` value" := rfl

@[simp] theorem expect_some (msg : String) (a : α) : expect msg (some a) = .ok a := rfl

@[simp] theorem expect_none (msg : String) : expect msg (none : Option α) = .error msg := rfl

theorem addU64_of_lt {a b : Nat} (h : a + b < 2 ^ 64) : addU64 a b = .ok (a + b) :=
  if_pos h

theorem addU64_of_le {a b : Nat} (h : 2 ^ 64 ≤ a + b) :
    addU64 a b = .error "attempt to add with overflow" :=
  if_neg (Nat.not_lt.mpr h)

theorem addU64_eq_ok {a b c : Nat} (h : addU64 a b = .ok c) : a + b < 2 ^ 64 ∧ c = a + b := by
  unfold addU64 at h
  split at h
  · exact ⟨‹_›, (Except.ok.inj h).symm⟩
  · cases h

/-! ### Running `Except` computations -/

@[simp] theorem ok_bind (a : α) (f : α → Except ε β) : (Except.ok a >>= f) = f a := rfl

@[simp] theorem error_bind (e : ε) (f : α → Except ε β) :
    (Except.error e >>= f : Except ε β) = .error e := rfl

@[simp] theorem pure_eq_ok (a : α) : (pure a : Except ε α) = .ok a := rfl

@[simp] theorem map_ok (f : α → β) (a : α) : (f <$> Except.ok a : Except ε β) = .ok (f a) := rfl

@[simp] theorem map_error (f : α → β) (e : ε) :
    (f <$> Except.error e : Except ε β) = .error e := rfl

@[simp] theorem panicIf_bind (cond : Prop) [Decidable cond] (msg : String)
    (f : Unit → Except String α) :
    (panicIf cond msg >>= f) = if cond then .error msg else f () := by
  unfold panicIf; split <;> rfl

/-- A guard that panics when `c` holds: the call succeeds exactly when `c` fails and the rest
succeeds. -/
theorem ite_error_eq_ok {c : Prop} [Decidable c] {m : ε} {y : Except ε α} {a : α} :
    ((if c then .error m else y) = .ok a) ↔ ¬c ∧ y = .ok a := by
  split <;> simp_all

theorem map_ite {c : Prop} [Decidable c] (f : α → β) (x y : Except ε α) :
    (f <$> if c then x else y) = if c then f <$> x else f <$> y := by
  split <;> rfl

theorem map_eq_ok {x : Except ε α} {f : α → β} {b : β} (h : (f <$> x) = .ok b) :
    ∃ a, x = .ok a ∧ f a = b := by
  cases x with
  | error e => cases h
  | ok a => exact ⟨a, rfl, Except.ok.inj h⟩

theorem isOk_iff_exists {x : Except ε α} : x.isOk = true ↔ ∃ a, x = .ok a := by
  cases x <;> simp [Except.isOk, Except.toBool]

theorem bind_eq_ok {x : Except ε α} {f : α → Except ε β} {b : β} (h : (x >>= f) = .ok b) :
    ∃ a, x = .ok a ∧ f a = .ok b := by
  cases x with
  | error e => cases h
  | ok a => exact ⟨a, rfl, h⟩

end Dabdub
