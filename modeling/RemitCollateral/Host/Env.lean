import RemitCollateral.Host.Result

/-! # The host a contract runs on

What a contract reads of its host: the ledger clock, who authorized the call, and the lifetimes of
its storage entries. An address authorizes a call when it is the contract that made it or when its
signature covers it. Lifetimes follow the host's rule for `extend_ttl(threshold, extend_to)`: the
remaining lifetime becomes `extend_to` when it is below `threshold` and is left alone otherwise.
Lifetimes are recorded and not enforced: the host stops a call that needs an archived entry until
the entry is restored, and every call modelled here finds its entries live or restored. -/

namespace Soroban

/-- An account or a contract. -/
structure Address where
  /-- The identity the network knows it by. -/
  id : ℕ
  deriving DecidableEq, Repr

/-- A 32-byte string. -/
abbrev BytesN32 := BitVec 256

/-- The ledger clock: close time in seconds and ledger sequence number. -/
structure Clock where
  /-- Close time of the current ledger, in seconds. -/
  timestamp : ℕ
  /-- Sequence number of the current ledger. -/
  sequence : ℕ
  deriving DecidableEq, Repr

/-- The clock order: neither the close time nor the sequence number goes back. -/
instance : LE Clock := ⟨fun c c' => c.timestamp ≤ c'.timestamp ∧ c.sequence ≤ c'.sequence⟩

instance (c c' : Clock) : Decidable (c ≤ c') := inferInstanceAs (Decidable (_ ∧ _))

/-- The clock order is a preorder. -/
instance : Preorder Clock where
  le_refl _ := ⟨Nat.le_refl _, Nat.le_refl _⟩
  le_trans _ _ _ h h' := ⟨Nat.le_trans h.1 h'.1, Nat.le_trans h.2 h'.2⟩

/-- The environment of one contract call. -/
structure Env where
  /-- The ledger the call runs in. -/
  clock : Clock
  /-- The contract whose code is running. -/
  currentContract : Address
  /-- The contract that made this call, or none for a call submitted directly. -/
  invoker : Option Address
  /-- The addresses whose signatures cover the call. -/
  signers : List Address
  /-- The network's minimum lifetime of a persistent entry, in ledgers, the one it is written in
  included. -/
  minPersistentTtl : ℕ
  deriving DecidableEq, Repr

namespace Env

/-- The ledger close time. -/
def timestamp (env : Env) : ℕ := env.clock.timestamp

/-- Whether `address` authorized this call. -/
def authorized (env : Env) (address : Address) : Prop :=
  env.invoker = some address ∨ address ∈ env.signers

instance (env : Env) (address : Address) : Decidable (env.authorized address) :=
  inferInstanceAs (Decidable (_ ∨ _))

/-- `address.require_auth()`. -/
def requireAuth {ε : Type} (env : Env) (address : Address) : Result ε Unit :=
  if env.authorized address then .ok () else .error .unauthorized

@[simp] theorem requireAuth_eq_ok {ε : Type} {env : Env} {address : Address} {u : Unit} :
    (env.requireAuth address : Result ε Unit) = .ok u ↔ env.authorized address := by
  unfold requireAuth; split <;> simp_all

/-- The environment a contract at `address` sees when the current contract calls it. -/
def call (env : Env) (address : Address) : Env :=
  { env with currentContract := address, invoker := some env.currentContract }

@[simp] theorem not_assertFails_requireAuth {ε : Type} {env : Env} {address : Address} :
    ¬ AssertFails (env.requireAuth address : Result ε Unit) := by
  unfold AssertFails requireAuth; split <;> simp

@[simp] theorem not_raises_requireAuth {ε : Type} {env : Env} {address : Address} {error : ε} :
    ¬ Raises (env.requireAuth address : Result ε Unit) error := by
  unfold Raises requireAuth; split <;> simp

/-- The calling contract authorizes its own direct calls. -/
@[simp] theorem call_authorized_self (env : Env) (address : Address) :
    (env.call address).authorized env.currentContract := Or.inl rfl

end Env

/-- Where a call comes from, as far as the called contract can tell. -/
structure Origin where
  invoker : Option Address
  signers : List Address
  /-- The network's setting at the call. It is arbitrary: the network may change it between two
  calls of a run. -/
  minPersistentTtl : ℕ
  deriving DecidableEq, Repr

/-- The environment of a call from `origin` to the contract at `self`. -/
def Origin.env (origin : Origin) (clock : Clock) (self : Address) : Env where
  clock
  currentContract := self
  invoker := origin.invoker
  signers := origin.signers
  minPersistentTtl := origin.minPersistentTtl

@[simp] theorem Origin.env_currentContract (origin : Origin) (clock : Clock) (self : Address) :
    (origin.env clock self).currentContract = self := rfl

/-! ## Storage -/

/-- An entry of a store after one key was written is the one written or one that was there. -/
theorem update_eq_some {K V : Type} [DecidableEq K] {f : K → Option V} {k k' : K} {v v' : V} :
    Function.update f k (some v) k' = some v' ↔
      (k' = k ∧ v = v') ∨ (k' ≠ k ∧ f k' = some v') := by
  by_cases h : k' = k
  · subst h; simp
  · simp [h]

/-- An entry of a store after one key was removed was there under another key. -/
theorem update_none_eq_some {K V : Type} [DecidableEq K] {f : K → Option V} {k k' : K} {v' : V} :
    Function.update f k none k' = some v' ↔ k' ≠ k ∧ f k' = some v' := by
  by_cases h : k' = k
  · subst h; simp
  · simp [h]

/-- A key that was written has an entry. -/
theorem isSome_update_self {K V : Type} [DecidableEq K] (f : K → Option V) (k : K) (v : V) :
    (Function.update f k (some v) k).isSome = true := by
  rw [Function.update_self]
  rfl

/-! ## Storage lifetimes -/

/-- Lifetimes of one contract's storage, as the last ledger each entry is live in: the instance
entry, and the persistent entry under each key of `K`. -/
structure Lifetimes (K : Type) where
  /-- Last ledger the instance entry is live in. -/
  instanceUntil : ℕ
  /-- Last ledger each persistent entry is live in. -/
  entryUntil : K → ℕ

namespace Lifetimes

variable {K : Type} [DecidableEq K]

/-- The host's `extend_ttl` rule on one entry. -/
def extended (env : Env) (threshold extendTo liveUntil : ℕ) : ℕ :=
  if liveUntil - env.clock.sequence < threshold then env.clock.sequence + extendTo else liveUntil

/-- `instance().extend_ttl(threshold, extend_to)`. -/
def extendInstance (env : Env) (threshold extendTo : ℕ) (ttl : Lifetimes K) : Lifetimes K :=
  { ttl with instanceUntil := extended env threshold extendTo ttl.instanceUntil }

/-- `persistent().extend_ttl(key, threshold, extend_to)`. -/
def extendEntry (env : Env) (threshold extendTo : ℕ) (key : K) (ttl : Lifetimes K) : Lifetimes K :=
  { ttl with
    entryUntil := Function.update ttl.entryUntil key
      (extended env threshold extendTo (ttl.entryUntil key)) }

/-- The last ledger a new entry is live in. The ledger it is written in counts. -/
def minLiveUntil (env : Env) : ℕ := env.clock.sequence + (env.minPersistentTtl - 1)

/-- The lifetime effect of `persistent().set(key, _)`: an entry that did not exist gets the
network's minimum lifetime, an existing one keeps its own. -/
def onSet (env : Env) (present : Bool) (key : K) (ttl : Lifetimes K) : Lifetimes K :=
  if present then ttl
  else { ttl with entryUntil := Function.update ttl.entryUntil key (minLiveUntil env) }

/-- Lifetimes of a contract that has stored nothing yet. -/
def fresh (env : Env) : Lifetimes K where
  instanceUntil := minLiveUntil env
  entryUntil _ := env.clock.sequence

section Twice

variable {env : Env} {threshold extendTo : ℕ} (h : threshold ≤ extendTo)
include h

/-- Extending an entry twice in one ledger is extending it once. -/
theorem extended_extended (liveUntil : ℕ) :
    extended env threshold extendTo (extended env threshold extendTo liveUntil) =
      extended env threshold extendTo liveUntil := by
  by_cases hlow : liveUntil - env.clock.sequence < threshold
  · have hfull : ¬ env.clock.sequence + extendTo - env.clock.sequence < threshold := by omega
    simp only [extended, if_pos hlow, if_neg hfull]
  · simp only [extended, if_neg hlow]

omit [DecidableEq K] in
theorem extendInstance_extendInstance (ttl : Lifetimes K) :
    (ttl.extendInstance env threshold extendTo).extendInstance env threshold extendTo =
      ttl.extendInstance env threshold extendTo := by
  simp only [extendInstance, extended_extended h]

theorem extendEntry_extendEntry (key : K) (ttl : Lifetimes K) :
    (ttl.extendEntry env threshold extendTo key).extendEntry env threshold extendTo key =
      ttl.extendEntry env threshold extendTo key := by
  simp only [extendEntry, Function.update_self, Function.update_idem, extended_extended h]

end Twice

end Lifetimes

end Soroban
