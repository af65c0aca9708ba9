import RemitCollateral.GuarantorVault.Model

/-! # What each vault operation does

Every collateral operation checks its conditions, replaces the one record it is about and publishes
one event. This file states that once per operation, as the exact condition for it to return
together with the state it leaves, over a token that behaves as a standard asset contract. Later
files cite these specifications and never unfold the operations again. -/

namespace RemitCollateral.GuarantorVault

open Soroban

/-! ## Standard asset contracts -/

/-- A token that behaves as a standard asset contract: balances are never negative, a transfer moves
exactly its amount and succeeds whenever the sender holds it. -/
structure StandardToken (T : Type) where
  balance : T → Address → ℤ
  transfer : T → Address → Address → ℤ → Option T
  balance_nonneg : ∀ t a, 0 ≤ balance t a
  transfer_moves : ∀ {t src dst amount t'}, transfer t src dst amount = some t' →
    ∀ a, balance t' a =
      balance t a - (if a = src then amount else 0) + (if a = dst then amount else 0)
  transfer_succeeds : ∀ {t src dst amount}, 0 ≤ amount → amount ≤ balance t src →
    (transfer t src dst amount).isSome

variable {T : Type}

/-- The client of a standard token, which never calls back. -/
def StandardToken.client (tok : StandardToken T) : TokenClient T where
  balance a w := some (tok.balance w.token a, w)
  transfer src dst amount w :=
    (tok.transfer w.token src dst amount).map fun token => { w with token }

/-- The token contract at the vault's `UsdcToken` address is `tok`. -/
def State.Uses (s : State) (tokens : Address → TokenClient T) (tok : StandardToken T) : Prop :=
  ∃ usdc, s.usdcToken = some usdc ∧ tokens usdc = tok.client

theorem StandardToken.client_balance (tok : StandardToken T) (a : Address) (w : World T) :
    tok.client.balance a w = some (tok.balance w.token a, w) := rfl

theorem StandardToken.client_transfer_eq_some {tok : StandardToken T} {src dst : Address}
    {amount : ℤ} {w w' : World T} :
    tok.client.transfer src dst amount w = some w' ↔
      ∃ t', tok.transfer w.token src dst amount = some t' ∧ { w with token := t' } = w' := by
  simp [StandardToken.client]

/-- Move `amount` from `src` to `dst` in a table of balances. -/
def moveBalance (t : Address → ℕ) (src dst : Address) (amount : ℕ) : Address → ℕ :=
  let debited := Function.update t src (t src - amount)
  Function.update debited dst (debited dst + amount)

/-- A standard token that only keeps balances. -/
def tableToken : StandardToken (Address → ℕ) where
  balance t a := t a
  transfer t src dst amount :=
    if 0 ≤ amount ∧ amount ≤ t src then some (moveBalance t src dst amount.toNat) else none
  balance_nonneg _ _ := Int.natCast_nonneg _
  transfer_moves := by
    intro t src dst amount t' h a
    obtain ⟨⟨h0, hle⟩, hmove⟩ := Option.ite_none_right_eq_some.mp h
    obtain rfl := Option.some.inj hmove
    simp only [moveBalance, Function.update_apply]
    grind
  transfer_succeeds := by
    intro t src dst amount h0 hle
    simp [h0, hle]

/-! ## Records -/

/-- The position of `guarantor`: its record, or the empty one. -/
def State.position (s : State) (guarantor : Address) : Vault :=
  (s.vaults guarantor).getD { guarantor, collateralBalance := 0, lockedAmount := 0 }

/-- `collateral_balance` of `guarantor`. -/
def State.collateralBalance (s : State) (guarantor : Address) : ℤ :=
  (s.position guarantor).collateralBalance

/-- `locked_amount` of `guarantor`. -/
def State.lockedAmount (s : State) (guarantor : Address) : ℤ :=
  (s.position guarantor).lockedAmount

@[simp] theorem position_collateralBalance (s : State) (g : Address) :
    (s.position g).collateralBalance = s.collateralBalance g := rfl

@[simp] theorem position_lockedAmount (s : State) (g : Address) :
    (s.position g).lockedAmount = s.lockedAmount g := rfl

/-- The accounting invariant: every record is stored under its own guarantor, and its locked part is
between zero and its balance, which fits `i128`. -/
structure State.Sound (s : State) : Prop where
  keyed : ∀ g vault, s.vaults g = some vault → vault.guarantor = g
  locked_nonneg : ∀ g, 0 ≤ s.lockedAmount g
  locked_le : ∀ g, s.lockedAmount g ≤ s.collateralBalance g
  balance_i128 : ∀ g, InI128 (s.collateralBalance g)

namespace State.Sound

variable {s : State} (h : s.Sound) (g : Address)
include h

theorem position_guarantor : (s.position g).guarantor = g := by
  unfold State.position
  cases hv : s.vaults g with
  | none => rfl
  | some vault => exact h.keyed g vault hv

theorem balance_nonneg : 0 ≤ s.collateralBalance g :=
  le_trans (h.locked_nonneg g) (h.locked_le g)

/-- Every amount up to a balance fits `i128`. -/
theorem i128_of_le {x : ℤ} (h0 : 0 ≤ x) (hx : x ≤ s.collateralBalance g) : InI128 x :=
  (h.balance_i128 g).of_nonneg_of_le h0 hx

end State.Sound

/-- The lifetimes after an operation has read the record of `guarantor`. -/
def readTtl (env : Env) (guarantor : Address) (s : State) : Lifetimes Address :=
  (vaultOf env guarantor (extendInstance env s)).2.ttl

/-- The lifetimes after an operation has replaced the record of `guarantor`. -/
def savedTtl (env : Env) (guarantor : Address) (s : State) : Lifetimes Address :=
  ((readTtl env guarantor s).onSet env (s.vaults guarantor).isSome guarantor).extendEntry
    env threshold extendTo guarantor

/-- The state an operation leaves: one record replaced, one event published, the lock clear. -/
def State.adjust (s : State) (env : Env) (topic : Topic) (guarantor : Address) (amount : ℤ)
    (collateralBalance lockedAmount : ℤ) : State :=
  { s with
    vaults := Function.update s.vaults guarantor
      (some { guarantor, collateralBalance, lockedAmount })
    reentrancyLock := false
    ttl := savedTtl env guarantor s
    events := { topic, guarantor, amount, collateralBalance, lockedAmount } :: s.events }

section Adjust

variable (s : State) (env : Env) (topic : Topic) (g : Address) (amount balance locked : ℤ)

theorem vaults_adjust :
    (s.adjust env topic g amount balance locked).vaults = Function.update s.vaults g
      (some { guarantor := g, collateralBalance := balance, lockedAmount := locked }) := rfl

theorem position_adjust (g' : Address) :
    (s.adjust env topic g amount balance locked).position g' =
      if g' = g then { guarantor := g, collateralBalance := balance, lockedAmount := locked }
      else s.position g' := by
  by_cases h : g' = g
  · subst h; simp [State.position, State.adjust]
  · simp [State.position, State.adjust, h]

theorem collateralBalance_adjust (g' : Address) :
    (s.adjust env topic g amount balance locked).collateralBalance g' =
      if g' = g then balance else s.collateralBalance g' := by
  unfold State.collateralBalance
  rw [position_adjust]
  split <;> rfl

theorem lockedAmount_adjust (g' : Address) :
    (s.adjust env topic g amount balance locked).lockedAmount g' =
      if g' = g then locked else s.lockedAmount g' := by
  unfold State.lockedAmount
  rw [position_adjust]
  split <;> rfl

end Adjust

/-! ## The steps of an operation -/

@[simp] theorem enter_eq_ok {s s' : State} :
    enter s = .ok s' ↔ s.reentrancyLock = false ∧ { s with reentrancyLock := true } = s' := by
  simp [enter]

@[simp] theorem extendInstance_loanLedger (env : Env) (s : State) :
    (extendInstance env s).loanLedger = s.loanLedger := rfl

@[simp] theorem extendInstance_liquidationEngine (env : Env) (s : State) :
    (extendInstance env s).liquidationEngine = s.liquidationEngine := rfl

@[simp] theorem usdcClient_extendInstance {T : Type} (tokens : Address → TokenClient T) (env : Env)
    (s : State) : usdcClient tokens (extendInstance env s) = usdcClient tokens s := rfl

/-- Reading a record returns the guarantor's position and changes lifetimes only. -/
theorem vaultOf_locked (env : Env) (g : Address) (s : State) :
    vaultOf env g (extendInstance env { s with reentrancyLock := true }) =
      (s.position g, { s with reentrancyLock := true, ttl := readTtl env g s }) := by
  cases h : s.vaults g <;> simp [vaultOf, extendInstance, readTtl, State.position, h]

@[simp] theorem requireAdmin_eq_ok {env : Env} {admin : Address} {s : State} {u : Unit} :
    requireAdmin env admin s = .ok u ↔ env.authorized admin ∧ s.governance.admin = some admin :=
  Governance.requireAdmin_eq_ok

@[simp] theorem requireLedger_eq_ok {caller : Address} {s : State} {u : Unit} :
    requireLedger caller s = .ok u ↔ s.loanLedger = some caller := by
  simp [requireLedger]

@[simp] theorem requireEngine_eq_ok {caller : Address} {s : State} {u : Unit} :
    requireEngine caller s = .ok u ↔ s.liquidationEngine = some caller := by
  simp [requireEngine]

@[simp] theorem requireLedgerOrEngine_eq_ok {caller : Address} {s : State} {u : Unit} :
    requireLedgerOrEngine caller s = .ok u ↔
      s.loanLedger = some caller ∨ s.liquidationEngine = some caller := by
  simp [requireLedgerOrEngine]

@[simp] theorem save_eq_ok {env : Env} {v : Vault} {s s' : State} :
    save env v s = .ok s' ↔ 0 ≤ v.collateralBalance ∧ 0 ≤ v.lockedAmount ∧
      v.lockedAmount ≤ v.collateralBalance ∧
      { s with
        vaults := Function.update s.vaults v.guarantor (some v)
        ttl := (s.ttl.onSet env (s.vaults v.guarantor).isSome v.guarantor).extendEntry
          env threshold extendTo v.guarantor } = s' := by
  simp [save]

/-- A vault that uses a standard token finds that token's client. -/
theorem State.Uses.usdcClient_eq_ok {T : Type} {tokens : Address → TokenClient T}
    {tok : StandardToken T} {s s' : State} (h : s.Uses tokens tok)
    (hs : s'.usdcToken = s.usdcToken) {client : TokenClient T} :
    usdcClient tokens s' = .ok client ↔ tok.client = client := by
  obtain ⟨usdc, husdc, htok⟩ := h
  simp [usdcClient, hs, husdc, htok]

/-! ## The protocol operations -/

section Operations

variable {env : Env} {g caller : Address} {amount : ℤ} {s s' : State}

/-- **Lock.** The ledger may lock any amount the guarantor has available. -/
theorem lockCollateral_eq_ok (h : s.Sound) :
    lockCollateral env caller g amount s = .ok s' ↔
      s.reentrancyLock = false ∧ env.authorized caller ∧ s.loanLedger = some caller ∧ 0 < amount ∧
      amount ≤ s.collateralBalance g - s.lockedAmount g ∧
      s.adjust env .lock g amount (s.collateralBalance g) (s.lockedAmount g + amount) = s' := by
  have h0 := h.locked_nonneg g
  have hle := h.locked_le g
  unfold lockCollateral
  simp only [vaultOf_locked, h.position_guarantor, bind_eq_ok, enter_eq_ok, Env.requireAuth_eq_ok,
    requireLedger_eq_ok, require_eq_ok, i128_eq_ok, save_eq_ok, pure_eq_ok,
    extendInstance_loanLedger, exists_const, and_assoc, exists_and_left, exists_eq_left',
    position_collateralBalance, position_lockedAmount]
  constructor
  · rintro ⟨hlock, hauth, hcaller, hpos, -, havail, -, -, -, -, hs'⟩
    exact ⟨hlock, hauth, hcaller, hpos, havail, hs'⟩
  · rintro ⟨hlock, hauth, hcaller, hpos, havail, hs'⟩
    -- the checked arithmetic and the assertions hold of every sound record
    have hfree : InI128 (s.collateralBalance g - s.lockedAmount g) :=
      h.i128_of_le g (by omega) (by omega)
    have hnew := h.i128_of_le g (x := s.lockedAmount g + amount) (by omega) (by omega)
    exact ⟨hlock, hauth, hcaller, hpos, hfree, havail, hnew, h.balance_nonneg g, by omega, by omega,
      hs'⟩

/-- **Release.** The ledger or the engine may release any amount that is locked. -/
theorem releaseCollateral_eq_ok (h : s.Sound) :
    releaseCollateral env caller g amount s = .ok s' ↔
      s.reentrancyLock = false ∧ env.authorized caller ∧
      (s.loanLedger = some caller ∨ s.liquidationEngine = some caller) ∧ 0 < amount ∧
      amount ≤ s.lockedAmount g ∧
      s.adjust env .release g amount (s.collateralBalance g) (s.lockedAmount g - amount) = s' := by
  have h0 := h.locked_nonneg g
  have hle := h.locked_le g
  unfold releaseCollateral
  simp only [vaultOf_locked, h.position_guarantor, bind_eq_ok, enter_eq_ok, Env.requireAuth_eq_ok,
    requireLedgerOrEngine_eq_ok, require_eq_ok, i128_eq_ok, save_eq_ok, pure_eq_ok,
    extendInstance_loanLedger, extendInstance_liquidationEngine, exists_const, and_assoc,
    exists_and_left, exists_eq_left', position_collateralBalance, position_lockedAmount]
  constructor
  · rintro ⟨hlock, hauth, hcaller, hpos, hheld, -, -, -, -, hs'⟩
    exact ⟨hlock, hauth, hcaller, hpos, hheld, hs'⟩
  · rintro ⟨hlock, hauth, hcaller, hpos, hheld, hs'⟩
    have hnew := h.i128_of_le g (x := s.lockedAmount g - amount) (by omega) (by omega)
    exact ⟨hlock, hauth, hcaller, hpos, hheld, hnew, h.balance_nonneg g, by omega, by omega, hs'⟩

variable {T : Type} {tokens : Address → TokenClient T} {tok : StandardToken T} {w w' : World T}

/-- **Forfeit.** The engine may seize any amount that is locked; its tokens go to the settlement
address. -/
theorem forfeitCollateral_eq_ok (h : w.vault.Sound) (huses : w.vault.Uses tokens tok) :
    forfeitCollateral tokens env caller g amount w = .ok w' ↔
      w.vault.reentrancyLock = false ∧ env.authorized caller ∧
      w.vault.liquidationEngine = some caller ∧ 0 < amount ∧ amount ≤ w.vault.lockedAmount g ∧
      ∃ settlement, w.vault.settlementAddress = some settlement ∧
      ∃ t', tok.transfer w.token env.currentContract settlement amount = some t' ∧
        World.mk (w.vault.adjust env .forfeit g amount (w.vault.collateralBalance g - amount)
          (w.vault.lockedAmount g - amount)) t' = w' := by
  have h0 := h.locked_nonneg g
  have hle := h.locked_le g
  unfold forfeitCollateral
  simp only [vaultOf_locked, h.position_guarantor, bind_eq_ok, enter_eq_ok, Env.requireAuth_eq_ok,
    requireEngine_eq_ok, require_eq_ok, i128_eq_ok, save_eq_ok, pure_eq_ok, orPanic_eq_ok,
    huses.usdcClient_eq_ok, callee_eq_ok, StandardToken.client_transfer_eq_some,
    extendInstance_liquidationEngine, exists_const, and_assoc, exists_and_left, exists_eq_left',
    exists_exists_and_eq_and, position_collateralBalance, position_lockedAmount]
  constructor
  · rintro ⟨hlock, hauth, hcaller, hpos, hheld, -, -, -, -, -, settlement, hset, t', ht, hw'⟩
    exact ⟨hlock, hauth, hcaller, hpos, hheld, settlement, hset, t', ht, hw'⟩
  · rintro ⟨hlock, hauth, hcaller, hpos, hheld, settlement, hset, t', ht, hw'⟩
    have hlocked := h.i128_of_le g (x := w.vault.lockedAmount g - amount) (by omega) (by omega)
    have hbalance : InI128 (w.vault.collateralBalance g - amount) :=
      h.i128_of_le g (by omega) (by omega)
    exact ⟨hlock, hauth, hcaller, hpos, hheld, hlocked, hbalance, by omega, by omega, by omega,
      settlement, hset, t', ht, hw'⟩

/-! ## The guarantor operations -/

/-- Tokens reach a contract exactly when they come from another address. -/
theorem StandardToken.received_iff {t t' : T} {src dst : Address} (hpos : 0 < amount)
    (ht : tok.transfer t src dst amount = some t') :
    tok.balance t' dst - tok.balance t dst = amount ↔ src ≠ dst := by
  have hmoves := tok.transfer_moves ht dst
  by_cases heq : dst = src
  · -- a transfer to oneself moves nothing, so no positive amount is ever received by it
    simp only [heq, if_true] at hmoves ⊢
    exact ⟨fun h => by omega, fun h => absurd rfl h⟩
  · simp only [heq, if_true, if_false] at hmoves
    exact ⟨fun _ => Ne.symm heq, fun _ => by omega⟩

/-- **Deposit.** A guarantor other than the vault itself may deposit any amount that its wallet pays
and that its record can hold. -/
theorem deposit_eq_ok (h : w.vault.Sound) (huses : w.vault.Uses tokens tok) :
    deposit tokens env g amount w = .ok w' ↔
      w.vault.reentrancyLock = false ∧ env.authorized g ∧ 0 < amount ∧
      ∃ t', tok.transfer w.token g env.currentContract amount = some t' ∧
        g ≠ env.currentContract ∧ InI128 (w.vault.collateralBalance g + amount) ∧
        World.mk (w.vault.adjust env .deposit g amount (w.vault.collateralBalance g + amount)
          (w.vault.lockedAmount g)) t' = w' := by
  have h0 := h.locked_nonneg g
  have hle := h.locked_le g
  unfold deposit
  simp only [vaultOf_locked, h.position_guarantor, bind_eq_ok, enter_eq_ok, Env.requireAuth_eq_ok,
    require_eq_ok, i128_eq_ok, save_eq_ok, pure_eq_ok, usdcClient_extendInstance,
    huses.usdcClient_eq_ok, callee_eq_ok, StandardToken.client_transfer_eq_some,
    StandardToken.client_balance, Option.some.injEq, exists_const, and_assoc, exists_and_left,
    exists_eq_left', exists_exists_and_eq_and, position_collateralBalance, position_lockedAmount]
  constructor
  · rintro ⟨hlock, hauth, hpos, t', ht, -, hgain, hnew, -, -, -, hw'⟩
    exact ⟨hlock, hauth, hpos, t', ht, (tok.received_iff hpos ht).mp hgain, hnew, hw'⟩
  · rintro ⟨hlock, hauth, hpos, t', ht, hne, hnew, hw'⟩
    have hgain := (tok.received_iff hpos ht).mpr hne
    -- the difference of the two balances is the amount, which the new record bounds
    have hamount : InI128 amount := hnew.of_nonneg_of_le (by omega) (by omega)
    exact ⟨hlock, hauth, hpos, t', ht, hgain.symm ▸ hamount, hgain, hnew, by omega, h0, by omega,
      hw'⟩

/-- **Withdraw.** A guarantor may withdraw any amount it has available. -/
theorem withdraw_eq_ok (h : w.vault.Sound) (huses : w.vault.Uses tokens tok) :
    withdraw tokens env g amount w = .ok w' ↔
      w.vault.reentrancyLock = false ∧ env.authorized g ∧ 0 < amount ∧
      amount ≤ w.vault.collateralBalance g - w.vault.lockedAmount g ∧
      ∃ t', tok.transfer w.token env.currentContract g amount = some t' ∧
        World.mk (w.vault.adjust env .withdraw g amount (w.vault.collateralBalance g - amount)
          (w.vault.lockedAmount g)) t' = w' := by
  have h0 := h.locked_nonneg g
  have hle := h.locked_le g
  unfold withdraw
  simp only [vaultOf_locked, h.position_guarantor, bind_eq_ok, enter_eq_ok, Env.requireAuth_eq_ok,
    require_eq_ok, i128_eq_ok, save_eq_ok, pure_eq_ok, huses.usdcClient_eq_ok, callee_eq_ok,
    StandardToken.client_transfer_eq_some, exists_const, and_assoc, exists_and_left,
    exists_eq_left', exists_exists_and_eq_and, position_collateralBalance, position_lockedAmount]
  constructor
  · rintro ⟨hlock, hauth, hpos, -, havail, -, -, -, -, t', ht, hw'⟩
    exact ⟨hlock, hauth, hpos, havail, t', ht, hw'⟩
  · rintro ⟨hlock, hauth, hpos, havail, t', ht, hw'⟩
    -- what is left is still at least what is locked
    have hfree := h.i128_of_le g (x := w.vault.collateralBalance g - w.vault.lockedAmount g)
      (by omega) (by omega)
    have hbalance : InI128 (w.vault.collateralBalance g - amount) :=
      h.i128_of_le g (by omega) (by omega)
    exact ⟨hlock, hauth, hpos, hfree, havail, hbalance, by omega, h0, by omega, t', ht, hw'⟩

end Operations

end RemitCollateral.GuarantorVault
