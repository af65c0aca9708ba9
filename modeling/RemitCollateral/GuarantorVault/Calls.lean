import RemitCollateral.GuarantorVault.Spec
import RemitCollateral.Host.Machine

/-! # Runs of the vault

The entry points of the vault as one type of calls, what each of them does to records, events and
tokens, and the machine whose runs are all runs of the vault against a standard token. Tokens may
also move outside the vault: only the vault lowers its own token balance. -/

namespace RemitCollateral.GuarantorVault

open Soroban

/-- The entry points that write storage. -/
inductive Call
  | setLoanLedger (admin ledger : Address)
  | setLiquidationEngine (admin engine : Address)
  | scheduleAction (admin : Address) (action : Action)
  | executeAction (admin : Address)
  | cancelAction (admin : Address)
  | proposeAdmin (admin newAdmin : Address)
  | acceptAdmin (newAdmin : Address)
  | deposit (guarantor : Address) (amount : ℤ)
  | withdraw (guarantor : Address) (amount : ℤ)
  | lockCollateral (caller guarantor : Address) (amount : ℤ)
  | releaseCollateral (caller guarantor : Address) (amount : ℤ)
  | forfeitCollateral (caller guarantor : Address) (amount : ℤ)
  | getVault (guarantor : Address)
  | getBalance (guarantor : Address)
  | getLocked (guarantor : Address)
  | getAvailable (guarantor : Address)
  deriving DecidableEq, Repr

/-- The guarantor whose collateral a call moves. -/
def Call.guarantor : Call → Option Address
  | .deposit guarantor _ | .withdraw guarantor _ => some guarantor
  | .lockCollateral _ guarantor _ | .releaseCollateral _ guarantor _ => some guarantor
  | .forfeitCollateral _ guarantor _ => some guarantor
  | _ => none

variable {T : Type}

/-- Run an operation that does not call the token. -/
def onVault (operation : State → Result Error State) (w : World T) : Result Error (World T) := do
  let s ← operation w.vault
  pure { w with vault := s }

variable (tokens : Address → TokenClient T) (env : Env)

/-- Run one call. -/
def exec : Call → World T → Result Error (World T)
  | .setLoanLedger admin ledger => onVault (setLoanLedger env admin ledger)
  | .setLiquidationEngine admin engine => onVault (setLiquidationEngine env admin engine)
  | .scheduleAction admin action => onVault (scheduleAction env admin action)
  | .executeAction admin => onVault (executeAction env admin)
  | .cancelAction admin => onVault (cancelAction env admin)
  | .proposeAdmin admin newAdmin => onVault (proposeAdmin env admin newAdmin)
  | .acceptAdmin newAdmin => onVault (acceptAdmin env newAdmin)
  | .deposit guarantor amount => deposit tokens env guarantor amount
  | .withdraw guarantor amount => withdraw tokens env guarantor amount
  | .lockCollateral caller guarantor amount => onVault (lockCollateral env caller guarantor amount)
  | .releaseCollateral caller guarantor amount =>
      onVault (releaseCollateral env caller guarantor amount)
  | .forfeitCollateral caller guarantor amount =>
      forfeitCollateral tokens env caller guarantor amount
  | .getVault guarantor => onVault fun s => pure (getVault env guarantor s).2
  | .getBalance guarantor => onVault fun s => pure (getBalance env guarantor s).2
  | .getLocked guarantor => onVault fun s => pure (getLocked env guarantor s).2
  | .getAvailable guarantor => onVault fun s => (·.2) <$> getAvailable env guarantor s

@[simp] theorem onVault_eq_ok {operation : State → Result Error State} {w w' : World T} :
    onVault operation w = .ok w' ↔
      ∃ s', operation w.vault = .ok s' ∧ { w with vault := s' } = w' := by
  simp [onVault]

/-! ## What a call does -/

/-- A call that leaves records, events, the lock and the token address alone, and unsets nothing. -/
structure Quiet (s s' : State) : Prop where
  vaults : s'.vaults = s.vaults
  events : s'.events = s.events
  lock : s'.reentrancyLock = s.reentrancyLock
  usdcToken : s'.usdcToken = s.usdcToken
  settlement : s.settlementAddress.isSome → s'.settlementAddress.isSome
  loanLedger : ∀ ledger, s.loanLedger = some ledger → s'.loanLedger = some ledger
  liquidationEngine :
    ∀ engine, s.liquidationEngine = some engine → s'.liquidationEngine = some engine

/-- The effect of a call on a world whose token is `tok`: the five collateral operations move
exactly their amount under exactly their conditions, every other call is quiet. -/
def Effect (tok : StandardToken T) (w w' : World T) : Call → Prop
  | .deposit g amount => env.authorized g ∧ 0 < amount ∧
      ∃ t', tok.transfer w.token g env.currentContract amount = some t' ∧
        g ≠ env.currentContract ∧ InI128 (w.vault.collateralBalance g + amount) ∧
        World.mk (w.vault.adjust env .deposit g amount (w.vault.collateralBalance g + amount)
          (w.vault.lockedAmount g)) t' = w'
  | .withdraw g amount => env.authorized g ∧ 0 < amount ∧
      amount ≤ w.vault.collateralBalance g - w.vault.lockedAmount g ∧
      ∃ t', tok.transfer w.token env.currentContract g amount = some t' ∧
        World.mk (w.vault.adjust env .withdraw g amount (w.vault.collateralBalance g - amount)
          (w.vault.lockedAmount g)) t' = w'
  | .lockCollateral caller g amount =>
      env.authorized caller ∧ w.vault.loanLedger = some caller ∧ 0 < amount ∧
      amount ≤ w.vault.collateralBalance g - w.vault.lockedAmount g ∧
      World.mk (w.vault.adjust env .lock g amount (w.vault.collateralBalance g)
        (w.vault.lockedAmount g + amount)) w.token = w'
  | .releaseCollateral caller g amount => env.authorized caller ∧
      (w.vault.loanLedger = some caller ∨ w.vault.liquidationEngine = some caller) ∧ 0 < amount ∧
      amount ≤ w.vault.lockedAmount g ∧
      World.mk (w.vault.adjust env .release g amount (w.vault.collateralBalance g)
        (w.vault.lockedAmount g - amount)) w.token = w'
  | .forfeitCollateral caller g amount => env.authorized caller ∧
      w.vault.liquidationEngine = some caller ∧ 0 < amount ∧ amount ≤ w.vault.lockedAmount g ∧
      ∃ settlement, w.vault.settlementAddress = some settlement ∧
      ∃ t', tok.transfer w.token env.currentContract settlement amount = some t' ∧
        World.mk (w.vault.adjust env .forfeit g amount (w.vault.collateralBalance g - amount)
          (w.vault.lockedAmount g - amount)) t' = w'
  | _ => Quiet w.vault w'.vault ∧ w'.token = w.token

namespace Quiet

variable {s s' : State} (h : Quiet s s') (g : Address)
include h

theorem position : s'.position g = s.position g := by rw [State.position, h.vaults, State.position]

theorem collateralBalance : s'.collateralBalance g = s.collateralBalance g :=
  congrArg Vault.collateralBalance (h.position g)

theorem lockedAmount : s'.lockedAmount g = s.lockedAmount g :=
  congrArg Vault.lockedAmount (h.position g)

end Quiet

/-- Changing governance, settlement address, code and lifetimes is quiet. -/
theorem quiet_config (s : State) (governance : Governance Action) (settlement : Option Address)
    (wasm : Option BytesN32) (ttl : Lifetimes Address)
    (h : s.settlementAddress.isSome → settlement.isSome) :
    Quiet s { s with governance, settlementAddress := settlement, wasm, ttl } :=
  { vaults := rfl, events := rfl, lock := rfl, usdcToken := rfl, settlement := h,
    loanLedger := fun _ => id, liquidationEngine := fun _ => id }

section Quiet

variable {env} {s s' : State}

theorem vaultOf_quiet (g : Address) (s : State) : Quiet s (vaultOf env g s).2 := by
  unfold vaultOf
  cases s.vaults g <;> exact quiet_config s _ _ _ _ id

/-- The admin registers the ledger, once. -/
theorem setLoanLedger_eq_ok {admin ledger : Address} :
    setLoanLedger env admin ledger s = .ok s' ↔
      env.authorized admin ∧ s.governance.admin = some admin ∧ s.loanLedger = none ∧
        { extendInstance env s with loanLedger := some ledger } = s' := by
  simp only [setLoanLedger, bind_eq_ok, requireAdmin_eq_ok, exists_const, require_eq_ok,
    pure_eq_ok, and_assoc]
  exact Iff.rfl

/-- The admin registers the engine, once. -/
theorem setLiquidationEngine_eq_ok {admin engine : Address} :
    setLiquidationEngine env admin engine s = .ok s' ↔
      env.authorized admin ∧ s.governance.admin = some admin ∧ s.liquidationEngine = none ∧
        { extendInstance env s with liquidationEngine := some engine } = s' := by
  simp only [setLiquidationEngine, bind_eq_ok, requireAdmin_eq_ok, exists_const, require_eq_ok,
    pure_eq_ok, and_assoc]
  exact Iff.rfl

theorem setLoanLedger_quiet {admin ledger : Address}
    (h : setLoanLedger env admin ledger s = .ok s') : Quiet s s' := by
  obtain ⟨-, -, hnone, rfl⟩ := setLoanLedger_eq_ok.mp h
  exact { vaults := rfl, events := rfl, lock := rfl, usdcToken := rfl, settlement := id,
          loanLedger := fun a ha => absurd (ha.symm.trans hnone) (by simp)
          liquidationEngine := fun _ => id }

theorem setLiquidationEngine_quiet {admin engine : Address}
    (h : setLiquidationEngine env admin engine s = .ok s') : Quiet s s' := by
  obtain ⟨-, -, hnone, rfl⟩ := setLiquidationEngine_eq_ok.mp h
  exact { vaults := rfl, events := rfl, lock := rfl, usdcToken := rfl, settlement := id,
          loanLedger := fun _ => id
          liquidationEngine := fun a ha => absurd (ha.symm.trans hnone) (by simp) }

theorem scheduleAction_quiet {admin : Address} {action : Action}
    (h : scheduleAction env admin action s = .ok s') : Quiet s s' := by
  simp only [scheduleAction, bind_eq_ok, pure_eq_ok] at h
  obtain ⟨governance, -, rfl⟩ := h
  exact quiet_config s governance _ _ _ id

theorem executeAction_quiet {admin : Address} (h : executeAction env admin s = .ok s') :
    Quiet s s' := by
  simp only [executeAction, bind_eq_ok] at h
  obtain ⟨⟨action, governance⟩, -, h⟩ := h
  cases action with
  | upgrade wasmHash =>
      obtain rfl := pure_eq_ok.mp h
      exact quiet_config s governance _ _ _ id
  | setSettlement settlement =>
      obtain rfl := pure_eq_ok.mp h
      exact quiet_config s governance _ _ _ fun _ => rfl

theorem cancelAction_quiet {admin : Address} (h : cancelAction env admin s = .ok s') :
    Quiet s s' := by
  simp only [cancelAction, bind_eq_ok, pure_eq_ok] at h
  obtain ⟨governance, -, rfl⟩ := h
  exact quiet_config s governance _ _ _ id

theorem proposeAdmin_quiet {admin newAdmin : Address}
    (h : proposeAdmin env admin newAdmin s = .ok s') : Quiet s s' := by
  simp only [proposeAdmin, bind_eq_ok, pure_eq_ok] at h
  obtain ⟨governance, -, rfl⟩ := h
  exact quiet_config s governance _ _ _ id

theorem acceptAdmin_quiet {newAdmin : Address} (h : acceptAdmin env newAdmin s = .ok s') :
    Quiet s s' := by
  simp only [acceptAdmin, bind_eq_ok, pure_eq_ok] at h
  obtain ⟨governance, -, rfl⟩ := h
  exact quiet_config s governance _ _ _ id

theorem getAvailable_quiet {g : Address} {available : ℤ}
    (h : getAvailable env g s = .ok (available, s')) : Quiet s s' := by
  simp only [getAvailable, bind_eq_ok, i128_eq_ok, pure_eq_ok, Prod.mk.injEq] at h
  obtain ⟨-, -, -, rfl⟩ := h
  exact vaultOf_quiet g s

end Quiet

/-- A call that moves no collateral is quiet, and does not reach the token. -/
theorem exec_quiet {tokens : Address → TokenClient T} {env : Env} {call : Call} {w w' : World T}
    (hcall : call.guarantor = none) (h : exec tokens env call w = .ok w') :
    Quiet w.vault w'.vault ∧ w'.token = w.token := by
  cases call with
  | setLoanLedger admin ledger =>
      obtain ⟨s', hs, rfl⟩ := onVault_eq_ok.mp h
      exact ⟨setLoanLedger_quiet hs, rfl⟩
  | setLiquidationEngine admin engine =>
      obtain ⟨s', hs, rfl⟩ := onVault_eq_ok.mp h
      exact ⟨setLiquidationEngine_quiet hs, rfl⟩
  | scheduleAction admin action =>
      obtain ⟨s', hs, rfl⟩ := onVault_eq_ok.mp h
      exact ⟨scheduleAction_quiet hs, rfl⟩
  | executeAction admin =>
      obtain ⟨s', hs, rfl⟩ := onVault_eq_ok.mp h
      exact ⟨executeAction_quiet hs, rfl⟩
  | cancelAction admin =>
      obtain ⟨s', hs, rfl⟩ := onVault_eq_ok.mp h
      exact ⟨cancelAction_quiet hs, rfl⟩
  | proposeAdmin admin newAdmin =>
      obtain ⟨s', hs, rfl⟩ := onVault_eq_ok.mp h
      exact ⟨proposeAdmin_quiet hs, rfl⟩
  | acceptAdmin newAdmin =>
      obtain ⟨s', hs, rfl⟩ := onVault_eq_ok.mp h
      exact ⟨acceptAdmin_quiet hs, rfl⟩
  | getVault g | getBalance g | getLocked g =>
      simp only [exec, onVault_eq_ok, pure_eq_ok, exists_eq_left'] at h
      obtain rfl := h
      exact ⟨vaultOf_quiet g w.vault, rfl⟩
  | getAvailable g =>
      simp only [exec, onVault_eq_ok, map_eq_ok] at h
      obtain ⟨-, ⟨⟨available, s'⟩, hget, rfl⟩, rfl⟩ := h
      exact ⟨getAvailable_quiet hget, rfl⟩
  | _ => cases hcall

/-- Every call has its effect. -/
theorem exec_effect {tokens : Address → TokenClient T} {env : Env} {tok : StandardToken T}
    {call : Call} {w w' : World T} (hsound : w.vault.Sound) (huses : w.vault.Uses tokens tok)
    (h : exec tokens env call w = .ok w') : Effect env tok w w' call := by
  cases call with
  | deposit g amount => exact ((deposit_eq_ok hsound huses).mp h).2
  | withdraw g amount => exact ((withdraw_eq_ok hsound huses).mp h).2
  | lockCollateral caller g amount =>
      obtain ⟨s', hs, rfl⟩ := onVault_eq_ok.mp h
      obtain ⟨-, hauth, hcaller, hpos, hfree, rfl⟩ := (lockCollateral_eq_ok hsound).mp hs
      exact ⟨hauth, hcaller, hpos, hfree, rfl⟩
  | releaseCollateral caller g amount =>
      obtain ⟨s', hs, rfl⟩ := onVault_eq_ok.mp h
      obtain ⟨-, hauth, hcaller, hpos, hheld, rfl⟩ := (releaseCollateral_eq_ok hsound).mp hs
      exact ⟨hauth, hcaller, hpos, hheld, rfl⟩
  | forfeitCollateral caller g amount => exact ((forfeitCollateral_eq_ok hsound huses).mp h).2
  | _ => exact exec_quiet rfl h

/-! ## Contracts once registered -/

section Registered

variable {env : Env} {tok : StandardToken T} {w w' : World T} {call : Call}

theorem setLoanLedger_sets {s s' : State} {admin ledger : Address}
    (h : setLoanLedger env admin ledger s = .ok s') : s'.loanLedger = some ledger := by
  obtain ⟨-, -, -, rfl⟩ := setLoanLedger_eq_ok.mp h
  rfl

theorem setLiquidationEngine_sets {s s' : State} {admin engine : Address}
    (h : setLiquidationEngine env admin engine s = .ok s') :
    s'.liquidationEngine = some engine := by
  obtain ⟨-, -, -, rfl⟩ := setLiquidationEngine_eq_ok.mp h
  rfl

/-- No call replaces the ledger. -/
theorem Effect.loanLedger (h : Effect env tok w w' call) {ledger : Address}
    (hledger : w.vault.loanLedger = some ledger) : w'.vault.loanLedger = some ledger := by
  cases call with
  | deposit =>
      obtain ⟨-, -, t', -, -, -, rfl⟩ := h
      exact hledger
  | withdraw =>
      obtain ⟨-, -, -, t', -, rfl⟩ := h
      exact hledger
  | lockCollateral | releaseCollateral =>
      obtain ⟨-, -, -, -, rfl⟩ := h
      exact hledger
  | forfeitCollateral =>
      obtain ⟨-, -, -, -, settlement, -, t', -, rfl⟩ := h
      exact hledger
  | _ => exact h.1.loanLedger ledger hledger

/-- No call replaces the engine. -/
theorem Effect.liquidationEngine (h : Effect env tok w w' call) {engine : Address}
    (hengine : w.vault.liquidationEngine = some engine) :
    w'.vault.liquidationEngine = some engine := by
  cases call with
  | deposit =>
      obtain ⟨-, -, t', -, -, -, rfl⟩ := h
      exact hengine
  | withdraw =>
      obtain ⟨-, -, -, t', -, rfl⟩ := h
      exact hengine
  | lockCollateral | releaseCollateral =>
      obtain ⟨-, -, -, -, rfl⟩ := h
      exact hengine
  | forfeitCollateral =>
      obtain ⟨-, -, -, -, settlement, -, t', -, rfl⟩ := h
      exact hengine
  | _ => exact h.1.liquidationEngine engine hengine

end Registered

/-! ## The invariant of a run -/

namespace State.Sound

variable {s s' : State}

/-- A fresh vault has no records. -/
theorem construct (env : Env) (admin usdc settlement : Address) (timelockSecs : ℕ) :
    (GuarantorVault.construct env admin usdc settlement timelockSecs).Sound where
  keyed _ _ hv := by cases hv
  locked_nonneg _ := le_refl _
  locked_le _ := le_refl _
  balance_i128 _ := (by decide : InI128 0)

/-- Replacing a record by another sound one keeps the invariant. -/
theorem adjust (h : s.Sound) (env : Env) (topic : Topic) (g : Address) (amount : ℤ)
    {balance locked : ℤ} (h0 : 0 ≤ locked) (hle : locked ≤ balance) (hb : InI128 balance) :
    (s.adjust env topic g amount balance locked).Sound where
  keyed g' vault hv := by
    by_cases heq : g' = g
    · subst heq
      rw [vaults_adjust, Function.update_self] at hv
      obtain rfl := Option.some.inj hv
      rfl
    · rw [vaults_adjust, Function.update_of_ne heq] at hv
      exact h.keyed g' vault hv
  locked_nonneg g' := by
    rw [lockedAmount_adjust]; split
    · exact h0
    · exact h.locked_nonneg g'
  locked_le g' := by
    rw [lockedAmount_adjust, collateralBalance_adjust]; split
    · exact hle
    · exact h.locked_le g'
  balance_i128 g' := by
    rw [collateralBalance_adjust]; split
    · exact hb
    · exact h.balance_i128 g'

/-- A quiet call keeps the invariant. -/
theorem quiet (h : s.Sound) (hq : Quiet s s') : s'.Sound where
  keyed := hq.vaults ▸ h.keyed
  locked_nonneg g := hq.lockedAmount g ▸ h.locked_nonneg g
  locked_le g := hq.lockedAmount g ▸ hq.collateralBalance g ▸ h.locked_le g
  balance_i128 g := hq.collateralBalance g ▸ h.balance_i128 g

end State.Sound

end RemitCollateral.GuarantorVault
