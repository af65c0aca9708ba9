import RemitCollateral.Host.Governance

/-! # LiquidationEngine — default detection and collateral settlement

The engine contract, translated function by function. The ledger and the vault it calls are
parameters: the functions take the clients found at each address, which act on the world `X` outside
this contract's storage. -/

namespace RemitCollateral.LiquidationEngine

open Soroban

/-- Ledgers per day at a 5-second ledger close time. -/
def dayInLedgers : ℕ := 17280

/-- Lifetime an entry is extended to, about 120 days. -/
def extendTo : ℕ := 120 * dayInLedgers

/-- Lifetime below which an entry is extended, about 90 days. -/
def threshold : ℕ := 90 * dayInLedgers

/-- The error codes of the contract. -/
inductive Error
  | notInitialized
  | notAuthorized
  | notOverdue
  | graceNotExpired
  | noPendingAction
  | actionPending
  | timelockNotExpired
  | paused
  deriving DecidableEq, Repr

/-- A sensitive admin change that must wait out the timelock before it runs. -/
inductive Action
  /-- Replace the contract's code, keeping its address and storage. -/
  | upgrade (wasmHash : BytesN32)
  deriving DecidableEq, Repr

/-- The contract's storage. It has instance entries only. -/
structure State where
  /-- `Admin`, `PendingAdmin`, `TimelockSecs`, `Scheduled`. -/
  governance : Governance Action
  vault : Option Address
  loanLedger : Option Address
  isPaused : Option Bool
  /-- The code that replaced this one, once an upgrade has executed. -/
  wasm : Option BytesN32
  /-- Lifetime of the instance. -/
  ttl : Lifetimes Empty

/-- The slice of LoanLedger this contract calls; `none` is a trap. The first argument is the
environment the ledger sees. -/
structure LedgerClient (X : Type) where
  isOverdue : Env → ℕ → X → Option (Bool × X)
  isGraceExpired : Env → ℕ → X → Option (Bool × X)
  loanGuarantor : Env → ℕ → X → Option (Address × X)
  loanOutstanding : Env → ℕ → X → Option (ℤ × X)
  loanCollateralRemaining : Env → ℕ → X → Option (ℤ × X)
  markGrace : Env → Address → ℕ → X → Option X
  markDefaulted : Env → Address → ℕ → X → Option X

/-- The slice of GuarantorVault this contract calls; `none` is a trap. The first argument is the
environment the vault sees. -/
structure VaultClient (X : Type) where
  releaseCollateral : Env → Address → Address → ℤ → X → Option X
  forfeitCollateral : Env → Address → Address → ℤ → X → Option X

/-- The error codes of the governance pattern. -/
def governanceErrors : GovernanceErrors Error where
  notInitialized := .notInitialized
  notAuthorized := .notAuthorized
  noPendingAction := .noPendingAction
  actionPending := .actionPending
  timelockNotExpired := .timelockNotExpired

variable {X : Type} (ledgers : Address → LedgerClient X) (vaults : Address → VaultClient X)
  (env : Env)

/-! ## Internals -/

/-- Keep the contract instance from being archived while the protocol is in use. -/
def extendInstance (s : State) : State :=
  { s with ttl := s.ttl.extendInstance env threshold extendTo }

/-- `admin` authorized the call and is the stored admin. -/
def requireAdmin (admin : Address) (s : State) : Result Error Unit :=
  s.governance.requireAdmin governanceErrors env admin

/-- Whether the engine is paused. -/
def paused (s : State) : Bool := s.isPaused.getD false

/-! ## Administration -/

/-- The constructor, which runs once inside the deploy transaction. -/
def construct (admin vault loanLedger : Address) (timelockSecs : ℕ) : State :=
  extendInstance env
    { governance := Governance.construct admin timelockSecs
      vault := some vault
      loanLedger := some loanLedger
      isPaused := none
      wasm := none
      ttl := Lifetimes.fresh env }

/-- Schedule an upgrade. -/
def scheduleAction (admin : Address) (action : Action) (s : State) : Result Error State := do
  let s := extendInstance env s
  let governance ← s.governance.scheduleAction governanceErrors env admin action
  pure { s with governance }

/-- Carry out the scheduled action once its timelock has elapsed. -/
def executeAction (admin : Address) (s : State) : Result Error State := do
  let s := extendInstance env s
  let (action, governance) ← s.governance.executeAction governanceErrors env admin
  match action with
  | .upgrade wasmHash => pure { s with governance, wasm := some wasmHash }

/-- Withdraw the scheduled action before it executes. -/
def cancelAction (admin : Address) (s : State) : Result Error State := do
  let s := extendInstance env s
  let governance ← s.governance.cancelAction governanceErrors env admin
  pure { s with governance }

/-- Begin handing the admin role to `newAdmin`. -/
def proposeAdmin (admin newAdmin : Address) (s : State) : Result Error State := do
  let governance ← s.governance.proposeAdmin governanceErrors env admin newAdmin
  pure (extendInstance env { s with governance })

/-- Complete a handover proposed by the current admin. -/
def acceptAdmin (newAdmin : Address) (s : State) : Result Error State := do
  let governance ← s.governance.acceptAdmin governanceErrors env newAdmin
  pure (extendInstance env { s with governance })

/-- Pause the liquidation engine in an emergency. -/
def pause (admin : Address) (s : State) : Result Error State := do
  requireAdmin env admin s
  pure { extendInstance env s with isPaused := some true }

/-- Resume normal liquidation operations. -/
def unpause (admin : Address) (s : State) : Result Error State := do
  requireAdmin env admin s
  pure { extendInstance env s with isPaused := some false }

/-! ## Cranks -/

/-- Start the grace period on an overdue loan. Permissionless. -/
def flagOverdue (loanId : ℕ) (s : State) (x : X) : Result Error (State × X) := do
  let s := extendInstance env s
  require (paused s = false) .paused
  let addr ← orPanic s.loanLedger .notInitialized
  let ledger := ledgers addr
  let (overdue, x) ← callee (ledger.isOverdue (env.call addr) loanId x)
  require (overdue = true) .notOverdue
  let x ← callee (ledger.markGrace (env.call addr) env.currentContract loanId x)
  pure (s, x)

/-- Forfeit what is owed and return the rest, skipping either call when its amount is zero. -/
def settleCollateral (guarantor : Address) (forfeited returned : ℤ) (s : State) (x : X) :
    Result Error X := do
  -- the vault rejects a zero amount, so a zero leg is not sent at all
  let addr ← orPanic s.vault .notInitialized
  let vault := vaults addr
  let x ← callee (if 0 < forfeited then
    vault.forfeitCollateral (env.call addr) env.currentContract guarantor forfeited x else some x)
  callee (if 0 < returned then
    vault.releaseCollateral (env.call addr) env.currentContract guarantor returned x else some x)

/-- Liquidate a loan whose grace period has expired. Permissionless. Forfeits collateral equal to
the outstanding principal, capped at what is still locked, and returns the remainder to the
guarantor. Returns the amount forfeited. -/
def liquidate (loanId : ℕ) (s : State) (x : X) : Result Error (ℤ × State × X) := do
  let s := extendInstance env s
  require (paused s = false) .paused
  let addr ← orPanic s.loanLedger .notInitialized
  let ledger := ledgers addr
  let (expired, x) ← callee (ledger.isGraceExpired (env.call addr) loanId x)
  require (expired = true) .graceNotExpired
  let (guarantor, x) ← callee (ledger.loanGuarantor (env.call addr) loanId x)
  let (outstanding, x) ← callee (ledger.loanOutstanding (env.call addr) loanId x)
  let (remaining, x) ← callee (ledger.loanCollateralRemaining (env.call addr) loanId x)
  -- the locked amount can be under what is owed, and nothing beyond it can be seized
  let forfeited := if outstanding < remaining then outstanding else remaining
  let returned ← i128 (remaining - forfeited)
  let x ← settleCollateral vaults env guarantor forfeited returned s x
  -- the loan is closed last; a trap here takes both vault calls back
  let x ← callee (ledger.markDefaulted (env.call addr) env.currentContract loanId x)
  pure (forfeited, s, x)

/-- Start the grace period of a loan found overdue. -/
def pokeOverdue (addr : Address) (loanId : ℕ) (s : State) (x : X) :
    Result Error (Bool × State × X) := do
  let x ← callee ((ledgers addr).markGrace (env.call addr) env.currentContract loanId x)
  pure (true, s, x)

/-- Liquidate a loan found not overdue, if its grace has expired. -/
def pokeExpired (addr : Address) (loanId : ℕ) (s : State) (x : X) :
    Result Error (Bool × State × X) := do
  let (expired, x) ← callee ((ledgers addr).isGraceExpired (env.call addr) loanId x)
  if expired then do
    let (_, s, x) ← liquidate ledgers vaults env loanId s x
    pure (true, s, x)
  else pure (false, s, x)

/-- Advance whichever transition the loan is due for. Returns whether it did something. -/
def poke (loanId : ℕ) (s : State) (x : X) : Result Error (Bool × State × X) :=
  let s := extendInstance env s
  -- a paused engine declines instead of trapping, unlike the other two cranks
  if paused s then pure (false, s, x)
  else do
    let addr ← orPanic s.loanLedger .notInitialized
    let (overdue, x) ← callee ((ledgers addr).isOverdue (env.call addr) loanId x)
    if overdue then pokeOverdue ledgers env addr loanId s x
    else pokeExpired ledgers vaults env addr loanId s x

end RemitCollateral.LiquidationEngine
