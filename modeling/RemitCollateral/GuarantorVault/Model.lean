import RemitCollateral.Host.Governance

/-! # GuarantorVault — isolated USDC collateral vaults

The vault contract, translated function by function. Every guarantor has its own record; USDC sits
in one pooled token balance of the contract. The token contract is a parameter: the functions take
the client found at each address, and a client may do anything to the world it is called in, this
contract's storage included, so that a token that calls back is a possible argument. -/

namespace RemitCollateral.GuarantorVault

open Soroban

/-- Ledgers per day at a 5-second ledger close time. -/
def dayInLedgers : ℕ := 17280

/-- Lifetime an entry is extended to, about 120 days. -/
def extendTo : ℕ := 120 * dayInLedgers

/-- Lifetime below which an entry is extended, about 90 days. -/
def threshold : ℕ := 90 * dayInLedgers

/-- The error codes of the contract. -/
inductive Error
  | notInitialized
  | notAuthorized
  | invalidAmount
  | insufficientAvailable
  | insufficientLocked
  | ledgerNotSet
  | engineNotSet
  | alreadySet
  | noPendingAction
  | actionPending
  | timelockNotExpired
  | reentrancyGuard
  deriving DecidableEq, Repr

/-- A single guarantor's collateral position. -/
structure Vault where
  guarantor : Address
  collateralBalance : ℤ
  /-- The portion backing active loans. -/
  lockedAmount : ℤ
  deriving DecidableEq, Repr

/-- A sensitive admin change that must wait out the timelock before it runs. -/
inductive Action
  /-- Replace the contract's code, keeping its address and storage. -/
  | upgrade (wasmHash : BytesN32)
  /-- Change where forfeited collateral is sent. -/
  | setSettlement (settlement : Address)
  deriving DecidableEq, Repr

/-- The second topic of an event; the first is always `vault`. -/
inductive Topic
  | deposit
  | withdraw
  | lock
  | release
  | forfeit
  deriving DecidableEq, Repr

/-- What the contract publishes on every collateral transition. -/
structure CollateralEvent where
  topic : Topic
  guarantor : Address
  amount : ℤ
  collateralBalance : ℤ
  lockedAmount : ℤ
  deriving DecidableEq, Repr

/-- The contract's storage, with the events it has published (latest first). -/
structure State where
  /-- `Admin`, `PendingAdmin`, `TimelockSecs`, `Scheduled`. -/
  governance : Governance Action
  usdcToken : Option Address
  settlementAddress : Option Address
  loanLedger : Option Address
  liquidationEngine : Option Address
  /-- The persistent entries `Vault(guarantor)`. -/
  vaults : Address → Option Vault
  /-- Whether the entry `ReentrancyLock` is present. -/
  reentrancyLock : Bool
  /-- The code that replaced this one, once an upgrade has executed. -/
  wasm : Option BytesN32
  /-- Lifetimes of the instance and of the `Vault(guarantor)` entries. -/
  ttl : Lifetimes Address
  events : List CollateralEvent

/-- The contract's storage and the token contract it calls. -/
structure World (T : Type) where
  vault : State
  token : T

/-- The slice of the token contract the vault calls; `none` is a trap. -/
structure TokenClient (T : Type) where
  balance : Address → World T → Option (ℤ × World T)
  transfer : Address → Address → ℤ → World T → Option (World T)

/-- The error codes of the governance pattern. -/
def governanceErrors : GovernanceErrors Error where
  notInitialized := .notInitialized
  notAuthorized := .notAuthorized
  noPendingAction := .noPendingAction
  actionPending := .actionPending
  timelockNotExpired := .timelockNotExpired

variable {T : Type} (tokens : Address → TokenClient T) (env : Env)

/-! ## Internals -/

/-- Keep the contract instance from being archived while the protocol is in use. -/
def extendInstance (s : State) : State :=
  { s with ttl := s.ttl.extendInstance env threshold extendTo }

/-- Take the reentrancy lock. -/
def enter (s : State) : Result Error State := do
  require (s.reentrancyLock = false) .reentrancyGuard
  pure { s with reentrancyLock := true }

/-- Clear the reentrancy lock, as the guard does when it is dropped. -/
def drop (s : State) : State := { s with reentrancyLock := false }

/-- The record of `guarantor`, empty if it has none; an existing one has its lifetime extended. -/
def vaultOf (guarantor : Address) (s : State) : Vault × State :=
  match s.vaults guarantor with
  | some vault => (vault, { s with ttl := s.ttl.extendEntry env threshold extendTo guarantor })
  | none => ({ guarantor, collateralBalance := 0, lockedAmount := 0 }, s)

/-- Persist a record and extend its lifetime, asserting the accounting invariant. -/
def save (vault : Vault) (s : State) : Result Error State := do
  assertThat (0 ≤ vault.collateralBalance) "collateral_balance negative"
  assertThat (0 ≤ vault.lockedAmount) "locked_amount negative"
  assertThat (vault.lockedAmount ≤ vault.collateralBalance)
    "locked_amount exceeds collateral_balance"
  pure { s with
    vaults := Function.update s.vaults vault.guarantor (some vault)
    ttl := (s.ttl.onSet env (s.vaults vault.guarantor).isSome vault.guarantor).extendEntry
      env threshold extendTo vault.guarantor }

/-- Publish the event of a collateral transition that left `vault`. -/
def publish (topic : Topic) (guarantor : Address) (amount : ℤ) (vault : Vault) (s : State) :
    State :=
  let event : CollateralEvent :=
    { topic, guarantor, amount, collateralBalance := vault.collateralBalance,
      lockedAmount := vault.lockedAmount }
  { s with events := event :: s.events }

/-- The token client at the address fixed at construction. -/
def usdcClient (s : State) : Result Error (TokenClient T) := do
  let usdc ← orPanic s.usdcToken .notInitialized
  pure (tokens usdc)

/-- `admin` authorized the call and is the stored admin. -/
def requireAdmin (admin : Address) (s : State) : Result Error Unit :=
  s.governance.requireAdmin governanceErrors env admin

/-- `caller` is the stored LoanLedger. -/
def requireLedger (caller : Address) (s : State) : Result Error Unit := do
  let ledger ← orPanic s.loanLedger .ledgerNotSet
  require (caller = ledger) .notAuthorized

/-- `caller` is the stored LiquidationEngine. -/
def requireEngine (caller : Address) (s : State) : Result Error Unit := do
  let engine ← orPanic s.liquidationEngine .engineNotSet
  require (caller = engine) .notAuthorized

/-- `caller` is the stored LoanLedger or the stored LiquidationEngine. -/
def requireLedgerOrEngine (caller : Address) (s : State) : Result Error Unit :=
  require (s.loanLedger = some caller ∨ s.liquidationEngine = some caller) .notAuthorized

/-! ## Administration -/

/-- The constructor, which runs once inside the deploy transaction. -/
def construct (admin usdcToken settlementAddress : Address) (timelockSecs : ℕ) : State :=
  extendInstance env
    { governance := Governance.construct admin timelockSecs
      usdcToken := some usdcToken
      settlementAddress := some settlementAddress
      loanLedger := none
      liquidationEngine := none
      vaults := fun _ => none
      reentrancyLock := false
      wasm := none
      ttl := Lifetimes.fresh env
      events := [] }

/-- Register the LoanLedger contract. Can be set only once. -/
def setLoanLedger (admin ledger : Address) (s : State) : Result Error State := do
  let s := extendInstance env s
  requireAdmin env admin s
  require (s.loanLedger = none) .alreadySet
  pure { s with loanLedger := some ledger }

/-- Register the LiquidationEngine contract. Can be set only once. -/
def setLiquidationEngine (admin engine : Address) (s : State) : Result Error State := do
  let s := extendInstance env s
  requireAdmin env admin s
  require (s.liquidationEngine = none) .alreadySet
  pure { s with liquidationEngine := some engine }

/-- Schedule an upgrade or a change of settlement address. -/
def scheduleAction (admin : Address) (action : Action) (s : State) : Result Error State := do
  let s := extendInstance env s
  let governance ← s.governance.scheduleAction governanceErrors env admin action
  pure { s with governance }

/-- Carry out the scheduled action once its timelock has elapsed. -/
def executeAction (admin : Address) (s : State) : Result Error State := do
  let s := extendInstance env s
  let (action, governance) ← s.governance.executeAction governanceErrors env admin
  match action with
  | .upgrade wasmHash => pure { s with governance, wasm := some wasmHash }
  | .setSettlement settlement => pure { s with governance, settlementAddress := some settlement }

/-- Withdraw the scheduled action before it executes. -/
def cancelAction (admin : Address) (s : State) : Result Error State := do
  let s := extendInstance env s
  let governance ← s.governance.cancelAction governanceErrors env admin
  pure { s with governance }

/-- Begin handing the admin role to `newAdmin`. -/
def proposeAdmin (admin newAdmin : Address) (s : State) : Result Error State := do
  let governance ← s.governance.proposeAdmin governanceErrors env admin newAdmin
  pure (extendInstance env { s with governance })

/-- Complete a handover proposed by the current admin. -/
def acceptAdmin (newAdmin : Address) (s : State) : Result Error State := do
  let governance ← s.governance.acceptAdmin governanceErrors env newAdmin
  pure (extendInstance env { s with governance })

/-! ## Guarantor operations -/

/-- Deposit USDC into the caller's own vault. -/
def deposit (guarantor : Address) (amount : ℤ) (w : World T) : Result Error (World T) := do
  let s ← enter w.vault
  let s := extendInstance env s
  env.requireAuth guarantor
  require (0 < amount) .invalidAmount
  let usdc ← usdcClient tokens s
  -- the token runs with the lock taken, and is believed only as far as the balance moved
  let (balanceBefore, w) ← callee (usdc.balance env.currentContract { w with vault := s })
  let w ← callee (usdc.transfer guarantor env.currentContract amount w)
  let (balanceAfter, w) ← callee (usdc.balance env.currentContract w)
  let received ← i128 (balanceAfter - balanceBefore)
  require (received = amount) .invalidAmount
  let (vault, s) := vaultOf env guarantor w.vault
  let collateralBalance ← i128 (vault.collateralBalance + amount)
  let vault := { vault with collateralBalance }
  let s ← save env vault s
  let s := publish .deposit guarantor amount vault s
  pure { w with vault := drop s }

/-- Withdraw unlocked collateral. -/
def withdraw (guarantor : Address) (amount : ℤ) (w : World T) : Result Error (World T) := do
  let s ← enter w.vault
  let s := extendInstance env s
  env.requireAuth guarantor
  require (0 < amount) .invalidAmount
  let (vault, s) := vaultOf env guarantor s
  let available ← i128 (vault.collateralBalance - vault.lockedAmount)
  require (amount ≤ available) .insufficientAvailable
  let collateralBalance ← i128 (vault.collateralBalance - amount)
  let vault := { vault with collateralBalance }
  -- the record is stored before the token is called
  let s ← save env vault s
  let usdc ← usdcClient tokens s
  let w ← callee (usdc.transfer env.currentContract guarantor amount { w with vault := s })
  let s := publish .withdraw guarantor amount vault w.vault
  pure { w with vault := drop s }

/-! ## Protocol operations -/

/-- Reserve collateral against a new loan. LoanLedger only. -/
def lockCollateral (caller guarantor : Address) (amount : ℤ) (s : State) :
    Result Error State := do
  let s ← enter s
  let s := extendInstance env s
  env.requireAuth caller
  requireLedger caller s
  require (0 < amount) .invalidAmount
  let (vault, s) := vaultOf env guarantor s
  let available ← i128 (vault.collateralBalance - vault.lockedAmount)
  require (amount ≤ available) .insufficientAvailable
  let lockedAmount ← i128 (vault.lockedAmount + amount)
  let vault := { vault with lockedAmount }
  let s ← save env vault s
  let s := publish .lock guarantor amount vault s
  pure (drop s)

/-- Return collateral to the guarantor's available balance. LoanLedger or LiquidationEngine. -/
def releaseCollateral (caller guarantor : Address) (amount : ℤ) (s : State) :
    Result Error State := do
  let s ← enter s
  let s := extendInstance env s
  env.requireAuth caller
  requireLedgerOrEngine caller s
  require (0 < amount) .invalidAmount
  let (vault, s) := vaultOf env guarantor s
  require (amount ≤ vault.lockedAmount) .insufficientLocked
  let lockedAmount ← i128 (vault.lockedAmount - amount)
  let vault := { vault with lockedAmount }
  let s ← save env vault s
  let s := publish .release guarantor amount vault s
  pure (drop s)

/-- Seize locked collateral and move the USDC to the settlement address. LiquidationEngine only. -/
def forfeitCollateral (caller guarantor : Address) (amount : ℤ) (w : World T) :
    Result Error (World T) := do
  let s ← enter w.vault
  let s := extendInstance env s
  env.requireAuth caller
  requireEngine caller s
  require (0 < amount) .invalidAmount
  let (vault, s) := vaultOf env guarantor s
  require (amount ≤ vault.lockedAmount) .insufficientLocked
  let lockedAmount ← i128 (vault.lockedAmount - amount)
  let collateralBalance ← i128 (vault.collateralBalance - amount)
  let vault := { vault with lockedAmount, collateralBalance }
  let s ← save env vault s
  let settlement ← orPanic s.settlementAddress .notInitialized
  let usdc ← usdcClient tokens s
  let w ← callee (usdc.transfer env.currentContract settlement amount { w with vault := s })
  let s := publish .forfeit guarantor amount vault w.vault
  pure { w with vault := drop s }

/-! ## Getters that renew the record they read -/

/-- The record of `guarantor`. -/
def getVault (guarantor : Address) (s : State) : Vault × State := vaultOf env guarantor s

/-- Total collateral of `guarantor`. -/
def getBalance (guarantor : Address) (s : State) : ℤ × State :=
  ((vaultOf env guarantor s).1.collateralBalance, (vaultOf env guarantor s).2)

/-- Locked collateral of `guarantor`. -/
def getLocked (guarantor : Address) (s : State) : ℤ × State :=
  ((vaultOf env guarantor s).1.lockedAmount, (vaultOf env guarantor s).2)

/-- Collateral `guarantor` may withdraw. -/
def getAvailable (guarantor : Address) (s : State) : Result Error (ℤ × State) := do
  let (vault, s) := vaultOf env guarantor s
  let available ← i128 (vault.collateralBalance - vault.lockedAmount)
  pure (available, s)

end RemitCollateral.GuarantorVault
