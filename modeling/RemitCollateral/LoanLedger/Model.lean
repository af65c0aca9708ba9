import RemitCollateral.Host.Governance

/-! # LoanLedger — loan records, repayment schedules and attested repayments

The ledger contract, translated function by function. The vault it calls is a parameter: the
functions take the client found at each address, which acts on the world `X` outside this contract's
storage. -/

namespace RemitCollateral.LoanLedger

open Soroban

/-- Basis points in one. -/
def BPS : ℤ := 10000

/-- Ledgers per day at a 5-second ledger close time. -/
def dayInLedgers : ℕ := 17280

/-- Lifetime an entry is extended to, about 120 days. -/
def extendTo : ℕ := 120 * dayInLedgers

/-- Lifetime below which an entry is extended, about 90 days. -/
def threshold : ℕ := 90 * dayInLedgers

def minInstallments : ℕ := 1

def maxInstallments : ℕ := 52

/-- One day. -/
def minIntervalSecs : ℕ := 86400

/-- Ninety days. -/
def maxIntervalSecs : ℕ := 90 * 86400

/-- One year. -/
def maxTenorSecs : ℕ := 365 * 86400

/-- The error codes of the contract. -/
inductive Error
  | notInitialized
  | notAuthorized
  | invalidAmount
  | invalidSchedule
  | invalidConfig
  | invalidScore
  | loanNotFound
  | loanNotActive
  | loanAlreadyOpen
  | notOverdue
  | graceNotExpired
  | overpayment
  | unknownPartner
  | unknownVerifier
  | roleConflict
  | alreadySet
  | noPendingAction
  | actionPending
  | timelockNotExpired
  deriving DecidableEq, Repr

inductive LoanStatus
  /-- Repayments are on schedule. -/
  | active
  /-- An installment is overdue but the grace period has not expired. -/
  | grace
  /-- Fully repaid; all collateral returned. -/
  | repaid
  /-- Grace expired without payment; collateral forfeited. -/
  | defaulted
  deriving DecidableEq, Repr

structure Loan where
  id : ℕ
  guarantor : Address
  /-- Off-chain handle for the beneficiary; never a wallet address. -/
  beneficiary : BytesN32
  /-- The off-ramp partner servicing this loan. Only it may attest repayments. -/
  partner : Address
  principalUsd : ℤ
  /-- Loan-to-value applied at origination, in basis points. -/
  ltvBps : ℕ
  collateralLocked : ℤ
  collateralReleased : ℤ
  installmentCount : ℕ
  installmentAmount : ℤ
  intervalSecs : ℕ
  /-- Ledger time the loan was opened. Every due date is derived from it. -/
  originatedAt : ℕ
  /-- Installments fully covered by principal repaid. -/
  installmentsPaid : ℕ
  totalRepaidUsd : ℤ
  nextDue : ℕ
  graceExpiresAt : ℕ
  status : LoanStatus
  deriving DecidableEq, Repr

/-- Deployment parameters, each inside its machine type. -/
structure Config where
  /-- LTV required of a beneficiary with no reputation. -/
  baseLtvBps : ℕ
  /-- Floor the LTV can never go below however good the reputation. -/
  minLtvBps : ℕ
  /-- Share of collateral withheld until the final installment. -/
  safetyBufferBps : ℕ
  /-- How long after a missed installment before the loan may be liquidated. -/
  gracePeriodSecs : ℕ
  baseLtvBps_u32 : baseLtvBps < 2 ^ 32 := by decide
  minLtvBps_u32 : minLtvBps < 2 ^ 32 := by decide
  safetyBufferBps_u32 : safetyBufferBps < 2 ^ 32 := by decide
  gracePeriodSecs_u64 : gracePeriodSecs < 2 ^ 64 := by decide
  deriving DecidableEq, Repr

/-- A sensitive admin change that must wait out the timelock before it runs. -/
inductive Action
  /-- Replace the contract's code, keeping its address and storage. -/
  | upgrade (wasmHash : BytesN32)
  deriving DecidableEq, Repr

/-- The keys of the persistent entries. -/
inductive Key
  | loan (id : ℕ)
  | partner (address : Address)
  | verifier (address : Address)
  | reputation (beneficiary : BytesN32)
  | openLoan (guarantor : Address) (beneficiary : BytesN32)
  deriving DecidableEq, Repr

/-- The contract's storage. -/
structure State where
  /-- `Admin`, `PendingAdmin`, `TimelockSecs`, `Scheduled`. -/
  governance : Governance Action
  oracle : Option Address
  vault : Option Address
  liquidationEngine : Option Address
  config : Option Config
  loanCount : Option ℕ
  loans : ℕ → Option Loan
  partners : Address → Option Bool
  verifiers : Address → Option Bool
  reputation : BytesN32 → Option ℕ
  openLoans : Address × BytesN32 → Option ℕ
  /-- The code that replaced this one, once an upgrade has executed. -/
  wasm : Option BytesN32
  /-- Lifetimes of the instance and of the persistent entries. -/
  ttl : Lifetimes Key

/-- The slice of GuarantorVault this contract calls; `none` is a trap. The first argument is the
environment the vault sees. -/
structure VaultClient (X : Type) where
  lockCollateral : Env → Address → Address → ℤ → X → Option X
  releaseCollateral : Env → Address → Address → ℤ → X → Option X

/-- The error codes of the governance pattern. -/
def governanceErrors : GovernanceErrors Error where
  notInitialized := .notInitialized
  notAuthorized := .notAuthorized
  noPendingAction := .noPendingAction
  actionPending := .actionPending
  timelockNotExpired := .timelockNotExpired

variable {X : Type} (vaults : Address → VaultClient X) (env : Env)

/-! ## Internals -/

/-- Keep the contract instance from being archived while the protocol is in use. -/
def extendInstance (s : State) : State :=
  { s with ttl := s.ttl.extendInstance env threshold extendTo }

/-- Whether a persistent entry exists. -/
def hasEntry (s : State) : Key → Bool
  | .loan id => (s.loans id).isSome
  | .partner address => (s.partners address).isSome
  | .verifier address => (s.verifiers address).isSome
  | .reputation beneficiary => (s.reputation beneficiary).isSome
  | .openLoan guarantor beneficiary => (s.openLoans (guarantor, beneficiary)).isSome

/-- Extend a persistent entry. -/
def extendEntry (key : Key) (s : State) : State :=
  { s with ttl := s.ttl.extendEntry env threshold extendTo key }

/-- Extend a persistent entry if it exists. -/
def touch (key : Key) (s : State) : State :=
  if hasEntry s key then extendEntry env key s else s

/-- Start the lifetime of a persistent entry about to be written, if it is new. -/
def created (key : Key) (s : State) : State :=
  { s with ttl := s.ttl.onSet env (hasEntry s key) key }

/-- Installments fully covered by principal repaid so far. -/
def installmentsCovered (loan : Loan) : Result Error ℕ := do
  let scaled ← i128 (loan.totalRepaidUsd * loan.installmentCount)
  let covered ← i128Div scaled loan.principalUsd
  pure (castU32 covered)

def getConfig (s : State) : Result Error Config := orPanic s.config .notInitialized

/-- Load a loan and extend its lifetime. -/
def loanOf (loanId : ℕ) (s : State) : Result Error (Loan × State) := do
  let loan ← orPanic (s.loans loanId) .loanNotFound
  pure (loan, extendEntry env (.loan loanId) s)

/-- Persist a loan and extend it, along with its open-loan marker while the loan is still open. -/
def saveLoan (loan : Loan) (s : State) : State :=
  let s := created env (.loan loan.id) s
  -- `set` writes the whole record; the lifetime is extended only after it
  let s := { s with loans := Function.update s.loans loan.id (some loan) }
  let s := extendEntry env (.loan loan.id) s
  touch env (.openLoan loan.guarantor loan.beneficiary) s

/-- Whether a verifier is authorized, renewing its registration on use. -/
def authorizedVerifier (verifier : Address) (s : State) : Bool × State :=
  match s.verifiers verifier with
  | some authorized => (authorized, touch env (.verifier verifier) s)
  | none => (false, s)

/-- Whether a partner is authorized, renewing its registration on use. -/
def authorizedPartner (partner : Address) (s : State) : Bool × State :=
  match s.partners partner with
  | some authorized => (authorized, touch env (.partner partner) s)
  | none => (false, s)

/-- `admin` authorized the call and is the stored admin. -/
def requireAdmin (admin : Address) (s : State) : Result Error Unit :=
  s.governance.requireAdmin governanceErrors env admin

/-- `caller` is the stored LiquidationEngine. -/
def requireEngine (caller : Address) (s : State) : Result Error Unit := do
  let engine ← orPanic s.liquidationEngine .notInitialized
  require (caller = engine) .notAuthorized

/-! ## Administration -/

/-- The constructor, which runs once inside the deploy transaction. -/
def construct (admin vault : Address) (config : Config) (timelockSecs : ℕ) :
    Result Error State := do
  require (¬ (config.baseLtvBps < config.minLtvBps ∨ BPS ≤ config.safetyBufferBps ∨
    config.gracePeriodSecs = 0)) .invalidConfig
  pure (extendInstance env
    { governance := Governance.construct admin timelockSecs
      oracle := none
      vault := some vault
      liquidationEngine := none
      config := some config
      loanCount := some 0
      loans := fun _ => none
      partners := fun _ => none
      verifiers := fun _ => none
      reputation := fun _ => none
      openLoans := fun _ => none
      wasm := none
      ttl := Lifetimes.fresh env })

/-- Register the oracle allowed to publish reputation scores. -/
def setOracle (admin oracle : Address) (s : State) : Result Error State := do
  let s := extendInstance env s
  requireAdmin env admin s
  pure { s with oracle := some oracle }

/-- Register the LiquidationEngine allowed to drive default transitions. Can be set only once. -/
def setLiquidationEngine (admin engine : Address) (s : State) : Result Error State := do
  let s := extendInstance env s
  requireAdmin env admin s
  -- set once, at setup: a different engine could default loans at will
  require (s.liquidationEngine = none) .alreadySet
  pure { s with liquidationEngine := some engine }

/-- Authorize or revoke an off-ramp partner. -/
def setPartner (admin partner : Address) (authorized : Bool) (s : State) :
    Result Error State := do
  let s := extendInstance env s
  requireAdmin env admin s
  -- `&&` looks the address up, and renews it, only when it is being authorized
  let (conflict, s) := if authorized then authorizedVerifier env partner s else (false, s)
  require (conflict = false) .roleConflict
  let s := created env (.partner partner) s
  let s := { s with partners := Function.update s.partners partner (some authorized) }
  pure (touch env (.partner partner) s)

/-- Authorize or revoke a repayment verifier. A verifier can never also be a partner. -/
def setVerifier (admin verifier : Address) (authorized : Bool) (s : State) :
    Result Error State := do
  let s := extendInstance env s
  requireAdmin env admin s
  let (conflict, s) := if authorized then authorizedPartner env verifier s else (false, s)
  require (conflict = false) .roleConflict
  let s := created env (.verifier verifier) s
  let s := { s with verifiers := Function.update s.verifiers verifier (some authorized) }
  pure (touch env (.verifier verifier) s)

/-- Publish a beneficiary's composite reputation score, in basis points of a perfect score. -/
def setReputation (oracle : Address) (beneficiary : BytesN32) (scoreBps : ℕ) (s : State) :
    Result Error State := do
  let s := extendInstance env s
  env.requireAuth oracle
  let stored ← orPanic s.oracle .notInitialized
  require (oracle = stored) .notAuthorized
  require ((scoreBps : ℤ) ≤ BPS) .invalidScore
  let s := created env (.reputation beneficiary) s
  let s := { s with reputation := Function.update s.reputation beneficiary (some scoreBps) }
  pure (touch env (.reputation beneficiary) s)

/-- Whether a loan is still open. -/
def Loan.isOpen (loan : Loan) : Bool := loan.status = .active ∨ loan.status = .grace

/-- Move an open loan to a different partner. -/
def reassignPartner (admin : Address) (loanId : ℕ) (newPartner : Address) (s : State) :
    Result Error State := do
  let s := extendInstance env s
  requireAdmin env admin s
  let (known, s) := authorizedPartner env newPartner s
  require (known = true) .unknownPartner
  let (loan, s) ← loanOf env loanId s
  require (loan.isOpen = true) .loanNotActive
  pure (saveLoan env { loan with partner := newPartner } s)

/-- Schedule an upgrade. -/
def scheduleAction (admin : Address) (action : Action) (s : State) : Result Error State := do
  let s := extendInstance env s
  let governance ← s.governance.scheduleAction governanceErrors env admin action
  pure { s with governance }

/-- Carry out the scheduled action once its timelock has elapsed. -/
def executeAction (admin : Address) (s : State) : Result Error State := do
  let s := extendInstance env s
  let (action, governance) ← s.governance.executeAction governanceErrors env admin
  match action with
  | .upgrade wasmHash => pure { s with governance, wasm := some wasmHash }

/-- Withdraw the scheduled action before it executes. -/
def cancelAction (admin : Address) (s : State) : Result Error State := do
  let s := extendInstance env s
  let governance ← s.governance.cancelAction governanceErrors env admin
  pure { s with governance }

/-- Begin handing the admin role to `newAdmin`. -/
def proposeAdmin (admin newAdmin : Address) (s : State) : Result Error State := do
  let governance ← s.governance.proposeAdmin governanceErrors env admin newAdmin
  pure (extendInstance env { s with governance })

/-- Complete a handover proposed by the current admin. -/
def acceptAdmin (newAdmin : Address) (s : State) : Result Error State := do
  let governance ← s.governance.acceptAdmin governanceErrors env newAdmin
  pure (extendInstance env { s with governance })

/-! ## Origination -/

/-- The published score of a beneficiary, zero if it has none. -/
def getReputation (beneficiary : BytesN32) (s : State) : ℕ := (s.reputation beneficiary).getD 0

/-- Whether `verifier` may countersign repayments. -/
def isVerifier (verifier : Address) (s : State) : Bool := (s.verifiers verifier).getD false

/-- Whether `partner` may service loans. -/
def isPartner (partner : Address) (s : State) : Bool := (s.partners partner).getD false

/-- The LTV a given beneficiary currently qualifies for. -/
def requiredLtvBps (beneficiary : BytesN32) (s : State) : Result Error ℕ := do
  let config ← getConfig s
  let score : ℤ := getReputation beneficiary s
  let span ← u32Sub config.baseLtvBps config.minLtvBps
  let scaled ← i128 (span * score)
  let reduction ← i128Div scaled BPS
  let ltv ← i128 (config.baseLtvBps - reduction)
  pure (castU32 ltv)

/-- The number of loans ever originated. -/
def getLoanCount (s : State) : ℕ := s.loanCount.getD 0

/-- Open a loan. Locks `principal * ltv` of the guarantor's collateral. Returns the loan's id. -/
def originate (guarantor : Address) (beneficiary : BytesN32) (partner : Address)
    (principalUsd : ℤ) (installmentCount intervalSecs : ℕ) (s : State) (x : X) :
    Result Error (ℕ × State × X) := do
  let s := extendInstance env s
  env.requireAuth guarantor
  require (0 < principalUsd) .invalidAmount
  require ((minInstallments ≤ installmentCount ∧ installmentCount ≤ maxInstallments) ∧
    (minIntervalSecs ≤ intervalSecs ∧ intervalSecs ≤ maxIntervalSecs)) .invalidSchedule
  -- `saturating_mul`
  let totalTenor := min (installmentCount * intervalSecs) (2 ^ 64 - 1)
  require (totalTenor ≤ maxTenorSecs) .invalidSchedule
  let (known, s) := authorizedPartner env partner s
  require (known = true) .unknownPartner
  require (s.openLoans (guarantor, beneficiary) = none) .loanAlreadyOpen
  let ltvBps ← requiredLtvBps beneficiary s
  let s := touch env (.reputation beneficiary) s
  let scaled ← i128 (principalUsd * ltvBps)
  let collateral ← i128Div scaled BPS
  let vault ← orPanic s.vault .notInitialized
  -- the collateral is locked before anything is recorded
  let x ← callee
    ((vaults vault).lockCollateral (env.call vault) env.currentContract guarantor collateral x)
  let id ← u64 (getLoanCount s + 1)
  let s := { s with loanCount := some id }
  let installmentAmount ← i128Div principalUsd installmentCount
  let nextDue ← u64 (env.timestamp + intervalSecs)
  let loan : Loan :=
    { id, guarantor, beneficiary, partner, principalUsd, ltvBps
      collateralLocked := collateral
      collateralReleased := 0
      installmentCount, installmentAmount, intervalSecs
      originatedAt := env.timestamp
      installmentsPaid := 0
      totalRepaidUsd := 0
      nextDue
      graceExpiresAt := 0
      status := .active }
  let s := created env (.openLoan guarantor beneficiary) s
  let s := { s with openLoans := Function.update s.openLoans (guarantor, beneficiary) (some id) }
  pure (id, saveLoan env loan s, x)

/-! ## Repayment -/

/-- Collateral the principal repaid so far has earned back: all of it once the loan is fully repaid,
else in proportion, less the safety buffer. -/
def releasable (loan : Loan) (s : State) : Result Error ℤ :=
  if loan.principalUsd ≤ loan.totalRepaidUsd then pure loan.collateralLocked
  else do
    let config ← getConfig s
    let earned ← i128 (loan.collateralLocked * loan.totalRepaidUsd)
    let kept ← i128 (BPS - config.safetyBufferBps)
    let earnedScaled ← i128 (earned * kept)
    let scale ← i128 (loan.principalUsd * BPS)
    i128Div earnedScaled scale

/-- Release what is newly earned, if anything, and record it on the loan. -/
def releaseEarned (loan : Loan) (releaseNow : ℤ) (s : State) (x : X) :
    Result Error (Loan × X) :=
  if 0 < releaseNow then do
    let vault ← orPanic s.vault .notInitialized
    let x ← callee ((vaults vault).releaseCollateral (env.call vault) env.currentContract
      loan.guarantor releaseNow x)
    let collateralReleased ← i128 (loan.collateralReleased + releaseNow)
    pure ({ loan with collateralReleased }, x)
  else pure (loan, x)

/-- Close a fully repaid loan; otherwise move its due date to the first installment not yet covered,
and end its grace if that brings it current. -/
def closeOrReschedule (loan : Loan) (s : State) : Result Error (Loan × State) :=
  if loan.principalUsd ≤ loan.totalRepaidUsd then
    pure ({ loan with status := .repaid, graceExpiresAt := 0 },
      { s with openLoans := Function.update s.openLoans (loan.guarantor, loan.beneficiary) none })
  else do
    let upcoming ← u64 (loan.installmentsPaid + 1)
    let elapsed ← u64 (upcoming * loan.intervalSecs)
    let nextDue ← u64 (loan.originatedAt + elapsed)
    let loan := { loan with nextDue }
    -- a payment that leaves the loan behind keeps its grace deadline
    pure (if env.timestamp ≤ loan.nextDue then { loan with status := .active, graceExpiresAt := 0 }
      else loan, s)

/-- Record a repayment the off-ramp partner collected, and release the collateral it earns back.
Returns the amount released. -/
def attestRepayment (partner verifier : Address) (loanId : ℕ) (amountUsd : ℤ) (s : State) (x : X) :
    Result Error (ℤ × State × X) := do
  let s := extendInstance env s
  -- both halves of the attestation sign the same invocation
  env.requireAuth partner
  env.requireAuth verifier
  require (0 < amountUsd) .invalidAmount
  let (loan, s) ← loanOf env loanId s
  -- only the loan's own partner, and only while it is still authorized
  let (known, s) := authorizedPartner env partner s
  require (partner = loan.partner ∧ known = true) .notAuthorized
  let (checked, s) := authorizedVerifier env verifier s
  require (verifier ≠ partner ∧ checked = true) .unknownVerifier
  require (loan.isOpen = true) .loanNotActive
  let totalRepaidUsd ← i128 (loan.totalRepaidUsd + amountUsd)
  require (totalRepaidUsd ≤ loan.principalUsd) .overpayment
  let loan := { loan with totalRepaidUsd }
  let installmentsPaid ← installmentsCovered loan
  let loan := { loan with installmentsPaid }
  let releasable ← releasable loan s
  -- what is owed back is counted from the total, so earlier rounding is made up here
  let releaseNow ← i128 (releasable - loan.collateralReleased)
  let (loan, x) ← releaseEarned vaults env loan releaseNow s x
  let (loan, s) ← closeOrReschedule env loan s
  pure (releaseNow, saveLoan env loan s, x)

/-! ## Default transitions (LiquidationEngine only) -/

/-- Move an overdue loan into its grace period. -/
def markGrace (caller : Address) (loanId : ℕ) (s : State) : Result Error State := do
  let s := extendInstance env s
  env.requireAuth caller
  requireEngine caller s
  let (loan, s) ← loanOf env loanId s
  require (loan.status = .active) .loanNotActive
  require (loan.nextDue < env.timestamp) .notOverdue
  let config ← getConfig s
  let graceExpiresAt ← u64 (env.timestamp + config.gracePeriodSecs)
  pure (saveLoan env { loan with status := .grace, graceExpiresAt } s)

/-- Close a loan as defaulted, with its full locked amount accounted for. -/
def markDefaulted (caller : Address) (loanId : ℕ) (s : State) : Result Error State := do
  let s := extendInstance env s
  env.requireAuth caller
  requireEngine caller s
  let (loan, s) ← loanOf env loanId s
  require (loan.status = .grace) .loanNotActive
  require (loan.graceExpiresAt < env.timestamp) .graceNotExpired
  -- the engine has settled the collateral by now
  let loan := { loan with status := .defaulted, collateralReleased := loan.collateralLocked }
  let s := saveLoan env loan s
  pure { s with openLoans := Function.update s.openLoans (loan.guarantor, loan.beneficiary) none }

/-! ## Views used by the LiquidationEngine -/

def isOverdue (loanId : ℕ) (s : State) : Result Error (Bool × State) := do
  let s := extendInstance env s
  let (loan, s) ← loanOf env loanId s
  pure (decide (loan.status = .active ∧ loan.nextDue < env.timestamp), s)

def isGraceExpired (loanId : ℕ) (s : State) : Result Error (Bool × State) := do
  let s := extendInstance env s
  let (loan, s) ← loanOf env loanId s
  pure (decide (loan.status = .grace ∧ loan.graceExpiresAt < env.timestamp), s)

def loanGuarantor (loanId : ℕ) (s : State) : Result Error (Address × State) := do
  let s := extendInstance env s
  let (loan, s) ← loanOf env loanId s
  pure (loan.guarantor, s)

/-- Principal still owed. -/
def loanOutstanding (loanId : ℕ) (s : State) : Result Error (ℤ × State) := do
  let s := extendInstance env s
  let (loan, s) ← loanOf env loanId s
  let outstanding ← i128 (loan.principalUsd - loan.totalRepaidUsd)
  pure (if 0 < outstanding then outstanding else 0, s)

/-- Collateral still locked against this loan. -/
def loanCollateralRemaining (loanId : ℕ) (s : State) : Result Error (ℤ × State) := do
  let s := extendInstance env s
  let (loan, s) ← loanOf env loanId s
  let remaining ← i128 (loan.collateralLocked - loan.collateralReleased)
  pure (remaining, s)

/-- A page of loans from `startId`, at most 50 of them. -/
def getLoansRange (startId limit : ℕ) (s : State) : Result Error (List Loan) :=
  let actualLimit := min limit 50
  let total := getLoanCount s
  -- identifiers start at one
  if startId = 0 ∨ total < startId then pure []
  else do
    let pageEnd ← u64 (startId + actualLimit)
    let storeEnd ← u64 (total + 1)
    let endId := min pageEnd storeEnd
    pure ((List.range' startId (endId - startId)).filterMap s.loans)

end RemitCollateral.LoanLedger
