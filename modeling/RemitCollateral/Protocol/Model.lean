import RemitCollateral.GuarantorVault.Solvency
import RemitCollateral.LiquidationEngine.Spec
import RemitCollateral.LoanLedger.Runs

/-! # The three contracts wired together

The system the deploy script sets up: one vault, one ledger and one engine that know each other's
addresses, over one token. A call between contracts runs the callee's own code on the callee's own
storage, in the environment the host gives it. Anyone may call any entry point of any of the three;
the contracts themselves act only through the calls their code makes. -/

namespace RemitCollateral.Protocol

open Soroban

/-- Where the three contracts live, and what the ledger is configured with. -/
structure Deployment where
  vault : Address
  ledger : Address
  engine : Address
  config : LoanLedger.Config
  deriving DecidableEq, Repr

/-- The storage of the three contracts and the token contract. -/
structure System (T : Type) where
  engine : LiquidationEngine.State
  ledger : LoanLedger.State
  /-- The vault's storage and the token. -/
  world : GuarantorVault.World T

variable {T : Type}

/-! ## Calls between contracts -/

section Clients

variable (d : Deployment) (tokens : Address → GuarantorVault.TokenClient T)

/-- What the ledger finds when it calls the vault. -/
def ledgerVault : LoanLedger.VaultClient (GuarantorVault.World T) where
  lockCollateral env caller guarantor amount w :=
    outcome (GuarantorVault.exec tokens env (.lockCollateral caller guarantor amount) w)
  releaseCollateral env caller guarantor amount w :=
    outcome (GuarantorVault.exec tokens env (.releaseCollateral caller guarantor amount) w)

/-- What the engine finds when it calls the vault. -/
def engineVault : LiquidationEngine.VaultClient (LoanLedger.State × GuarantorVault.World T) where
  releaseCollateral env caller guarantor amount x :=
    (outcome (GuarantorVault.exec tokens env (.releaseCollateral caller guarantor amount) x.2)).map
      fun world => (x.1, world)
  forfeitCollateral env caller guarantor amount x :=
    (outcome (GuarantorVault.exec tokens env (.forfeitCollateral caller guarantor amount) x.2)).map
      fun world => (x.1, world)

/-- Run a view of the ledger for the engine. -/
def view {α : Type} (operation : LoanLedger.State → Result LoanLedger.Error (α × LoanLedger.State))
    (x : LoanLedger.State × GuarantorVault.World T) :
    Option (α × LoanLedger.State × GuarantorVault.World T) :=
  (outcome (operation x.1)).map fun result => (result.1, result.2, x.2)

/-- Run an operation of the ledger for the engine. -/
def mark (operation : LoanLedger.State → Result LoanLedger.Error LoanLedger.State)
    (x : LoanLedger.State × GuarantorVault.World T) :
    Option (LoanLedger.State × GuarantorVault.World T) :=
  (outcome (operation x.1)).map fun ledger => (ledger, x.2)

/-- What the engine finds when it calls the ledger. -/
def engineLedger : LiquidationEngine.LedgerClient (LoanLedger.State × GuarantorVault.World T) where
  isOverdue env loanId := view (LoanLedger.isOverdue env loanId)
  isGraceExpired env loanId := view (LoanLedger.isGraceExpired env loanId)
  loanGuarantor env loanId := view (LoanLedger.loanGuarantor env loanId)
  loanOutstanding env loanId := view (LoanLedger.loanOutstanding env loanId)
  loanCollateralRemaining env loanId := view (LoanLedger.loanCollateralRemaining env loanId)
  markGrace env caller loanId := mark (LoanLedger.markGrace env caller loanId)
  markDefaulted env caller loanId := mark (LoanLedger.markDefaulted env caller loanId)

/-- The vaults the ledger can call: the one deployed. -/
def ledgerVaults (address : Address) : LoanLedger.VaultClient (GuarantorVault.World T) :=
  if address = d.vault then ledgerVault tokens
  else { lockCollateral := fun _ _ _ _ _ => none, releaseCollateral := fun _ _ _ _ _ => none }

/-- The vaults the engine can call: the one deployed. -/
def engineVaults (address : Address) :
    LiquidationEngine.VaultClient (LoanLedger.State × GuarantorVault.World T) :=
  if address = d.vault then engineVault tokens
  else { releaseCollateral := fun _ _ _ _ _ => none, forfeitCollateral := fun _ _ _ _ _ => none }

/-- The ledgers the engine can call: the one deployed. -/
def engineLedgers (address : Address) :
    LiquidationEngine.LedgerClient (LoanLedger.State × GuarantorVault.World T) :=
  if address = d.ledger then engineLedger
  else
    { isOverdue := fun _ _ _ => none
      isGraceExpired := fun _ _ _ => none
      loanGuarantor := fun _ _ _ => none
      loanOutstanding := fun _ _ _ => none
      loanCollateralRemaining := fun _ _ _ => none
      markGrace := fun _ _ _ _ => none
      markDefaulted := fun _ _ _ _ => none }

@[simp] theorem ledgerVaults_vault : ledgerVaults d tokens d.vault = ledgerVault tokens :=
  if_pos rfl

@[simp] theorem engineVaults_vault : engineVaults d tokens d.vault = engineVault tokens :=
  if_pos rfl

@[simp] theorem engineLedgers_ledger :
    (engineLedgers d d.ledger : LiquidationEngine.LedgerClient
      (LoanLedger.State × GuarantorVault.World T)) = engineLedger := if_pos rfl

@[simp] theorem view_eq_some {α : Type}
    {operation : LoanLedger.State → Result LoanLedger.Error (α × LoanLedger.State)}
    {l l' : LoanLedger.State} {w w' : GuarantorVault.World T} {value : α} :
    view operation (l, w) = some (value, l', w') ↔ operation l = .ok (value, l') ∧ w = w' := by
  simp [view, Prod.ext_iff]

@[simp] theorem mark_eq_some
    {operation : LoanLedger.State → Result LoanLedger.Error LoanLedger.State}
    {l l' : LoanLedger.State} {w w' : GuarantorVault.World T} :
    mark operation (l, w) = some (l', w') ↔ operation l = .ok l' ∧ w = w' := by
  simp [mark]

end Clients

/-! ## Calls from outside -/

/-- The entry points of the three contracts. -/
inductive Call
  | vault (call : GuarantorVault.Call)
  | ledger (call : LoanLedger.Call)
  | engine (call : LiquidationEngine.Call)
  deriving DecidableEq, Repr

/-- Make one call; `none` when it traps. -/
def exec (d : Deployment) (tokens : Address → GuarantorVault.TokenClient T) (origin : Origin)
    (clock : Clock) (s : System T) : Call → Option (System T)
  | .vault call =>
      (outcome (GuarantorVault.exec tokens (origin.env clock d.vault) call s.world)).map
        fun world => { s with world }
  | .ledger call =>
      (outcome (LoanLedger.exec (ledgerVaults d tokens) (origin.env clock d.ledger) call s.ledger
        s.world)).map fun result => { s with ledger := result.1, world := result.2 }
  | .engine call =>
      (outcome (LiquidationEngine.exec (engineLedgers d) (engineVaults d tokens)
        (origin.env clock d.engine) call s.engine (s.ledger, s.world))).map
        fun result => { engine := result.1, ledger := result.2.1, world := result.2.2 }

/-- A call from outside: none of the three contracts made it or signed it. A contract has no key,
and authorizes the calls it makes itself only. -/
def Deployment.External (d : Deployment) (origin : Origin) : Prop :=
  ∀ address ∈ [d.vault, d.ledger, d.engine],
    origin.invoker ≠ some address ∧ address ∉ origin.signers

instance (d : Deployment) (origin : Origin) : Decidable (d.External origin) :=
  inferInstanceAs (Decidable (∀ address ∈ _, _))

/-- No upgrade has executed: each contract runs the code modelled here. -/
def System.Original (s : System T) : Prop :=
  s.engine.wasm = none ∧ s.ledger.wasm = none ∧ s.world.vault.wasm = none

instance (s : System T) : Decidable s.Original := inferInstanceAs (Decidable (_ ∧ _ ∧ _))

/-! ## Deployment -/

/-- What the deploy script is run with. -/
structure Script where
  admin : Address
  /-- The settlement asset's contract. -/
  usdc : Address
  settlement : Address
  timelockSecs : ℕ
  origin : Origin
  /-- The clock of each transaction of the script. -/
  clock : ℕ → Clock

/-- Deploy the three contracts and wire them together, in the order of the deploy script. The
registrations it goes on to make may come at any later time. -/
def deploy (d : Deployment) (script : Script) (token : T) : Option (System T) := do
  let vault := GuarantorVault.construct (script.origin.env (script.clock 0) d.vault) script.admin
    script.usdc script.settlement script.timelockSecs
  let ledger ← outcome (LoanLedger.construct (script.origin.env (script.clock 1) d.ledger)
    script.admin d.vault d.config script.timelockSecs)
  let engine := LiquidationEngine.construct (script.origin.env (script.clock 2) d.engine)
    script.admin d.vault d.ledger script.timelockSecs
  -- each pointer can be set once, so nobody can change the wiring later
  let vault ← outcome (GuarantorVault.setLoanLedger (script.origin.env (script.clock 3) d.vault)
    script.admin d.ledger vault)
  let vault ← outcome (GuarantorVault.setLiquidationEngine
    (script.origin.env (script.clock 4) d.vault) script.admin d.engine vault)
  let ledger ← outcome (LoanLedger.setLiquidationEngine
    (script.origin.env (script.clock 5) d.ledger) script.admin d.engine ledger)
  some { engine, ledger, world := { vault, token } }

/-- One input of a run of the system. -/
inductive Input (T : Type)
  /-- A call of an entry point of one of the contracts. -/
  | call (origin : Origin) (call : Call)
  /-- Tokens move without the vault. -/
  | moveTokens (token : T)

/-- Runs of the wired system over a standard token, up to the first upgrade of any contract. -/
def machine (d : Deployment) (tokens : Address → GuarantorVault.TokenClient T)
    (tok : GuarantorVault.StandardToken T) : Machine (System T) (Input T) where
  initial s := ∃ (script : Script) (token : T), tokens script.usdc = tok.client ∧
    deploy d script token = some s.state
  act clock s input s' :=
    match input with
    | .call origin call =>
        d.External origin ∧ exec d tokens origin clock s call = some s' ∧ s'.Original
    -- nobody but the vault spends what the vault holds
    | .moveTokens token => tok.balance s.world.token d.vault ≤ tok.balance token d.vault ∧
        { s with world := { s.world with token } } = s'

end RemitCollateral.Protocol
