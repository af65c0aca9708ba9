import RemitCollateral.Host.Provenance
import RemitCollateral.LoanLedger.Runs

/-! # Who administers the ledger

The ledger embeds the governance pattern as the vault does, with upgrades as its only actions. No
operation on loans, registrations or scores touches what administration sets, whatever vault it is
run against. -/

namespace RemitCollateral.LoanLedger

open Soroban

/-! ## Settings -/

/-- The part of the storage that only governance and the registration of the engine change. -/
structure Settings where
  governance : Governance Action
  liquidationEngine : Option Address
  wasm : Option BytesN32

/-- The settings of a state. -/
def State.settings (s : State) : Settings where
  governance := s.governance
  liquidationEngine := s.liquidationEngine
  wasm := s.wasm

@[simp] theorem settings_withTtl (s : State) (ttl : Lifetimes Key) :
    (s.withTtl ttl).settings = s.settings := rfl

section Operations

variable {X : Type} {vaults : Address → VaultClient X} {env : Env} {s s' : State} {x x' : X}
  {loan loan' : Loan} {loanId : ℕ}

@[simp] theorem settings_touch (env : Env) (key : Key) (s : State) :
    (touch env key s).settings = s.settings := by rw [touch_eq, settings_withTtl]

@[simp] theorem settings_saveLoan (env : Env) (loan : Loan) (s : State) :
    (saveLoan env loan s).settings = s.settings := settings_touch env _ _

theorem loanOf_settings (h : loanOf env loanId s = .ok (loan, s')) : s'.settings = s.settings := by
  obtain ⟨-, rfl⟩ := (loanOf_eq_ok env s).mp h
  rfl

theorem closeOrReschedule_settings (h : closeOrReschedule env loan s = .ok (loan', s')) :
    s'.settings = s.settings := by
  unfold closeOrReschedule at h
  split at h
  · obtain ⟨-, rfl⟩ := Prod.mk.inj (pure_eq_ok.mp h)
    rfl
  · simp only [bind_eq_ok, pure_eq_ok, Prod.mk.injEq] at h
    obtain ⟨-, -, -, -, -, -, -, rfl⟩ := h
    rfl

theorem originate_settings {guarantor partner : Address} {beneficiary : BytesN32}
    {principalUsd : ℤ} {installmentCount intervalSecs id : ℕ}
    (h : originate vaults env guarantor beneficiary partner principalUsd installmentCount
      intervalSecs s x = .ok (id, s', x')) : s'.settings = s.settings := by
  simp only [originate, extendInstance_eq, authorizedPartner_eq, touch_eq, created_eq, bind_eq_ok,
    Env.requireAuth_eq_ok, require_eq_ok, pure_eq_ok, exists_const, Prod.mk.injEq] at h
  obtain ⟨-, -, -, -, -, -, ltv, -, _, -, collateral, -, vault, -, _, -, id, -, installment, -, due,
    -, -, rfl, -⟩ := h
  rw [settings_saveLoan]
  simp only [State.settings, withTtl_governance, withTtl_liquidationEngine, withTtl_wasm]

theorem attestRepayment_settings {partner verifier : Address} {amountUsd r : ℤ}
    (h : attestRepayment vaults env partner verifier loanId amountUsd s x = .ok (r, s', x')) :
    s'.settings = s.settings := by
  simp only [attestRepayment, extendInstance_eq, authorizedPartner_eq, authorizedVerifier_eq,
    loanOf_eq_ok, bind_eq_ok, Env.requireAuth_eq_ok, require_eq_ok, pure_eq_ok, exists_const,
    Prod.exists, Prod.mk.injEq] at h
  obtain ⟨-, -, -, loan, _, ⟨-, rfl⟩, -, -, -, total, -, -, paid, -, earned, -, _, -, loan₁, x₁, -,
    loan₂, s₂, hclose, -, rfl, -⟩ := h
  rw [settings_saveLoan, closeOrReschedule_settings hclose]
  simp only [settings_withTtl]

theorem reassignPartner_settings {admin partner : Address}
    (h : reassignPartner env admin loanId partner s = .ok s') : s'.settings = s.settings := by
  simp only [reassignPartner, extendInstance_eq, authorizedPartner_eq, loanOf_eq_ok, bind_eq_ok,
    requireAdmin_eq_ok, require_eq_ok, pure_eq_ok, exists_const, Prod.exists] at h
  obtain ⟨-, -, loan, _, ⟨-, rfl⟩, -, rfl⟩ := h
  rw [settings_saveLoan]
  simp only [settings_withTtl]

theorem markGrace_settings {caller : Address} (h : markGrace env caller loanId s = .ok s') :
    s'.settings = s.settings := by
  simp only [markGrace, extendInstance_eq, loanOf_eq_ok, bind_eq_ok, Env.requireAuth_eq_ok,
    requireEngine_eq_ok, require_eq_ok, pure_eq_ok, exists_const, Prod.exists] at h
  obtain ⟨-, -, loan, _, ⟨-, rfl⟩, -, -, config, -, deadline, -, rfl⟩ := h
  rw [settings_saveLoan]
  simp only [settings_withTtl]

theorem markDefaulted_settings {caller : Address} (h : markDefaulted env caller loanId s = .ok s') :
    s'.settings = s.settings := by
  simp only [markDefaulted, extendInstance_eq, loanOf_eq_ok, bind_eq_ok, Env.requireAuth_eq_ok,
    requireEngine_eq_ok, require_eq_ok, pure_eq_ok, exists_const, Prod.exists] at h
  obtain ⟨-, -, loan, _, ⟨-, rfl⟩, -, -, rfl⟩ := h
  exact (settings_saveLoan env _ _).trans rfl

theorem setOracle_settings {admin oracle : Address} (h : setOracle env admin oracle s = .ok s') :
    s'.settings = s.settings := by
  simp only [setOracle, bind_eq_ok, pure_eq_ok] at h
  obtain ⟨-, -, rfl⟩ := h
  rfl

theorem setPartner_settings {admin partner : Address} {authorized : Bool}
    (h : setPartner env admin partner authorized s = .ok s') : s'.settings = s.settings := by
  obtain ⟨-, ttl, -, rfl⟩ := setPartner_cases h
  rw [settings_touch]
  rfl

theorem setVerifier_settings {admin verifier : Address} {authorized : Bool}
    (h : setVerifier env admin verifier authorized s = .ok s') : s'.settings = s.settings := by
  obtain ⟨-, ttl, -, rfl⟩ := setVerifier_cases h
  rw [settings_touch]
  rfl

theorem setReputation_settings {oracle : Address} {beneficiary : BytesN32} {scoreBps : ℕ}
    (h : setReputation env oracle beneficiary scoreBps s = .ok s') : s'.settings = s.settings := by
  simp only [setReputation, bind_eq_ok, pure_eq_ok] at h
  obtain ⟨-, -, -, -, -, -, -, -, rfl⟩ := h
  rw [settings_touch]
  simp only [created_eq, extendInstance_eq, State.settings, withTtl_governance,
    withTtl_liquidationEngine, withTtl_wasm]

theorem loanOutstanding_settings {outstanding : ℤ}
    (h : loanOutstanding env loanId s = .ok (outstanding, s')) : s'.settings = s.settings := by
  simp only [loanOutstanding, bind_eq_ok, pure_eq_ok, Prod.exists, Prod.mk.injEq] at h
  obtain ⟨loan, s₁, hloan, -, -, -, rfl⟩ := h
  exact (loanOf_settings hloan).trans rfl

theorem loanCollateralRemaining_settings {remaining : ℤ}
    (h : loanCollateralRemaining env loanId s = .ok (remaining, s')) :
    s'.settings = s.settings := by
  simp only [loanCollateralRemaining, bind_eq_ok, pure_eq_ok, Prod.exists, Prod.mk.injEq] at h
  obtain ⟨loan, s₁, hloan, -, -, -, rfl⟩ := h
  exact (loanOf_settings hloan).trans rfl

end Operations

/-! ## What the ledger is told -/

/-- Whom the admin has registered. -/
@[ext] structure Registrations where
  oracle : Option Address
  partners : Address → Option Bool
  verifiers : Address → Option Bool

/-- What the ledger has been told of others: the registrations, and the scores of the oracle. -/
structure Directory extends Registrations where
  reputation : BytesN32 → Option ℕ

/-- The registrations of a state. -/
def State.registrations (s : State) : Registrations where
  oracle := s.oracle
  partners := s.partners
  verifiers := s.verifiers

/-- The directory of a state. -/
def State.directory (s : State) : Directory where
  toRegistrations := s.registrations
  reputation := s.reputation

@[simp] theorem directory_withTtl (s : State) (ttl : Lifetimes Key) :
    (s.withTtl ttl).directory = s.directory := rfl

section Directory

variable {env : Env} {s s' : State} {loan : Loan} {loanId : ℕ}

@[simp] theorem directory_saveLoan (env : Env) (loan : Loan) (s : State) :
    (saveLoan env loan s).directory = s.directory := by
  rw [saveLoan, touch_eq]
  rfl

theorem loanOf_directory (h : loanOf env loanId s = .ok (loan, s')) :
    s'.directory = s.directory := by
  obtain ⟨-, rfl⟩ := (loanOf_eq_ok env s).mp h
  rfl

theorem markGrace_directory {caller : Address} (h : markGrace env caller loanId s = .ok s') :
    s'.directory = s.directory := by
  simp only [markGrace, extendInstance_eq, loanOf_eq_ok, bind_eq_ok, Env.requireAuth_eq_ok,
    requireEngine_eq_ok, require_eq_ok, pure_eq_ok, exists_const, Prod.exists] at h
  obtain ⟨-, -, loan, _, ⟨-, rfl⟩, -, -, config, -, deadline, -, rfl⟩ := h
  rw [directory_saveLoan]
  simp only [directory_withTtl]

theorem markDefaulted_directory {caller : Address}
    (h : markDefaulted env caller loanId s = .ok s') : s'.directory = s.directory := by
  obtain ⟨-, -, loan, -, -, -, rfl⟩ := markDefaulted_eq_ok.mp h
  rfl

theorem loanOutstanding_directory {outstanding : ℤ}
    (h : loanOutstanding env loanId s = .ok (outstanding, s')) : s'.directory = s.directory := by
  simp only [loanOutstanding, bind_eq_ok, pure_eq_ok, Prod.exists, Prod.mk.injEq] at h
  obtain ⟨loan, s₁, hloan, -, -, -, rfl⟩ := h
  exact (loanOf_directory hloan).trans rfl

theorem loanCollateralRemaining_directory {remaining : ℤ}
    (h : loanCollateralRemaining env loanId s = .ok (remaining, s')) :
    s'.directory = s.directory := by
  simp only [loanCollateralRemaining, bind_eq_ok, pure_eq_ok, Prod.exists, Prod.mk.injEq] at h
  obtain ⟨loan, s₁, hloan, -, -, -, rfl⟩ := h
  exact (loanOf_directory hloan).trans rfl

/-- The directory after the ledger is told something. -/
def Call.announce : Call → Directory → Directory
  | .setOracle _ oracle, directory => { directory with oracle := some oracle }
  | .setPartner _ partner authorized, directory =>
      { directory with
        partners := Function.update directory.partners partner (some authorized) }
  | .setVerifier _ verifier authorized, directory =>
      { directory with
        verifiers := Function.update directory.verifiers verifier (some authorized) }
  | .setReputation _ beneficiary scoreBps, directory =>
      { directory with
        reputation := Function.update directory.reputation beneficiary (some scoreBps) }
  | _, directory => directory

/-- **Directory.** A call leaves the directory it announces. -/
theorem exec_directory {X : Type} {vaults : Address → VaultClient X} {x x' : X} {config : Config}
    (hsound : s.Sound config env.timestamp) {call : Call}
    (h : exec vaults env call s x = .ok (s', x')) : s'.directory = call.announce s.directory := by
  have heffect := exec_effect hsound h
  cases call with
  | originate | attestRepayment =>
      obtain ⟨loan, -, -, ttl, rfl⟩ := heffect
      rfl
  | reassignPartner =>
      obtain ⟨-, -, -, -, loan, -, -, ttl, rfl⟩ := heffect
      rfl
  | markGrace => exact markGrace_directory (onLedger_eq_ok.mp h).1
  | markDefaulted => exact markDefaulted_directory (onLedger_eq_ok.mp h).1
  | setOracle admin oracle =>
      have hok := (onLedger_eq_ok.mp h).1
      simp only [setOracle, bind_eq_ok, pure_eq_ok] at hok
      obtain ⟨-, -, rfl⟩ := hok
      rfl
  | setPartner admin partner authorized =>
      obtain ⟨-, ttl, -, rfl⟩ := setPartner_cases (onLedger_eq_ok.mp h).1
      rw [touch_eq, created_eq]
      rfl
  | setVerifier admin verifier authorized =>
      obtain ⟨-, ttl, -, rfl⟩ := setVerifier_cases (onLedger_eq_ok.mp h).1
      rw [touch_eq, created_eq]
      rfl
  | setReputation oracle beneficiary scoreBps =>
      have hok := (onLedger_eq_ok.mp h).1
      simp only [setReputation, bind_eq_ok, pure_eq_ok] at hok
      obtain ⟨-, -, -, -, -, -, -, -, rfl⟩ := hok
      rw [touch_eq, created_eq, extendInstance_eq]
      rfl
  | setLiquidationEngine admin engine =>
      obtain ⟨-, -, -, rfl⟩ := setLiquidationEngine_eq_ok.mp (onLedger_eq_ok.mp h).1
      rfl
  | scheduleAction | cancelAction | proposeAdmin | acceptAdmin =>
      obtain ⟨governance, -, hok⟩ := bind_eq_ok.mp (onLedger_eq_ok.mp h).1
      obtain rfl := pure_eq_ok.mp hok
      rfl
  | executeAction =>
      obtain ⟨⟨⟨wasmHash⟩, governance⟩, -, hok⟩ := bind_eq_ok.mp (onLedger_eq_ok.mp h).1
      obtain rfl := pure_eq_ok.mp hok
      rfl
  | isOverdue =>
      obtain ⟨⟨value, hview⟩, -⟩ := onView_eq_ok.mp h
      obtain ⟨-, -, -, rfl⟩ := isOverdue_eq_ok.mp hview
      rfl
  | isGraceExpired =>
      obtain ⟨⟨value, hview⟩, -⟩ := onView_eq_ok.mp h
      obtain ⟨-, -, -, rfl⟩ := isGraceExpired_eq_ok.mp hview
      rfl
  | loanGuarantor =>
      obtain ⟨⟨value, hview⟩, -⟩ := onView_eq_ok.mp h
      obtain ⟨-, -, -, rfl⟩ := loanGuarantor_eq_ok.mp hview
      rfl
  | loanOutstanding =>
      obtain ⟨⟨value, hview⟩, -⟩ := onView_eq_ok.mp h
      exact loanOutstanding_directory hview
  | loanCollateralRemaining =>
      obtain ⟨⟨value, hview⟩, -⟩ := onView_eq_ok.mp h
      exact loanCollateralRemaining_directory hview

/-- What only the admin may announce was announced by the admin. -/
theorem exec_announced {X : Type} {vaults : Address → VaultClient X} {x x' : X} {call : Call}
    (h : exec vaults env call s x = .ok (s', x')) : match call with
      | .setOracle admin _ | .setPartner admin _ _ | .setVerifier admin _ _
      | .setLiquidationEngine admin _ =>
          env.authorized admin ∧ s.governance.admin = some admin
      | .setReputation oracle _ _ => env.authorized oracle ∧ s.oracle = some oracle
      | _ => True := by
  cases call with
  | setOracle admin oracle =>
      have hok := (onLedger_eq_ok.mp h).1
      simp only [setOracle, bind_eq_ok, requireAdmin_eq_ok] at hok
      obtain ⟨-, hrequired, -⟩ := hok
      exact hrequired
  | setPartner admin partner authorized =>
      have hok := (onLedger_eq_ok.mp h).1
      simp only [setPartner, bind_eq_ok, requireAdmin_eq_ok] at hok
      obtain ⟨-, hrequired, -⟩ := hok
      exact hrequired
  | setVerifier admin verifier authorized =>
      have hok := (onLedger_eq_ok.mp h).1
      simp only [setVerifier, bind_eq_ok, requireAdmin_eq_ok] at hok
      obtain ⟨-, hrequired, -⟩ := hok
      exact hrequired
  | setLiquidationEngine admin engine =>
      obtain ⟨hsigned, hadmin, -⟩ := setLiquidationEngine_eq_ok.mp (onLedger_eq_ok.mp h).1
      exact ⟨hsigned, hadmin⟩
  | setReputation oracle beneficiary scoreBps =>
      have hok := (onLedger_eq_ok.mp h).1
      simp only [setReputation, bind_eq_ok, Env.requireAuth_eq_ok, orPanic_eq_ok,
        require_eq_ok] at hok
      obtain ⟨-, hsigned, stored, hstored, -, hsame, -⟩ := hok
      exact ⟨hsigned, hstored.trans (congrArg some hsame.symm)⟩
  | _ => trivial

end Directory

/-! ## What a call does to the settings -/

/-- The call of the governance pattern that an entry point makes. -/
def Call.governance : Call → Option (GovernanceCall Action)
  | .scheduleAction admin action => some (.schedule admin action)
  | .executeAction admin => some (.execute admin)
  | .cancelAction admin => some (.cancel admin)
  | .proposeAdmin admin newAdmin => some (.propose admin newAdmin)
  | .acceptAdmin newAdmin => some (.accept newAdmin)
  | _ => none

/-- What an executed action sets. -/
def Settings.apply (settings : Settings) : Action → Settings
  | .upgrade wasmHash => { settings with wasm := some wasmHash }

/-- The ways a call treats the settings. -/
inductive Administers (env : Env) (s s' : State) : Call → Prop
  /-- It does not touch them. -/
  | leaves {call : Call} (ungoverned : call.governance = none)
      (settings : s'.settings = s.settings) : Administers env s s' call
  /-- It registers the engine, which was not set. -/
  | setLiquidationEngine {admin engine : Address} (unset : s.liquidationEngine = none)
      (settings : s'.settings = { s.settings with liquidationEngine := some engine }) :
      Administers env s s' (.setLiquidationEngine admin engine)
  /-- It is a call of the governance pattern that carries nothing out. -/
  | governs {call : Call} {request : GovernanceCall Action}
      (governed : call.governance = some request)
      (performed : request.perform governanceErrors env s.governance = .ok s'.governance)
      (settings : s'.settings = { s.settings with governance := s'.governance }) :
      Administers env s s' call
  /-- It carries the pending action out. -/
  | executes {admin : Address} {action : Action}
      (taken : s.governance.executeAction governanceErrors env admin = .ok (action, s'.governance))
      (settings : s'.settings = { s.settings with governance := s'.governance }.apply action) :
      Administers env s s' (.executeAction admin)

section Administers

variable {X : Type} {vaults : Address → VaultClient X} {env : Env} {s s' : State} {x x' : X}
  {call : Call}

/-- Every call treats the settings in one of these ways. -/
theorem exec_administers (h : exec vaults env call s x = .ok (s', x')) :
    Administers env s s' call := by
  cases call with
  | originate =>
      obtain ⟨⟨id, s₁, x₁⟩, hok, heq⟩ := map_eq_ok.mp h
      obtain ⟨rfl, rfl⟩ := Prod.mk.inj heq
      exact .leaves rfl (originate_settings hok)
  | attestRepayment =>
      obtain ⟨⟨r, s₁, x₁⟩, hok, heq⟩ := map_eq_ok.mp h
      obtain ⟨rfl, rfl⟩ := Prod.mk.inj heq
      exact .leaves rfl (attestRepayment_settings hok)
  | reassignPartner => exact .leaves rfl (reassignPartner_settings (onLedger_eq_ok.mp h).1)
  | markGrace => exact .leaves rfl (markGrace_settings (onLedger_eq_ok.mp h).1)
  | markDefaulted => exact .leaves rfl (markDefaulted_settings (onLedger_eq_ok.mp h).1)
  | setOracle => exact .leaves rfl (setOracle_settings (onLedger_eq_ok.mp h).1)
  | setPartner => exact .leaves rfl (setPartner_settings (onLedger_eq_ok.mp h).1)
  | setVerifier => exact .leaves rfl (setVerifier_settings (onLedger_eq_ok.mp h).1)
  | setReputation => exact .leaves rfl (setReputation_settings (onLedger_eq_ok.mp h).1)
  | setLiquidationEngine =>
      obtain ⟨hok, -⟩ := onLedger_eq_ok.mp h
      obtain ⟨-, -, hunset, rfl⟩ := setLiquidationEngine_eq_ok.mp hok
      exact .setLiquidationEngine hunset rfl
  | scheduleAction | cancelAction | proposeAdmin | acceptAdmin =>
      obtain ⟨hok, -⟩ := onLedger_eq_ok.mp h
      obtain ⟨governance, hperformed, hok⟩ := bind_eq_ok.mp hok
      obtain rfl := pure_eq_ok.mp hok
      exact .governs rfl hperformed rfl
  | executeAction =>
      obtain ⟨hok, -⟩ := onLedger_eq_ok.mp h
      obtain ⟨⟨⟨wasmHash⟩, governance⟩, htaken, hok⟩ := bind_eq_ok.mp hok
      obtain rfl := pure_eq_ok.mp hok
      exact .executes htaken rfl
  | isOverdue =>
      obtain ⟨⟨value, hview⟩, -⟩ := onView_eq_ok.mp h
      obtain ⟨-, -, -, rfl⟩ := isOverdue_eq_ok.mp hview
      exact .leaves rfl rfl
  | isGraceExpired =>
      obtain ⟨⟨value, hview⟩, -⟩ := onView_eq_ok.mp h
      obtain ⟨-, -, -, rfl⟩ := isGraceExpired_eq_ok.mp hview
      exact .leaves rfl rfl
  | loanGuarantor =>
      obtain ⟨⟨value, hview⟩, -⟩ := onView_eq_ok.mp h
      obtain ⟨-, -, -, rfl⟩ := loanGuarantor_eq_ok.mp hview
      exact .leaves rfl rfl
  | loanOutstanding =>
      obtain ⟨⟨value, hview⟩, -⟩ := onView_eq_ok.mp h
      exact .leaves rfl (loanOutstanding_settings hview)
  | loanCollateralRemaining =>
      obtain ⟨⟨value, hview⟩, -⟩ := onView_eq_ok.mp h
      exact .leaves rfl (loanCollateralRemaining_settings hview)

end Administers

/-! ## Runs over any vaults -/

section Runs

/-- Runs of a ledger contract at `here`, up to the first upgrade, against any vault and in any state
the vault may be in. -/
def openMachine (here : Address) : Machine State Input where
  initial s := ∃ (origin : Origin) (admin vault : Address) (config : Config) (timelockSecs : ℕ),
    construct (origin.env s.clock here) admin vault config timelockSecs = .ok s.state
  act clock s input s' := s.wasm = none ∧
    ∃ (X : Type) (vaults : Address → VaultClient X) (x x' : X),
      exec vaults (input.origin.env clock here) input.call s x = .ok (s', x')

/-- The ledger changes as an action says: it gets other code. -/
def Becomes : Action → State → State → Prop
  | .upgrade wasmHash, s, s' => s.wasm ≠ some wasmHash ∧ s'.wasm = some wasmHash

variable {env : Env} {s s' : State} {call : Call} {action : Action}

/-- A call that is not one of the pattern leaves its entries alone. -/
theorem Administers.quiet (h : Administers env s s' call) (hcall : call.governance = none) :
    s'.governance = s.governance := by
  cases h with
  | leaves _ settings => exact congrArg Settings.governance settings
  | setLiquidationEngine _ settings => exact congrArg Settings.governance settings
  | governs governed =>
      rw [hcall] at governed
      cases governed
  | executes => cases hcall

/-- A call of the pattern is performed on its entries. -/
theorem Administers.perform (h : Administers env s s' call) {request : GovernanceCall Action}
    (hcall : call.governance = some request) :
    request.perform governanceErrors env s.governance = .ok s'.governance := by
  cases h with
  | leaves ungoverned =>
      rw [ungoverned] at hcall
      cases hcall
  | setLiquidationEngine => cases hcall
  | governs governed performed =>
      obtain rfl := Option.some.inj (governed.symm.trans hcall)
      exact performed
  | executes taken =>
      obtain rfl := Option.some.inj hcall
      exact map_eq_ok.mpr ⟨_, taken, rfl⟩

/-- Only an execution changes the code. -/
theorem Administers.becomes (h : Administers env s s' call) (hbecomes : Becomes action s s') :
    ∃ admin, call = .executeAction admin ∧
      s.governance.executeAction governanceErrors env admin = .ok (action, s'.governance) := by
  obtain ⟨wasmHash⟩ := action
  have hsame : ∀ settings : Settings, s'.settings = settings → settings.wasm = s.wasm → False := by
    rintro settings rfl hwasm
    exact hbecomes.1 (hwasm.symm.trans hbecomes.2)
  cases h with
  | leaves _ settings => exact (hsame _ settings rfl).elim
  | setLiquidationEngine _ settings => exact (hsame _ settings rfl).elim
  | governs _ _ settings => exact (hsame _ settings rfl).elim
  | @executes admin taken htaken settings =>
      obtain ⟨wasmHash'⟩ := taken
      have hwasm : s'.wasm = some wasmHash' := congrArg Settings.wasm settings
      obtain rfl : wasmHash' = wasmHash := Option.some.inj (hwasm.symm.trans hbecomes.2)
      exact ⟨admin, rfl, htaken⟩

/-- No call replaces the engine. -/
theorem Administers.liquidationEngine (h : Administers env s s' call) {engine : Address}
    (hengine : s.liquidationEngine = some engine) : s'.liquidationEngine = some engine := by
  cases h with
  | leaves _ settings => exact (congrArg Settings.liquidationEngine settings).trans hengine
  | setLiquidationEngine unset =>
      rw [unset] at hengine
      cases hengine
  | governs _ _ settings => exact (congrArg Settings.liquidationEngine settings).trans hengine
  | @executes admin action _ settings =>
      cases action
      exact (congrArg Settings.liquidationEngine settings).trans hengine

/-- What the admin has not signed changes neither settings nor registrations. -/
theorem settings_of_outsider {X : Type} {vaults : Address → VaultClient X} {x x' : X}
    {config : Config} (hsound : s.Sound config env.timestamp) {admin : Address}
    (hheld : s.governance.HeldBy admin) (hout : ¬ env.authorized admin)
    (h : exec vaults env call s x = .ok (s', x')) :
    s'.settings = s.settings ∧ s'.registrations = s.registrations := by
  have hstored : ∀ caller, ¬ (env.authorized caller ∧ s.governance.admin = some caller) := by
    rintro caller ⟨hsigned, hcaller⟩
    rw [Option.some.inj (hcaller.symm.trans hheld.1)] at hsigned
    exact hout hsigned
  have hannounced := exec_announced h
  have hadministers := exec_administers h
  have hgoverned : ∀ request, call.governance = some request → False := by
    intro request hrequest
    exact hout (GovernanceCall.authorized_of_heldBy hheld (hadministers.perform hrequest))
  refine ⟨?_, ?_⟩
  · cases hadministers with
    | leaves _ settings => exact settings
    | setLiquidationEngine => exact absurd hannounced (hstored _)
    | governs governed => exact (hgoverned _ governed).elim
    | executes => exact (hgoverned _ rfl).elim
  · have hdirectory := congrArg Directory.toRegistrations (exec_directory hsound h)
    cases call with
    | setOracle | setPartner | setVerifier => exact absurd hannounced (hstored _)
    | _ => exact hdirectory

/-- The constructor deploys any configuration it accepts. -/
theorem construct_succeeds (env : Env) {config : Config} (hconfig : config.Accepted)
    (admin vault : Address) (timelockSecs : ℕ) :
    ∃ s, construct env admin vault config timelockSecs = .ok s ∧
      s.settings = ⟨.construct admin timelockSecs, none, none⟩ ∧
      s.registrations = ⟨none, fun _ => none, fun _ => none⟩ := by
  have hchecks : ¬ (config.baseLtvBps < config.minLtvBps ∨ BPS ≤ config.safetyBufferBps ∨
      config.gracePeriodSecs = 0) := by
    rintro (hltv | hbuffer | hgrace)
    · exact absurd hconfig.minLtv_le (not_le.mpr hltv)
    · exact absurd hconfig.buffer_lt (not_lt.mpr hbuffer)
    · exact hconfig.grace_pos.ne' hgrace
  refine ⟨_, bind_eq_ok.mpr ⟨(), require_eq_ok.mpr hchecks, rfl⟩, rfl, rfl⟩

/-- The admin can name any oracle. -/
theorem setOracle_succeeds {admin : Address} (hauth : env.authorized admin)
    (hadmin : s.governance.admin = some admin) (oracle : Address) :
    ∃ s', setOracle env admin oracle s = .ok s' ∧
      s'.registrations = { s.registrations with oracle := some oracle } := by
  refine ⟨{ extendInstance env s with oracle := some oracle }, ?_, rfl⟩
  simp only [setOracle, bind_eq_ok, requireAdmin_eq_ok]
  exact ⟨(), ⟨hauth, hadmin⟩, rfl⟩

/-- Looking up an address that is not registered, or was revoked. -/
theorem not_authorized {role : Option Bool} (h : role ≠ some true) : role.getD false = false := by
  cases role with
  | none => rfl
  | some authorized =>
      rw [Option.getD_some]
      exact Bool.eq_false_iff.mpr fun htrue => h (congrArg some htrue)

/-- The admin can register any partner that is not a verifier. -/
theorem setPartner_succeeds {admin partner : Address} (hauth : env.authorized admin)
    (hadmin : s.governance.admin = some admin) (hrole : s.verifiers partner ≠ some true) :
    ∃ s', setPartner env admin partner true s = .ok s' ∧ s'.registrations =
      { s.registrations with partners := Function.update s.partners partner (some true) } := by
  have hok : ∃ s', setPartner env admin partner true s = .ok s' := by
    simp only [setPartner, if_true, bind_eq_ok, requireAdmin_eq_ok, require_eq_ok, pure_eq_ok,
      authorizedVerifier_eq, exists_const]
    exact ⟨_, ⟨hauth, hadmin⟩, not_authorized hrole, rfl⟩
  obtain ⟨s', hok⟩ := hok
  refine ⟨s', hok, ?_⟩
  obtain ⟨-, ttl, -, rfl⟩ := setPartner_cases hok
  rw [touch_eq, created_eq]
  rfl

/-- The admin can register any verifier that is not a partner. -/
theorem setVerifier_succeeds {admin verifier : Address} (hauth : env.authorized admin)
    (hadmin : s.governance.admin = some admin) (hrole : s.partners verifier ≠ some true) :
    ∃ s', setVerifier env admin verifier true s = .ok s' ∧ s'.registrations =
      { s.registrations with verifiers := Function.update s.verifiers verifier (some true) } := by
  have hok : ∃ s', setVerifier env admin verifier true s = .ok s' := by
    simp only [setVerifier, if_true, bind_eq_ok, requireAdmin_eq_ok, require_eq_ok, pure_eq_ok,
      authorizedPartner_eq, exists_const]
    exact ⟨_, ⟨hauth, hadmin⟩, not_authorized hrole, rfl⟩
  obtain ⟨s', hok⟩ := hok
  refine ⟨s', hok, ?_⟩
  obtain ⟨-, ttl, -, rfl⟩ := setVerifier_cases hok
  rw [touch_eq, created_eq]
  rfl

/-- The ledger embeds the governance pattern. -/
def governed (here : Address) : Governed (openMachine here) governanceErrors Action where
  here
  governance := State.governance
  call input := input.call.governance.map (input.origin, ·)
  Becomes
  initial := by
    rintro s ⟨origin, admin, vault, config, timelockSecs, hok⟩
    simp only [construct, bind_eq_ok, pure_eq_ok] at hok
    obtain ⟨-, -, hfresh⟩ := hok
    exact ⟨admin, timelockSecs, by rw [← hfresh]; rfl⟩
  quiet := by
    rintro c s input s' ⟨-, X, vaults, x, x', hok⟩ hcall
    exact (exec_administers hok).quiet (Option.map_eq_none_iff.mp hcall)
  perform := by
    rintro c s input s' origin request ⟨-, X, vaults, x, x', hok⟩ hcall
    obtain ⟨request, hrequest, heq⟩ := Option.map_eq_some_iff.mp hcall
    obtain ⟨rfl, rfl⟩ := Prod.mk.inj heq
    exact (exec_administers hok).perform hrequest
  becomes_irrefl := by
    rintro ⟨wasmHash⟩ s ⟨hne, heq⟩
    exact hne heq
  executes := by
    rintro c s input s' action ⟨-, X, vaults, x, x', hok⟩ hbecomes
    obtain ⟨admin, hcall, htaken⟩ := (exec_administers hok).becomes hbecomes
    exact ⟨input.origin, admin, by rw [hcall]; rfl, htaken⟩

/-- The engine a run has registered stays registered. -/
theorem registered_of_run {here : Address} {history : List (Transition State Input)}
    {s : Timed State} (hrun : (openMachine here).Run history s) : ∀ t ∈ history, ∀ engine,
      t.post.state.liquidationEngine = some engine → s.state.liquidationEngine = some engine := by
  intro t ht engine
  refine hrun.kept (P := fun s => s.liquidationEngine = some engine) ?_ t ht
  rintro c s input s' ⟨-, X, vaults, x, x', hok⟩ hengine
  exact (exec_administers hok).liquidationEngine hengine

end Runs

end RemitCollateral.LoanLedger
