import RemitCollateral.LiquidationEngine.Administration
import RemitCollateral.Protocol.Administration
import RemitCollateral.Protocol.Commutation

/-! # While the deploy script runs

The deploy script is nine transactions, and the contracts are open to everyone from the first of
them on. Between any two, anyone may call what is deployed so far, with any contract still missing
or not yet wired. Nobody but the admin can make the script fail or end elsewhere, and nothing that
is paid in before its end is stuck. -/

namespace RemitCollateral.Protocol

open Soroban

/-- What the deploy script is run with. A verifier can never be a partner. -/
structure Launch where
  admin : Address
  /-- The settlement asset's contract. -/
  usdc : Address
  settlement : Address
  timelockSecs : ℕ
  oracle : Address
  partner : Address
  verifier : Address
  distinct : partner ≠ verifier

/-- How far the script has come: what is deployed, and how many of its settings are made. -/
inductive Rollout (T : Type)
  | vault (world : GuarantorVault.World T)
  | ledger (ledger : LoanLedger.State) (world : GuarantorVault.World T)
  | settings (done : ℕ) (system : System T)

/-- What may happen while the script runs. -/
inductive RolloutInput (T : Type)
  /-- The next transaction of the script. -/
  | script (origin : Origin)
  /-- A call of someone else. -/
  | call (origin : Origin) (call : Call)
  /-- Tokens move without the vault. -/
  | moveTokens (token : T)

variable {T : Type} (d : Deployment) (tokens : Address → GuarantorVault.TokenClient T)
  (tok : GuarantorVault.StandardToken T) (launch : Launch)

/-- The settings the script makes once all contracts are deployed, in its order. -/
def Launch.settings : List Call :=
  [.vault (.setLoanLedger launch.admin d.ledger),
    .vault (.setLiquidationEngine launch.admin d.engine),
    .ledger (.setLiquidationEngine launch.admin d.engine),
    .ledger (.setOracle launch.admin launch.oracle),
    .ledger (.setPartner launch.admin launch.partner true),
    .ledger (.setVerifier launch.admin launch.verifier true)]

/-- Neither made nor signed by the admin. -/
def Launch.Outsider (origin : Origin) : Prop :=
  origin.invoker ≠ some launch.admin ∧ launch.admin ∉ origin.signers

instance (origin : Origin) : Decidable (launch.Outsider origin) :=
  inferInstanceAs (Decidable (_ ∧ _))

namespace Rollout

/-- Call what is deployed; `none` when the call traps or there is no such contract yet. -/
def exec (origin : Origin) (clock : Clock) : Rollout T → Call → Option (Rollout T)
  | vault w, .vault call =>
      (outcome (GuarantorVault.exec tokens (origin.env clock d.vault) call w)).map vault
  | ledger l w, .vault call =>
      (outcome (GuarantorVault.exec tokens (origin.env clock d.vault) call w)).map (ledger l)
  | ledger l w, .ledger call =>
      (outcome (LoanLedger.exec (ledgerVaults d tokens) (origin.env clock d.ledger) call l w)).map
        fun result => ledger result.1 result.2
  | settings done s, call => (Protocol.exec d tokens origin clock s call).map (settings done)
  | _, _ => none

/-- The next transaction of the script. -/
def next (origin : Origin) (clock : Clock) : Rollout T → Option (Rollout T)
  | vault w =>
      (outcome (LoanLedger.construct (origin.env clock d.ledger) launch.admin d.vault d.config
        launch.timelockSecs)).map fun l => ledger l w
  | ledger l w =>
      some (settings 0 ⟨LiquidationEngine.construct (origin.env clock d.engine) launch.admin d.vault
        d.ledger launch.timelockSecs, l, w⟩)
  | settings done s =>
      ((launch.settings d)[done]?).bind fun call =>
        (Protocol.exec d tokens origin clock s call).map (settings (done + 1))

/-- The world of the vault. -/
def world : Rollout T → GuarantorVault.World T
  | vault w => w
  | ledger _ w => w
  | settings _ s => s.world

/-- The same with other tokens. -/
def withToken (token : T) : Rollout T → Rollout T
  | vault w => vault { w with token }
  | ledger l w => ledger l { w with token }
  | settings done s => settings done { s with world := { s.world with token } }

/-- The transactions the script still has to make. -/
def remaining : Rollout T → ℕ
  | vault _ => 8
  | ledger _ _ => 7
  | settings done _ => 6 - done

end Rollout

/-- Whether an input is a transaction of the script. -/
def RolloutInput.isScript : RolloutInput T → Bool
  | script _ => true
  | _ => false

/-- The transactions of the script in a run. -/
def scripted (history : List (Transition (Rollout T) (RolloutInput T))) : ℕ :=
  history.countP fun t => t.call.any RolloutInput.isScript

/-- Runs of the script, whoever calls in between. -/
def rollout : Machine (Rollout T) (RolloutInput T) where
  initial s := ∃ (origin : Origin) (token : T), tokens launch.usdc = tok.client ∧
    s.state = .vault ⟨GuarantorVault.construct (origin.env s.clock d.vault) launch.admin launch.usdc
      launch.settlement launch.timelockSecs, token⟩
  act clock s input s' :=
    match input with
    | .script origin => d.External origin ∧ launch.admin ∈ origin.signers ∧
        s.next d tokens launch origin clock = some s'
    | .call origin call => d.External origin ∧ launch.Outsider origin ∧
        s.exec d tokens origin clock call = some s'
    -- nobody but the vault spends what the vault holds
    | .moveTokens token => tok.balance s.world.token d.vault ≤ tok.balance token d.vault ∧
        s.withToken token = s'

/-! ## What is set so far -/

/-- What administration has set at the vault after `done` settings. -/
def Launch.vaultSettings (done : ℕ) : GuarantorVault.Settings where
  governance := .construct launch.admin launch.timelockSecs
  settlementAddress := some launch.settlement
  loanLedger := if 1 ≤ done then some d.ledger else none
  liquidationEngine := if 2 ≤ done then some d.engine else none
  wasm := none

/-- What administration has set at the ledger after `done` settings. -/
def Launch.ledgerSettings (done : ℕ) : LoanLedger.Settings where
  governance := .construct launch.admin launch.timelockSecs
  liquidationEngine := if 3 ≤ done then some d.engine else none
  wasm := none

/-- Who is registered after `done` settings. -/
def Launch.registered (done : ℕ) : LoanLedger.Registrations where
  oracle := if 4 ≤ done then some launch.oracle else none
  partners a := if 5 ≤ done ∧ a = launch.partner then some true else none
  verifiers a := if 6 ≤ done ∧ a = launch.verifier then some true else none

/-- The vault after `done` settings. -/
structure VaultUnderway (done : ℕ) (w : GuarantorVault.World T) : Prop where
  solvent : GuarantorVault.Solvent tokens tok d.vault w
  settings : w.vault.settings = launch.vaultSettings d done

/-- The ledger after `done` settings. -/
structure LedgerUnderway (done now : ℕ) (l : LoanLedger.State) : Prop where
  sound : l.Sound d.config now
  vault : l.vault = some d.vault
  settings : l.settings = launch.ledgerSettings d done
  registered : l.registrations = launch.registered done
  /-- Without a partner there are no loans. -/
  empty : done ≤ 4 → l.loans = fun _ => none

/-- The engine, from its deployment on. -/
structure EngineUnderway (e : LiquidationEngine.State) : Prop where
  governance : e.governance = .construct launch.admin launch.timelockSecs
  vault : e.vault = some d.vault
  loanLedger : e.loanLedger = some d.ledger
  running : e.isPaused = none

/-- The three contracts after `done` settings. -/
structure Underway (done now : ℕ) (s : System T) : Prop where
  vault : VaultUnderway d tokens tok launch done s.world
  ledger : LedgerUnderway d launch done now s.ledger
  engine : EngineUnderway d launch s.engine
  balanced : s.Balanced

/-- What holds of a rollout that has come this far. -/
def Rollout.Sound (now : ℕ) : Rollout T → Prop
  | .vault w => VaultUnderway d tokens tok launch 0 w ∧ ∀ g, w.vault.lockedAmount g = 0
  | .ledger l w => VaultUnderway d tokens tok launch 0 w ∧ (∀ g, w.vault.lockedAmount g = 0) ∧
      LedgerUnderway d launch 0 now l
  | .settings done s => done ≤ 6 ∧ Underway d tokens tok launch done now s

/-- What the script leaves. -/
structure Launched (clock : Clock) (s : System T) : Prop where
  settled : s.Settled d tokens tok clock
  vault : s.world.vault.settings = launch.vaultSettings d 6
  ledger : s.ledger.settings = launch.ledgerSettings d 6
  registered : s.ledger.registrations = launch.registered 6
  engine : s.engine.governance = .construct launch.admin launch.timelockSecs
  running : s.engine.isPaused = none

variable {d tokens tok launch}

variable {origin : Origin} {clock : Clock} {done now : ℕ} {s s' : System T}

/-! ## Calls of others -/

theorem VaultUnderway.held {w : GuarantorVault.World T}
    (h : VaultUnderway d tokens tok launch done w) : w.vault.governance.HeldBy launch.admin := by
  have hgovernance := congrArg GuarantorVault.Settings.governance h.settings
  rw [show w.vault.governance = _ from hgovernance]
  exact ⟨rfl, rfl⟩

theorem VaultUnderway.loanLedger {w : GuarantorVault.World T}
    (h : VaultUnderway d tokens tok launch done w) :
    w.vault.loanLedger = if 1 ≤ done then some d.ledger else none :=
  congrArg GuarantorVault.Settings.loanLedger h.settings

theorem VaultUnderway.liquidationEngine {w : GuarantorVault.World T}
    (h : VaultUnderway d tokens tok launch done w) :
    w.vault.liquidationEngine = if 2 ≤ done then some d.engine else none :=
  congrArg GuarantorVault.Settings.liquidationEngine h.settings

theorem LedgerUnderway.held {l : LoanLedger.State} (h : LedgerUnderway d launch done now l) :
    l.governance.HeldBy launch.admin := by
  have hgovernance := congrArg LoanLedger.Settings.governance h.settings
  rw [show l.governance = _ from hgovernance]
  exact ⟨rfl, rfl⟩

theorem LedgerUnderway.liquidationEngine {l : LoanLedger.State}
    (h : LedgerUnderway d launch done now l) :
    l.liquidationEngine = if 3 ≤ done then some d.engine else none :=
  congrArg LoanLedger.Settings.liquidationEngine h.settings

theorem EngineUnderway.held {e : LiquidationEngine.State} (h : EngineUnderway d launch e) :
    e.governance.HeldBy launch.admin := by
  rw [h.governance]
  exact ⟨rfl, rfl⟩

theorem Launch.Outsider.not_authorized (h : launch.Outsider origin) (here : Address) :
    ¬ (origin.env clock here).authorized launch.admin := by
  rintro (hinvoker | hsigned)
  · exact h.1 hinvoker
  · exact h.2 hsigned

section Others

variable {w w' : GuarantorVault.World T} {l l' : LoanLedger.State} {e e' : LiquidationEngine.State}

/-- Whoever else calls the vault leaves it as far as it was, and locks and unlocks nothing. -/
theorem VaultUnderway.call (h : VaultUnderway d tokens tok launch done w)
    (hexternal : d.External origin) (hout : launch.Outsider origin) {call : GuarantorVault.Call}
    (hok : GuarantorVault.exec tokens (origin.env clock d.vault) call w = .ok w') :
    VaultUnderway d tokens tok launch done w' ∧
      ∀ g, w'.vault.lockedAmount g = w.vault.lockedAmount g := by
  have hsolvent := h.solvent
  have heffect := GuarantorVault.exec_effect hsolvent.sound hsolvent.uses hok
  have hsettings := GuarantorVault.settings_of_outsider hsolvent.sound hsolvent.uses h.held
    (hout.not_authorized d.vault) hok
  -- the callers that may lock and unlock have no key to sign with
  have hcaller : ∀ {caller}, (origin.env clock d.vault).authorized caller →
      ¬ (w.vault.loanLedger = some caller ∨ w.vault.liquidationEngine = some caller) := by
    rintro caller hauth (hcaller | hcaller)
    · rw [h.loanLedger] at hcaller
      split at hcaller
      · obtain rfl := Option.some.inj hcaller
        exact hexternal.not_authorized (by simp) hauth
      · cases hcaller
    · rw [h.liquidationEngine] at hcaller
      split at hcaller
      · obtain rfl := Option.some.inj hcaller
        exact hexternal.not_authorized (by simp) hauth
      · cases hcaller
  refine ⟨{ solvent := hsolvent.step (origin.env_currentContract clock d.vault) heffect
            settings := hsettings.trans h.settings }, fun g => ?_⟩
  have hposts := heffect.posts
  rw [hposts.locked]
  cases call with
  | lockCollateral => exact absurd (.inl heffect.2.1) (hcaller heffect.1)
  | releaseCollateral => exact absurd heffect.2.1 (hcaller heffect.1)
  | forfeitCollateral => exact absurd (.inr heffect.2.1) (hcaller heffect.1)
  | _ => simp [GuarantorVault.Call.postings]

/-- Before there is a partner, whoever else calls the ledger changes no more than scores. -/
theorem LedgerUnderway.call (h : LedgerUnderway d launch done clock.timestamp l) (hdone : done ≤ 4)
    (hout : launch.Outsider origin) {call : LoanLedger.Call}
    (hok : LoanLedger.exec (ledgerVaults d tokens) (origin.env clock d.ledger) call l w =
      .ok (l', w')) : LedgerUnderway d launch done clock.timestamp l' ∧ w = w' := by
  have hsound : l.Sound d.config (origin.env clock d.ledger).timestamp := h.sound
  have heffect := LoanLedger.exec_effect hsound hok
  obtain ⟨hsettings, hregistrations⟩ :=
    LoanLedger.settings_of_outsider hsound h.held (hout.not_authorized d.ledger) hok
  have hnone : ∀ id loan, l.loans id ≠ some loan := by
    intro id loan hfound
    rw [h.empty hdone] at hfound
    cases hfound
  have hunknown : ∀ partner, l.partners partner ≠ some true := by
    intro partner hpartner
    have hpartners := congrArg LoanLedger.Registrations.partners h.registered
    rw [show l.partners = _ from hpartners] at hpartner
    simp [Launch.registered, show ¬ 5 ≤ done by omega] at hpartner
  -- with no partner and no loans, all that can succeed is quiet
  have hquiet : LoanLedger.Quiet l l' ∧ w = w' := by
    cases call with
    | originate =>
        obtain ⟨loan, hchecks, -⟩ := heffect
        exact absurd hchecks.registered (hunknown _)
    | attestRepayment =>
        obtain ⟨loan, hchecks, -⟩ := heffect
        exact absurd hchecks.found (hnone _ _)
    | markGrace | markDefaulted =>
        obtain ⟨-, -, -, loan, hfound, -⟩ := heffect
        exact absurd hfound (hnone _ _)
    | reassignPartner =>
        obtain ⟨-, -, -, -, loan, hfound, -⟩ := heffect
        exact absurd hfound (hnone _ _)
    | _ => exact ⟨heffect.2, heffect.1⟩
  exact ⟨{ sound := h.sound.quiet hquiet.1
           vault := hquiet.1.vault.trans h.vault
           settings := hsettings.trans h.settings
           registered := hregistrations.trans h.registered
           empty := fun hdone => hquiet.1.loans.trans (h.empty hdone) }, hquiet.2⟩

/-- The engine can be called as far as it calls nothing: there are no loans. -/
theorem EngineUnderway.call (h : EngineUnderway d launch e) (hempty : l.loans = fun _ => none)
    (hout : launch.Outsider origin) {call : LiquidationEngine.Call}
    {x' : LoanLedger.State × GuarantorVault.World T}
    (hok : LiquidationEngine.exec (engineLedgers d) (engineVaults d tokens)
      (origin.env clock d.engine) call e (l, w) = .ok (e', x')) :
    EngineUnderway d launch e' ∧ (l, w) = x' := by
  obtain ⟨hgovernance, hpaused⟩ :=
    LiquidationEngine.settings_of_outsider h.held (hout.not_authorized d.engine) hok
  have hafter : ∀ {operation : LiquidationEngine.State → Result LiquidationEngine.Error
      LiquidationEngine.State}, LiquidationEngine.onEngine operation e (l, w) = .ok (e', x') →
        (operation e = .ok e' → LiquidationEngine.Wired e e') →
      EngineUnderway d launch e' ∧ (l, w) = x' := by
    intro operation hok hwired
    obtain ⟨hop, hx⟩ := LiquidationEngine.onEngine_eq_ok.mp hok
    exact ⟨{ governance := hgovernance.trans h.governance
             vault := (hwired hop).vault.trans h.vault
             loanLedger := (hwired hop).loanLedger.trans h.loanLedger
             running := hpaused.trans h.running }, hx⟩
  -- a crank starts by asking the ledger for its loan
  have hoverdue : ∀ {env : Env} {id : ℕ} {addr : Address} {value : Bool}
      {x₁ : LoanLedger.State × GuarantorVault.World T}, e.loanLedger = some addr →
        (engineLedgers d addr).isOverdue env id (l, w) ≠ some (value, x₁) := by
    intro env id addr value x₁ haddr hview
    obtain rfl := Option.some.inj (h.loanLedger.symm.trans haddr)
    rw [engineLedgers_ledger] at hview
    obtain ⟨hview, -⟩ := view_eq_some.mp hview
    obtain ⟨loan, hfound, -⟩ := LoanLedger.isOverdue_eq_ok.mp hview
    rw [hempty] at hfound
    cases hfound
  have hexpired : ∀ {env : Env} {id : ℕ} {addr : Address} {value : Bool}
      {x₁ : LoanLedger.State × GuarantorVault.World T}, e.loanLedger = some addr →
        (engineLedgers d addr).isGraceExpired env id (l, w) ≠ some (value, x₁) := by
    intro env id addr value x₁ haddr hview
    obtain rfl := Option.some.inj (h.loanLedger.symm.trans haddr)
    rw [engineLedgers_ledger] at hview
    obtain ⟨hview, -⟩ := view_eq_some.mp hview
    obtain ⟨loan, hfound, -⟩ := LoanLedger.isGraceExpired_eq_ok.mp hview
    rw [hempty] at hfound
    cases hfound
  cases call with
  | flagOverdue loanId =>
      obtain ⟨-, addr, haddr, x₁, hview, -⟩ := LiquidationEngine.flagOverdue_eq_ok.mp hok
      exact absurd hview (hoverdue haddr)
  | liquidate loanId =>
      obtain ⟨⟨r, e₁, x₁⟩, hliquidate, -⟩ := map_eq_ok.mp hok
      obtain ⟨-, addr, haddr, x₂, hview, -⟩ := LiquidationEngine.liquidate_eq_ok.mp hliquidate
      exact absurd hview (hexpired haddr)
  | poke loanId =>
      obtain ⟨⟨done, e₁, x₁⟩, hpoke, -⟩ := map_eq_ok.mp hok
      rcases LiquidationEngine.poke_cases hpoke with ⟨hpaused, -⟩ | ⟨-, addr, haddr, _, _, hview, -⟩
      · rw [LiquidationEngine.paused, h.running] at hpaused
        cases hpaused
      · exact absurd hview (hoverdue haddr)
  | pause admin => exact hafter hok LiquidationEngine.pause_wired
  | unpause admin => exact hafter hok LiquidationEngine.unpause_wired
  | scheduleAction admin action => exact hafter hok LiquidationEngine.scheduleAction_wired
  | executeAction admin => exact hafter hok LiquidationEngine.executeAction_wired
  | cancelAction admin => exact hafter hok LiquidationEngine.cancelAction_wired
  | proposeAdmin admin newAdmin => exact hafter hok LiquidationEngine.proposeAdmin_wired
  | acceptAdmin newAdmin => exact hafter hok LiquidationEngine.acceptAdmin_wired

end Others

/-! ## The contracts together -/

section Underway

/-- Without loans the accounts agree if nothing is locked. -/
theorem balanced_iff_of_empty (hempty : s.ledger.loans = fun _ => none) :
    s.Balanced ↔ ∀ g, s.world.vault.lockedAmount g = 0 := by
  have hheld : ∀ g, s.held g = 0 := by
    intro g
    rw [System.held]
    refine Finset.sum_eq_zero fun id _ => ?_
    rw [System.loans, hempty]
    rfl
  constructor
  · intro hbalanced g
    rw [hbalanced g, hheld]
  · intro hzero g
    rw [hzero g, hheld]

/-- Three settings wire the contracts. -/
theorem Underway.sound (h : Underway d tokens tok launch done now s) (hdone : 3 ≤ done) :
    s.Sound d tokens tok now where
  wired :=
    { engineVault := h.engine.vault
      engineLedger := h.engine.loanLedger
      ledgerVault := h.ledger.vault
      ledgerEngine := by rw [h.ledger.liquidationEngine, if_pos hdone]
      vaultLedger := by rw [h.vault.loanLedger, if_pos (by omega)]
      vaultEngine := by rw [h.vault.liquidationEngine, if_pos (by omega)] }
  solvent := h.vault.solvent
  ledger := h.ledger.sound

/-- Until a partner is registered there is nothing to do but to pay in and out. -/
theorem Underway.call_of_empty (h : Underway d tokens tok launch done clock.timestamp s)
    (hdone : done ≤ 4) (hexternal : d.External origin) (hout : launch.Outsider origin) {call : Call}
    (hok : exec d tokens origin clock s call = some s') :
    Underway d tokens tok launch done clock.timestamp s' := by
  have hempty := h.ledger.empty hdone
  have hlocked := (balanced_iff_of_empty hempty).mp h.balanced
  cases call with
  | vault call =>
      obtain ⟨w', hw', rfl⟩ := Option.map_eq_some_iff.mp hok
      obtain ⟨hvault, hsame⟩ := h.vault.call hexternal hout (outcome_eq_some.mp hw')
      refine { vault := hvault, ledger := h.ledger, engine := h.engine, balanced := ?_ }
      apply (balanced_iff_of_empty (s := { s with world := w' }) hempty).mpr
      intro g
      exact (hsame g).trans (hlocked g)
  | ledger call =>
      obtain ⟨⟨l', w'⟩, hresult, rfl⟩ := Option.map_eq_some_iff.mp hok
      obtain ⟨hledger, hworld⟩ := h.ledger.call hdone hout (outcome_eq_some.mp hresult)
      refine { vault := hworld ▸ h.vault, ledger := hledger, engine := h.engine, balanced := ?_ }
      apply (balanced_iff_of_empty (hledger.empty hdone)).mpr
      exact hworld ▸ hlocked
  | engine call =>
      obtain ⟨⟨e', l', w'⟩, hresult, rfl⟩ := Option.map_eq_some_iff.mp hok
      obtain ⟨hengine, hx⟩ := h.engine.call hempty hout (outcome_eq_some.mp hresult)
      obtain ⟨rfl, rfl⟩ := Prod.mk.inj hx
      exact { vault := h.vault, ledger := h.ledger, engine := hengine, balanced := h.balanced }

/-- Once the contracts are wired, whoever else calls them leaves them as far as they were. -/
theorem Underway.call_of_wired (h : Underway d tokens tok launch done clock.timestamp s)
    (hdone : 5 ≤ done) (hexternal : d.External origin) (hout : launch.Outsider origin) {call : Call}
    (hok : exec d tokens origin clock s call = some s') :
    Underway d tokens tok launch done clock.timestamp s' := by
  have hsound := h.sound (by omega)
  obtain ⟨hmoves, hsound'⟩ := exec_moves hsound hexternal hok
  have hbalanced' := h.balanced.step hsound hmoves
  -- what is left to show is that none of the three was administered
  have hwired := hsound'.wired
  have hvault : s'.world.vault.settings = s.world.vault.settings →
      VaultUnderway d tokens tok launch done s'.world := fun hsettings =>
    { solvent := hsound'.solvent, settings := hsettings.trans h.vault.settings }
  have hledger : s'.ledger.settings = s.ledger.settings →
      s'.ledger.registrations = s.ledger.registrations →
      LedgerUnderway d launch done clock.timestamp s'.ledger := fun hsettings hregistrations =>
    { sound := hsound'.ledger, vault := hwired.ledgerVault
      settings := hsettings.trans h.ledger.settings
      registered := hregistrations.trans h.ledger.registered
      empty := fun hle => absurd hle (by omega) }
  cases call with
  | vault call =>
      obtain ⟨w', hw', rfl⟩ := Option.map_eq_some_iff.mp hok
      have hsettings := GuarantorVault.settings_of_outsider hsound.solvent.sound hsound.solvent.uses
        h.vault.held (hout.not_authorized d.vault) (outcome_eq_some.mp hw')
      exact { vault := hvault hsettings, ledger := h.ledger, engine := h.engine
              balanced := hbalanced' }
  | ledger call =>
      obtain ⟨⟨l', w'⟩, hresult, rfl⟩ := Option.map_eq_some_iff.mp hok
      have hcall := outcome_eq_some.mp hresult
      have hstorage : s.ledger.Sound d.config (origin.env clock d.ledger).timestamp := hsound.ledger
      obtain ⟨hsettings, hregistrations⟩ := LoanLedger.settings_of_outsider hstorage h.ledger.held
        (hout.not_authorized d.ledger) hcall
      exact { vault := hvault (ledger_administers_no_vault hsound hcall)
              ledger := hledger hsettings hregistrations
              engine := h.engine
              balanced := hbalanced' }
  | engine call =>
      obtain ⟨⟨e', l', w'⟩, hresult, rfl⟩ := Option.map_eq_some_iff.mp hok
      have hcall := outcome_eq_some.mp hresult
      obtain ⟨hgovernance, hpaused⟩ := LiquidationEngine.settings_of_outsider h.engine.held
        (hout.not_authorized d.engine) hcall
      have hadministered := engine_administered hsound hcall
      exact { vault := hvault hadministered.vault
              ledger := hledger hadministered.ledger
                (congrArg LoanLedger.Directory.toRegistrations hadministered.directory)
              engine := { governance := hgovernance.trans h.engine.governance
                          vault := hwired.engineVault
                          loanLedger := hwired.engineLedger
                          running := hpaused.trans h.engine.running }
              balanced := hbalanced' }

end Underway

/-! ## The transactions of the script -/

section Script

theorem Launch.registered_five : launch.registered 5 =
    { launch.registered 4 with
      partners := Function.update (fun _ => none) launch.partner (some true) } := by
  have hpartners : (launch.registered 5).partners =
      Function.update (fun _ => none) launch.partner (some true) := by
    funext a
    by_cases ha : a = launch.partner
    · subst ha
      simp [Launch.registered]
    · simp [Launch.registered, ha]
  exact LoanLedger.Registrations.ext rfl hpartners rfl

theorem Launch.registered_six : launch.registered 6 =
    { launch.registered 5 with
      verifiers := Function.update (fun _ => none) launch.verifier (some true) } := by
  have hverifiers : (launch.registered 6).verifiers =
      Function.update (fun _ => none) launch.verifier (some true) := by
    funext a
    by_cases ha : a = launch.verifier
    · subst ha
      simp [Launch.registered]
    · simp [Launch.registered, ha]
  have hpartners : (launch.registered 6).partners = (launch.registered 5).partners := by
    funext a
    simp [Launch.registered]
  exact LoanLedger.Registrations.ext rfl hpartners hverifiers

/-- The settings of the ledger leave the vault as far as it was. -/
theorem VaultUnderway.succ {w : GuarantorVault.World T} (hdone : 2 ≤ done)
    (h : VaultUnderway d tokens tok launch done w) :
    VaultUnderway d tokens tok launch (done + 1) w where
  solvent := h.solvent
  settings := by
    rw [h.settings]
    simp only [Launch.vaultSettings, hdone, show 1 ≤ done by omega, show 1 ≤ done + 1 by omega,
      show 2 ≤ done + 1 by omega, if_true]

/-- The settings of the vault leave the ledger as far as it was. -/
theorem LedgerUnderway.succ {l : LoanLedger.State} (hdone : done ≤ 1)
    (h : LedgerUnderway d launch done now l) : LedgerUnderway d launch (done + 1) now l where
  sound := h.sound
  vault := h.vault
  settings := by
    rw [h.settings]
    simp only [Launch.ledgerSettings, show ¬ 3 ≤ done by omega, show ¬ 3 ≤ done + 1 by omega,
      if_false]
  registered := by
    rw [h.registered]
    unfold Launch.registered
    simp [show ¬ 4 ≤ done by omega, show ¬ 4 ≤ done + 1 by omega, show ¬ 5 ≤ done by omega,
      show ¬ 5 ≤ done + 1 by omega, show ¬ 6 ≤ done by omega, show ¬ 6 ≤ done + 1 by omega]
  empty hle := h.empty (by omega)

/-- A setting of the vault. -/
theorem Underway.vaultSetting (h : Underway d tokens tok launch done clock.timestamp s)
    (hdone : done ≤ 1) {call : GuarantorVault.Call} {w' : GuarantorVault.World T}
    (hok : GuarantorVault.exec tokens (origin.env clock d.vault) call s.world = .ok w')
    (hquiet : GuarantorVault.Quiet s.world.vault w'.vault)
    (hvault : VaultUnderway d tokens tok launch (done + 1) w') :
    ∃ s', exec d tokens origin clock s (.vault call) = some s' ∧
      Underway d tokens tok launch (done + 1) clock.timestamp s' := by
  refine ⟨_, Option.map_eq_some_iff.mpr ⟨w', outcome_eq_some.mpr hok, rfl⟩, ?_⟩
  exact { vault := hvault
          ledger := h.ledger.succ hdone
          engine := h.engine
          balanced := fun g => (hquiet.lockedAmount g).trans (h.balanced g) }

/-- A setting of the ledger. -/
theorem Underway.ledgerSetting (h : Underway d tokens tok launch done clock.timestamp s)
    (hdone : 2 ≤ done) {call : LoanLedger.Call} {l' : LoanLedger.State}
    (hok : LoanLedger.exec (ledgerVaults d tokens) (origin.env clock d.ledger) call s.ledger
      s.world = .ok (l', s.world))
    (hquiet : LoanLedger.Quiet s.ledger l')
    (hsettings : l'.settings = launch.ledgerSettings d (done + 1))
    (hregistered : l'.registrations = launch.registered (done + 1)) :
    ∃ s', exec d tokens origin clock s (.ledger call) = some s' ∧
      Underway d tokens tok launch (done + 1) clock.timestamp s' := by
  refine ⟨_, Option.map_eq_some_iff.mpr ⟨(l', s.world), outcome_eq_some.mpr hok, rfl⟩, ?_⟩
  refine { vault := h.vault.succ hdone, ledger := ?_, engine := h.engine, balanced := ?_ }
  · exact { sound := h.ledger.sound.quiet hquiet
            vault := hquiet.vault.trans h.ledger.vault
            settings := hsettings
            registered := hregistered
            empty := fun hle => hquiet.loans.trans (h.ledger.empty (by omega)) }
  · intro g
    exact (h.balanced g).trans (held_same hquiet.loans hquiet.loanCount).symm

/-- A setting of the ledger that leaves what administration sets. -/
theorem Underway.registers (h : Underway d tokens tok launch done clock.timestamp s)
    (hdone : 3 ≤ done) {call : LoanLedger.Call} {l' : LoanLedger.State}
    (hok : LoanLedger.exec (ledgerVaults d tokens) (origin.env clock d.ledger) call s.ledger
      s.world = .ok (l', s.world))
    (hquiet : LoanLedger.Quiet s.ledger l') (hsettings : l'.settings = s.ledger.settings)
    (hregistered : l'.registrations = launch.registered (done + 1)) :
    ∃ s', exec d tokens origin clock s (.ledger call) = some s' ∧
      Underway d tokens tok launch (done + 1) clock.timestamp s' := by
  refine h.ledgerSetting (by omega) hok hquiet ?_ hregistered
  rw [hsettings, h.ledger.settings]
  simp only [Launch.ledgerSettings, hdone, show 3 ≤ done + 1 by omega, if_true]

variable (hsigned : launch.admin ∈ origin.signers)
include hsigned

/-- The vault learns of the ledger. -/
theorem Underway.setLoanLedger (h : Underway d tokens tok launch 0 clock.timestamp s) :
    ∃ s', exec d tokens origin clock s (.vault (.setLoanLedger launch.admin d.ledger)) = some s' ∧
      Underway d tokens tok launch 1 clock.timestamp s' := by
  have hunset : s.world.vault.loanLedger = none := h.vault.loanLedger
  have hauth : (origin.env clock d.vault).authorized launch.admin := .inr hsigned
  obtain ⟨v', hv'⟩ : ∃ v', { GuarantorVault.extendInstance (origin.env clock d.vault) s.world.vault
      with loanLedger := some d.ledger } = v' := ⟨_, rfl⟩
  have hsets := GuarantorVault.setLoanLedger_eq_ok.mpr ⟨hauth, h.vault.held.1, hunset, hv'⟩
  have hquiet := GuarantorVault.setLoanLedger_quiet hsets
  refine h.vaultSetting (by omega) (GuarantorVault.onVault_eq_ok.mpr ⟨v', hsets, rfl⟩) hquiet ?_
  rw [← hv'] at hquiet ⊢
  refine { solvent := h.vault.solvent.quiet hquiet rfl, settings := ?_ }
  exact congrArg (fun settings : GuarantorVault.Settings =>
    { settings with loanLedger := some d.ledger }) h.vault.settings

/-- The vault learns of the engine. -/
theorem Underway.setVaultEngine (h : Underway d tokens tok launch 1 clock.timestamp s) :
    ∃ s', exec d tokens origin clock s (.vault (.setLiquidationEngine launch.admin d.engine)) =
        some s' ∧ Underway d tokens tok launch 2 clock.timestamp s' := by
  have hunset : s.world.vault.liquidationEngine = none := h.vault.liquidationEngine
  have hauth : (origin.env clock d.vault).authorized launch.admin := .inr hsigned
  obtain ⟨v', hv'⟩ : ∃ v', { GuarantorVault.extendInstance (origin.env clock d.vault) s.world.vault
      with liquidationEngine := some d.engine } = v' := ⟨_, rfl⟩
  have hsets := GuarantorVault.setLiquidationEngine_eq_ok.mpr
    ⟨hauth, h.vault.held.1, hunset, hv'⟩
  have hquiet := GuarantorVault.setLiquidationEngine_quiet hsets
  refine h.vaultSetting (by omega) (GuarantorVault.onVault_eq_ok.mpr ⟨v', hsets, rfl⟩) hquiet ?_
  rw [← hv'] at hquiet ⊢
  refine { solvent := h.vault.solvent.quiet hquiet rfl, settings := ?_ }
  exact congrArg (fun settings : GuarantorVault.Settings =>
    { settings with liquidationEngine := some d.engine }) h.vault.settings

/-- The ledger learns of the engine: the contracts are wired. -/
theorem Underway.setLedgerEngine (h : Underway d tokens tok launch 2 clock.timestamp s) :
    ∃ s', exec d tokens origin clock s (.ledger (.setLiquidationEngine launch.admin d.engine)) =
        some s' ∧ Underway d tokens tok launch 3 clock.timestamp s' := by
  have hunset : s.ledger.liquidationEngine = none := h.ledger.liquidationEngine
  have hauth : (origin.env clock d.ledger).authorized launch.admin := .inr hsigned
  obtain ⟨l', hl'⟩ : ∃ l', { LoanLedger.extendInstance (origin.env clock d.ledger) s.ledger with
      liquidationEngine := some d.engine } = l' := ⟨_, rfl⟩
  have hsets := LoanLedger.setLiquidationEngine_eq_ok.mpr ⟨hauth, h.ledger.held.1, hunset, hl'⟩
  refine h.ledgerSetting (by omega) (LoanLedger.onLedger_eq_ok.mpr ⟨hsets, rfl⟩)
    (LoanLedger.setLiquidationEngine_quiet hsets) ?_ ?_
  · rw [← hl']
    exact congrArg (fun settings : LoanLedger.Settings =>
      { settings with liquidationEngine := some d.engine }) h.ledger.settings
  · rw [← hl']
    exact h.ledger.registered

/-- The ledger learns of the oracle. -/
theorem Underway.setOracle (h : Underway d tokens tok launch 3 clock.timestamp s) :
    ∃ s', exec d tokens origin clock s (.ledger (.setOracle launch.admin launch.oracle)) =
        some s' ∧ Underway d tokens tok launch 4 clock.timestamp s' := by
  have hauth : (origin.env clock d.ledger).authorized launch.admin := .inr hsigned
  obtain ⟨l', hsets, hregistered⟩ :=
    LoanLedger.setOracle_succeeds hauth h.ledger.held.1 launch.oracle
  refine h.registers (by omega) (LoanLedger.onLedger_eq_ok.mpr ⟨hsets, rfl⟩)
    (LoanLedger.setOracle_quiet hsets) (LoanLedger.setOracle_settings hsets) ?_
  rw [hregistered, h.ledger.registered]
  rfl

/-- The ledger learns of the partner. Nobody is a verifier yet. -/
theorem Underway.setPartner (h : Underway d tokens tok launch 4 clock.timestamp s) :
    ∃ s', exec d tokens origin clock s (.ledger (.setPartner launch.admin launch.partner true)) =
        some s' ∧ Underway d tokens tok launch 5 clock.timestamp s' := by
  have hauth : (origin.env clock d.ledger).authorized launch.admin := .inr hsigned
  have hpartners : s.ledger.partners = fun _ => none :=
    congrArg LoanLedger.Registrations.partners h.ledger.registered
  have hverifiers : s.ledger.verifiers = fun _ => none :=
    congrArg LoanLedger.Registrations.verifiers h.ledger.registered
  have hrole : s.ledger.verifiers launch.partner ≠ some true := by
    rw [hverifiers]
    simp
  obtain ⟨l', hsets, hregistered⟩ := LoanLedger.setPartner_succeeds hauth h.ledger.held.1 hrole
  refine h.registers (by omega) (LoanLedger.onLedger_eq_ok.mpr ⟨hsets, rfl⟩)
    (LoanLedger.setPartner_quiet hsets) (LoanLedger.setPartner_settings hsets) ?_
  rw [hregistered, h.ledger.registered, hpartners, Launch.registered_five]

/-- The ledger learns of the verifier, who is not the partner. -/
theorem Underway.setVerifier (h : Underway d tokens tok launch 5 clock.timestamp s) :
    ∃ s', exec d tokens origin clock s (.ledger (.setVerifier launch.admin launch.verifier true)) =
        some s' ∧ Underway d tokens tok launch 6 clock.timestamp s' := by
  have hauth : (origin.env clock d.ledger).authorized launch.admin := .inr hsigned
  have hpartners : s.ledger.partners = (launch.registered 5).partners :=
    congrArg LoanLedger.Registrations.partners h.ledger.registered
  have hverifiers : s.ledger.verifiers = fun _ => none :=
    congrArg LoanLedger.Registrations.verifiers h.ledger.registered
  have hrole : s.ledger.partners launch.verifier ≠ some true := by
    rw [hpartners]
    simp [Launch.registered, launch.distinct.symm]
  obtain ⟨l', hsets, hregistered⟩ := LoanLedger.setVerifier_succeeds hauth h.ledger.held.1 hrole
  refine h.registers (by omega) (LoanLedger.onLedger_eq_ok.mpr ⟨hsets, rfl⟩)
    (LoanLedger.setVerifier_quiet hsets) (LoanLedger.setVerifier_settings hsets) ?_
  rw [hregistered, h.ledger.registered, hverifiers, Launch.registered_six]

/-- Each setting succeeds after those before it. -/
theorem Underway.setting (h : Underway d tokens tok launch done clock.timestamp s)
    (hdone : done < 6) : ∃ call s', (launch.settings d)[done]? = some call ∧
      exec d tokens origin clock s call = some s' ∧
      Underway d tokens tok launch (done + 1) clock.timestamp s' := by
  interval_cases done
  · obtain ⟨s', hset⟩ := h.setLoanLedger hsigned
    exact ⟨_, s', rfl, hset⟩
  · obtain ⟨s', hset⟩ := h.setVaultEngine hsigned
    exact ⟨_, s', rfl, hset⟩
  · obtain ⟨s', hset⟩ := h.setLedgerEngine hsigned
    exact ⟨_, s', rfl, hset⟩
  · obtain ⟨s', hset⟩ := h.setOracle hsigned
    exact ⟨_, s', rfl, hset⟩
  · obtain ⟨s', hset⟩ := h.setPartner hsigned
    exact ⟨_, s', rfl, hset⟩
  · obtain ⟨s', hset⟩ := h.setVerifier hsigned
    exact ⟨_, s', rfl, hset⟩

end Script

/-! ## Runs -/

section Runs

variable {r r' : Rollout T}

/-- The vault is solvent at every stage. -/
theorem Rollout.Sound.solvent (h : r.Sound d tokens tok launch now) :
    GuarantorVault.Solvent tokens tok d.vault r.world := by
  cases r with
  | vault w => exact h.1.solvent
  | ledger l w => exact h.1.solvent
  | settings done s => exact h.2.vault.solvent

/-- Nothing is locked before there is a partner. -/
theorem Rollout.Sound.unlocked (h : r.Sound d tokens tok launch now) (hearly : 2 ≤ r.remaining)
    (g : Address) : r.world.vault.lockedAmount g = 0 := by
  cases r with
  | vault w => exact h.2 g
  | ledger l w => exact h.2.1 g
  | settings done s =>
      have hdone : 2 ≤ 6 - done := hearly
      exact (balanced_iff_of_empty (h.2.ledger.empty (by omega))).mp h.2.balanced g

/-- What is left when the script is through. -/
theorem Rollout.Sound.launched (h : r.Sound d tokens tok launch clock.timestamp)
    (hover : r.remaining = 0) :
    ∃ s, r = .settings 6 s ∧ Launched d tokens tok launch clock s := by
  cases r with
  | vault w => cases hover
  | ledger l w => cases hover
  | settings done s =>
      obtain ⟨hle, hunderway⟩ := h
      have hdone : 6 - done = 0 := hover
      obtain rfl : done = 6 := by omega
      exact ⟨s, rfl, { settled := ⟨hunderway.sound (by omega), hunderway.balanced⟩
                       vault := hunderway.vault.settings
                       ledger := hunderway.ledger.settings
                       registered := hunderway.ledger.registered
                       engine := hunderway.engine.governance
                       running := hunderway.engine.running }⟩

/-- The script never gets stuck. -/
theorem Rollout.Sound.next (h : r.Sound d tokens tok launch clock.timestamp)
    (hconfig : d.config.Accepted) (hsigned : launch.admin ∈ origin.signers)
    (hmore : r.remaining ≠ 0) : ∃ r', r.next d tokens launch origin clock = some r' ∧
      r'.Sound d tokens tok launch clock.timestamp ∧ r'.remaining + 1 = r.remaining := by
  cases r with
  | vault w =>
      obtain ⟨hvault, hlocked⟩ := h
      obtain ⟨l, hl, hsettings, hregistrations⟩ := LoanLedger.construct_succeeds
        (origin.env clock d.ledger) hconfig launch.admin d.vault launch.timelockSecs
      obtain ⟨hsound, hempty, haddress, -⟩ := LoanLedger.State.Sound.construct clock.timestamp hl
      refine ⟨.ledger l w, Option.map_eq_some_iff.mpr ⟨l, outcome_eq_some.mpr hl, rfl⟩,
        ⟨hvault, hlocked, ?_⟩, rfl⟩
      exact { sound := hsound, vault := haddress, settings := hsettings
              registered := hregistrations, empty := fun _ => hempty }
  | ledger l w =>
      obtain ⟨hvault, hlocked, hledger⟩ := h
      refine ⟨_, rfl, ⟨by omega, ?_⟩, rfl⟩
      exact { vault := hvault, ledger := hledger
              engine := { governance := rfl, vault := rfl, loanLedger := rfl, running := rfl }
              balanced := (balanced_iff_of_empty (hledger.empty (by omega))).mpr hlocked }
  | settings done s =>
      obtain ⟨hle, hunderway⟩ := h
      have hdone : 6 - done ≠ 0 := hmore
      obtain ⟨call, s', hcall, hok, hunderway'⟩ := hunderway.setting hsigned (by omega)
      refine ⟨.settings (done + 1) s', ?_, ⟨by omega, hunderway'⟩, ?_⟩
      · rw [Rollout.next, hcall, Option.bind_some, hok, Option.map_some]
      · show 6 - (done + 1) + 1 = 6 - done
        omega

/-- The vault can be called at every stage. -/
theorem Rollout.exec_vault {call : GuarantorVault.Call} {w' : GuarantorVault.World T}
    (hok : GuarantorVault.exec tokens (origin.env clock d.vault) call r.world = .ok w') :
    ∃ r', r.exec d tokens origin clock (.vault call) = some r' := by
  have hcall := outcome_eq_some.mpr hok
  cases r with
  | vault w => exact ⟨_, Option.map_eq_some_iff.mpr ⟨w', hcall, rfl⟩⟩
  | ledger l w => exact ⟨_, Option.map_eq_some_iff.mpr ⟨w', hcall, rfl⟩⟩
  | settings done s =>
      exact ⟨_, Option.map_eq_some_iff.mpr ⟨_, Option.map_eq_some_iff.mpr ⟨w', hcall, rfl⟩, rfl⟩⟩

/-- Whoever else calls what is deployed leaves the script where it is. -/
theorem Rollout.Sound.call (h : r.Sound d tokens tok launch clock.timestamp)
    (hexternal : d.External origin) (hout : launch.Outsider origin) {call : Call}
    (hok : r.exec d tokens origin clock call = some r') :
    r'.Sound d tokens tok launch clock.timestamp ∧ r'.remaining = r.remaining := by
  cases r with
  | vault w =>
      obtain ⟨hvault, hlocked⟩ := h
      cases call with
      | vault call =>
          obtain ⟨w', hw', rfl⟩ := Option.map_eq_some_iff.mp hok
          obtain ⟨hvault', hsame⟩ := hvault.call hexternal hout (outcome_eq_some.mp hw')
          exact ⟨⟨hvault', fun g => (hsame g).trans (hlocked g)⟩, rfl⟩
      | ledger | engine => cases hok
  | ledger l w =>
      obtain ⟨hvault, hlocked, hledger⟩ := h
      cases call with
      | vault call =>
          obtain ⟨w', hw', rfl⟩ := Option.map_eq_some_iff.mp hok
          obtain ⟨hvault', hsame⟩ := hvault.call hexternal hout (outcome_eq_some.mp hw')
          exact ⟨⟨hvault', fun g => (hsame g).trans (hlocked g), hledger⟩, rfl⟩
      | ledger call =>
          obtain ⟨⟨l', w'⟩, hresult, rfl⟩ := Option.map_eq_some_iff.mp hok
          obtain ⟨hledger', rfl⟩ := hledger.call (by omega) hout (outcome_eq_some.mp hresult)
          exact ⟨⟨hvault, hlocked, hledger'⟩, rfl⟩
      | engine => cases hok
  | settings done s =>
      obtain ⟨hle, hunderway⟩ := h
      obtain ⟨s', hs', rfl⟩ := Option.map_eq_some_iff.mp hok
      refine ⟨⟨hle, ?_⟩, rfl⟩
      by_cases hdone : done ≤ 4
      · exact hunderway.call_of_empty hdone hexternal hout hs'
      · exact hunderway.call_of_wired (by omega) hexternal hout hs'

/-- Tokens that reach the vault without a call change nothing else. -/
theorem Rollout.Sound.moveTokens (h : r.Sound d tokens tok launch now) {token : T}
    (hle : tok.balance r.world.token d.vault ≤ tok.balance token d.vault) :
    (r.withToken token).Sound d tokens tok launch now := by
  cases r with
  | vault w =>
      obtain ⟨hvault, hlocked⟩ := h
      exact ⟨{ hvault with solvent := hvault.solvent.moveTokens hle }, hlocked⟩
  | ledger l w =>
      obtain ⟨hvault, hlocked, hledger⟩ := h
      exact ⟨{ hvault with solvent := hvault.solvent.moveTokens hle }, hlocked, hledger⟩
  | settings done s =>
      obtain ⟨hdone, hunderway⟩ := h
      refine ⟨hdone, { hunderway with vault := ?_, balanced := hunderway.balanced }⟩
      exact { hunderway.vault with solvent := hunderway.vault.solvent.moveTokens hle }

theorem Rollout.remaining_withToken (token : T) : (r.withToken token).remaining = r.remaining := by
  cases r <;> rfl

/-- What holds of a rollout goes on holding as time passes. -/
theorem Rollout.Sound.tick (h : r.Sound d tokens tok launch now) {now' : ℕ} (hle : now ≤ now') :
    r.Sound d tokens tok launch now' := by
  have hledger : ∀ {done l}, LedgerUnderway d launch done now l →
      LedgerUnderway d launch done now' l := fun hledger =>
    { hledger with sound := hledger.sound.mono hle }
  cases r with
  | vault w => exact h
  | ledger l w => exact ⟨h.1, h.2.1, hledger h.2.2⟩
  | settings done s => exact ⟨h.1, { h.2 with ledger := hledger h.2.ledger }⟩

/-- **Step.** Everything that can happen keeps what holds of a rollout, and only the admin's own
transactions bring it on. -/
theorem Rollout.Sound.act (h : r.Sound d tokens tok launch clock.timestamp)
    (hconfig : d.config.Accepted) {input : RolloutInput T}
    (hact : (rollout d tokens tok launch).act clock r input r') :
    r'.Sound d tokens tok launch clock.timestamp ∧
      r'.remaining + (if input.isScript then 1 else 0) = r.remaining := by
  cases input with
  | script origin =>
      obtain ⟨-, hsigned, hnext⟩ := hact
      by_cases hmore : r.remaining = 0
      · obtain ⟨s, rfl, -⟩ := h.launched hmore
        cases hnext
      · obtain ⟨r'', hnext'', hsound, hcount⟩ := h.next hconfig hsigned hmore
        rw [hnext] at hnext''
        obtain rfl := Option.some.inj hnext''
        exact ⟨hsound, hcount⟩
  | call origin call =>
      obtain ⟨hexternal, hout, hok⟩ := hact
      exact h.call hexternal hout hok
  | moveTokens token =>
      obtain ⟨hle, rfl⟩ := hact
      exact ⟨h.moveTokens hle, Rollout.remaining_withToken token⟩

/-- **Invariant.** In every run the script has as many transactions left as it has not made. -/
theorem Rollout.Sound.of_run (hconfig : d.config.Accepted)
    {history : List (Transition (Rollout T) (RolloutInput T))} {s : Timed (Rollout T)}
    (hrun : (rollout d tokens tok launch).Run history s) :
    s.state.Sound d tokens tok launch s.now ∧ s.state.remaining + scripted history = 8 := by
  induction hrun with
  | start initial =>
      obtain ⟨origin, token, htok, hstate⟩ := initial
      rw [hstate]
      exact ⟨⟨{ solvent := .construct htok, settings := rfl }, fun g => rfl⟩, rfl⟩
  | @step history s s' input run step ih =>
      obtain ⟨hsound, hcount⟩ := ih
      cases step with
      | tick later => exact ⟨hsound.tick later.1, hcount⟩
      | @call c s s' input acts =>
          obtain ⟨hsound', hcount'⟩ := Rollout.Sound.act hsound hconfig acts
          refine ⟨hsound', ?_⟩
          calc s'.remaining + scripted (⟨⟨c, s⟩, some input, ⟨c, s'⟩⟩ :: history)
              = s'.remaining + (scripted history + if input.isScript then 1 else 0) := by
                rw [scripted, List.countP_cons]
                rfl
            _ = s.remaining + scripted history := by
                rw [← hcount']
                ac_rfl
            _ = 8 := hcount

end Runs

/-- **Rollout.** In every run of the deploy script with a configuration the ledger accepts, with
anyone calling in between whatever is deployed so far, the script can go on: its next transaction
succeeds. All along a guarantor can withdraw what is not locked, and until a partner is registered
nothing is. When the script is through, the contracts are wired and administered as it says, and in
order. -/
theorem rollout_safe (hconfig : d.config.Accepted)
    {history : List (Transition (Rollout T) (RolloutInput T))} {s : Timed (Rollout T)}
    (hrun : (rollout d tokens tok launch).Run history s) :
    (scripted history < 8 → ∀ origin, d.External origin → launch.admin ∈ origin.signers →
      ∃ r', (rollout d tokens tok launch).Step s (some (.script origin)) ⟨s.clock, r'⟩) ∧
    (∀ origin g amount, (origin.env s.clock d.vault).authorized g → 0 < amount →
      amount ≤ s.state.world.vault.collateralBalance g - s.state.world.vault.lockedAmount g →
      ∃ r', s.state.exec d tokens origin s.clock (.vault (.withdraw g amount)) = some r') ∧
    (scripted history < 7 → ∀ g, s.state.world.vault.lockedAmount g = 0) ∧
    (scripted history = 8 →
      ∃ system, s.state = .settings 6 system ∧ Launched d tokens tok launch s.clock system) := by
  obtain ⟨hsound, hcount⟩ := Rollout.Sound.of_run hconfig hrun
  refine ⟨?_, ?_, ?_, ?_⟩
  · intro hmore origin hexternal hsigned
    obtain ⟨r', hnext, -⟩ := hsound.next hconfig hsigned (by omega)
    exact ⟨r', .call ⟨hexternal, hsigned, hnext⟩⟩
  · intro origin g amount hauth hpos hfree
    obtain ⟨w', hw'⟩ := hsound.solvent.withdraw_succeeds rfl hauth hpos hfree
    exact Rollout.exec_vault hw'
  · intro hearly
    exact hsound.unlocked (by omega)
  · intro hover
    exact hsound.launched (by omega)

/-- How the sample contracts are launched. -/
def sampleLaunch : Launch where
  admin := ⟨1⟩
  usdc := ⟨3⟩
  settlement := ⟨2⟩
  timelockSecs := 0
  oracle := ⟨7⟩
  partner := ⟨5⟩
  verifier := ⟨6⟩
  distinct := by decide

/-- The rollout of the sample contracts. -/
abbrev sampleRollout : Machine (Rollout (Address → ℕ)) (RolloutInput (Address → ℕ)) :=
  rollout sample (fun _ => GuarantorVault.tableToken.client) GuarantorVault.tableToken sampleLaunch

/-- With only the vault deployed, a guarantor pays in 1000. The admin deploys the ledger and can go
on, and the guarantor can take all of it back. -/
theorem rollout_safe_paidIn : ∃ history s, sampleRollout.Run history s ∧ scripted history = 1 ∧
    s.state.world.vault.collateralBalance ⟨4⟩ = 1000 ∧
    (∃ r', s.state.exec sample (fun _ => GuarantorVault.tableToken.client) sampleOrigin s.clock
      (.vault (.withdraw ⟨4⟩ 1000)) = some r') ∧
    ∃ r', sampleRollout.Step s (some (.script sampleOrigin)) ⟨s.clock, r'⟩ := by
  let clock : Clock := ⟨0, 0⟩
  let guarantor : Origin := ⟨none, [⟨4⟩], 0⟩
  let token : Address → ℕ := fun a => if a = ⟨4⟩ then 1000 else 0
  let fresh : Rollout (Address → ℕ) := .vault ⟨GuarantorVault.construct
    (sampleOrigin.env clock sample.vault) sampleLaunch.admin sampleLaunch.usdc
    sampleLaunch.settlement sampleLaunch.timelockSecs, token⟩
  have hplayed : ((fresh.exec sample (fun _ => GuarantorVault.tableToken.client) guarantor clock
      (.vault (.deposit ⟨4⟩ 1000))).any fun r₁ =>
      (r₁.next sample (fun _ => GuarantorVault.tableToken.client) sampleLaunch sampleOrigin
        clock).any fun r₂ => r₂.world.vault.collateralBalance ⟨4⟩ = 1000 ∧
          r₂.world.vault.lockedAmount ⟨4⟩ = 0) = true := by decide +kernel
  obtain ⟨r₁, hdeposit, hplayed⟩ := Option.any_eq_true _ _ |>.mp hplayed
  obtain ⟨r₂, hledger, hplayed⟩ := Option.any_eq_true _ _ |>.mp hplayed
  obtain ⟨hbalance, hlocked⟩ := of_decide_eq_true hplayed
  have hstart : sampleRollout.Run [] ⟨clock, fresh⟩ := .start ⟨sampleOrigin, token, rfl, rfl⟩
  have hpaysIn : sampleRollout.act clock fresh (.call guarantor (.vault (.deposit ⟨4⟩ 1000))) r₁ :=
    ⟨by decide, by decide, hdeposit⟩
  have hdeploys : sampleRollout.act clock r₁ (.script sampleOrigin) r₂ :=
    ⟨by decide, by decide, hledger⟩
  have hrun := (hstart.step (.call hpaysIn)).step (.call hdeploys)
  have hsigned : (sampleOrigin.env clock sample.vault).authorized ⟨4⟩ := by decide
  have hconfig : sample.config.Accepted := ⟨by decide, by decide, by decide⟩
  obtain ⟨hscript, hwithdraw, -⟩ := rollout_safe hconfig hrun
  refine ⟨_, _, hrun, rfl, hbalance, hwithdraw sampleOrigin ⟨4⟩ 1000 hsigned (by decide) ?_,
    hscript ?_ sampleOrigin (by decide) (by decide)⟩
  · rw [hbalance, hlocked]
    decide
  · show 1 < 8
    decide

end RemitCollateral.Protocol
