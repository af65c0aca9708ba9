import RemitCollateral.GuarantorVault.Administration
import RemitCollateral.LiquidationEngine.Renewal
import RemitCollateral.LoanLedger.Administration
import RemitCollateral.Protocol.Runs

/-! # What the contracts have each other do

The ledger calls the vault, and the engine calls both. None of these calls administers the contract
it is made on: settings and directories change by calls from outside only. -/

namespace RemitCollateral.Protocol

open Soroban

variable {T : Type} {d : Deployment} {tokens : Address → GuarantorVault.TokenClient T}
  {tok : GuarantorVault.StandardToken T} {origin : Origin} {clock : Clock} {s s' : System T}
  {l : LoanLedger.State} {w : GuarantorVault.World T}

/-- The ledger and the vault are administered as in `l` and `w`. -/
structure Administered (d : Deployment) (tokens : Address → GuarantorVault.TokenClient T)
    (tok : GuarantorVault.StandardToken T) (l : LoanLedger.State) (w : GuarantorVault.World T)
    (x : LoanLedger.State × GuarantorVault.World T) : Prop where
  ledger : x.1.settings = l.settings
  directory : x.1.directory = l.directory
  solvent : GuarantorVault.Solvent tokens tok d.vault x.2
  vault : x.2.vault.settings = w.vault.settings

/-- The vault is not administered by what other contracts have it do. -/
theorem Administered.vaultCall {x : LoanLedger.State × GuarantorVault.World T}
    (h : Administered d tokens tok l w x) {env : Env} (hself : env.currentContract = d.vault)
    {call : GuarantorVault.Call} (hcall : call.guarantor.isSome) {w' : GuarantorVault.World T}
    (hok : GuarantorVault.exec tokens env call x.2 = .ok w') :
    Administered d tokens tok l w (x.1, w') where
  ledger := h.ledger
  directory := h.directory
  solvent := h.solvent.step hself
    (GuarantorVault.exec_effect h.solvent.sound h.solvent.uses hok)
  vault := (GuarantorVault.settings_of_guarantor h.solvent.sound h.solvent.uses hcall hok).trans
    h.vault

/-- A ledger that keeps its settings and its directory is administered as it was. -/
theorem Administered.ledgerCall {x x' : LoanLedger.State × GuarantorVault.World T}
    (h : Administered d tokens tok l w x) (hworld : x.2 = x'.2)
    (hsettings : x'.1.settings = x.1.settings)
    (hdirectory : x'.1.directory = x.1.directory) :
    Administered d tokens tok l w x' where
  ledger := hsettings.trans h.ledger
  directory := hdirectory.trans h.directory
  solvent := hworld ▸ h.solvent
  vault := hworld ▸ h.vault

/-- What the engine has the ledger do administers nothing. -/
theorem engineLedger_administered (env : Env) :
    (engineLedger : LiquidationEngine.LedgerClient
      (LoanLedger.State × GuarantorVault.World T)).Preserves env
        (Administered d tokens tok l w) where
  isOverdue h hview := by
    obtain ⟨hview, hworld⟩ := view_eq_some.mp hview
    obtain ⟨-, -, -, hl⟩ := LoanLedger.isOverdue_eq_ok.mp hview
    exact h.ledgerCall hworld (hl ▸ rfl) (hl ▸ rfl)
  isGraceExpired h hview := by
    obtain ⟨hview, hworld⟩ := view_eq_some.mp hview
    obtain ⟨-, -, -, hl⟩ := LoanLedger.isGraceExpired_eq_ok.mp hview
    exact h.ledgerCall hworld (hl ▸ rfl) (hl ▸ rfl)
  loanGuarantor h hview := by
    obtain ⟨hview, hworld⟩ := view_eq_some.mp hview
    obtain ⟨-, -, -, hl⟩ := LoanLedger.loanGuarantor_eq_ok.mp hview
    exact h.ledgerCall hworld (hl ▸ rfl) (hl ▸ rfl)
  loanOutstanding h hview := by
    obtain ⟨hview, hworld⟩ := view_eq_some.mp hview
    exact h.ledgerCall hworld (LoanLedger.loanOutstanding_settings hview)
      (LoanLedger.loanOutstanding_directory hview)
  loanCollateralRemaining h hview := by
    obtain ⟨hview, hworld⟩ := view_eq_some.mp hview
    exact h.ledgerCall hworld (LoanLedger.loanCollateralRemaining_settings hview)
      (LoanLedger.loanCollateralRemaining_directory hview)
  markGrace h hmark := by
    obtain ⟨hmark, hworld⟩ := mark_eq_some.mp hmark
    exact h.ledgerCall hworld (LoanLedger.markGrace_settings hmark)
      (LoanLedger.markGrace_directory hmark)
  markDefaulted h hmark := by
    obtain ⟨hmark, hworld⟩ := mark_eq_some.mp hmark
    exact h.ledgerCall hworld (LoanLedger.markDefaulted_settings hmark)
      (LoanLedger.markDefaulted_directory hmark)

/-- What the engine has the vault do administers nothing. -/
theorem engineVault_administered {env : Env} (hself : env.currentContract = d.vault) :
    (engineVault tokens).Preserves env (Administered d tokens tok l w) where
  releaseCollateral h hrelease := by
    obtain ⟨w', hw', rfl⟩ := Option.map_eq_some_iff.mp hrelease
    exact h.vaultCall hself rfl (outcome_eq_some.mp hw')
  forfeitCollateral h hforfeit := by
    obtain ⟨w', hw', rfl⟩ := Option.map_eq_some_iff.mp hforfeit
    exact h.vaultCall hself rfl (outcome_eq_some.mp hw')

/-- A call of the engine administers neither of the others. -/
theorem engine_administered (h : s.Sound d tokens tok clock.timestamp)
    {call : LiquidationEngine.Call} {e' : LiquidationEngine.State}
    {x' : LoanLedger.State × GuarantorVault.World T}
    (hok : LiquidationEngine.exec (engineLedgers d) (engineVaults d tokens)
      (origin.env clock d.engine) call s.engine (s.ledger, s.world) = .ok (e', x')) :
    Administered d tokens tok s.ledger s.world x' := by
  have hstart : Administered d tokens tok s.ledger s.world (s.ledger, s.world) :=
    ⟨rfl, rfl, h.solvent, rfl⟩
  refine LiquidationEngine.exec_preserves (fun addr haddr => ?_) (fun addr haddr => ?_) hstart hok
  · obtain rfl := h.wired.eq_engineLedger haddr
    rw [engineLedgers_ledger]
    exact engineLedger_administered _
  · obtain rfl := h.wired.eq_engineVault haddr
    rw [engineVaults_vault]
    exact engineVault_administered rfl

/-- A call of the ledger does not administer the vault. -/
theorem ledger_administers_no_vault (h : s.Sound d tokens tok clock.timestamp)
    {call : LoanLedger.Call} {l' : LoanLedger.State} {w' : GuarantorVault.World T}
    (hok : LoanLedger.exec (ledgerVaults d tokens) (origin.env clock d.ledger) call s.ledger
      s.world = .ok (l', w')) : w'.vault.settings = s.world.vault.settings := by
  have hstorage : s.ledger.Sound d.config (origin.env clock d.ledger).timestamp := h.ledger
  have heffect := LoanLedger.exec_effect hstorage hok
  have hsolvent := h.solvent
  cases call with
  | originate =>
      obtain ⟨loan, -, ⟨vault, hvault, hlock⟩, -⟩ := heffect
      exact GuarantorVault.settings_of_guarantor hsolvent.sound hsolvent.uses rfl
        (h.wired.lockCall hvault hlock)
  | attestRepayment =>
      obtain ⟨loan, -, hreleases, -⟩ := heffect
      rcases h.wired.releaseCall hreleases with ⟨-, hcall⟩ | ⟨-, hworld⟩
      · exact GuarantorVault.settings_of_guarantor hsolvent.sound hsolvent.uses rfl hcall
      · rw [hworld]
  | _ =>
      obtain ⟨hworld, -⟩ := heffect
      rw [hworld]

/-- **Directory.** A call leaves the directory that it announces to the ledger. -/
theorem exec_directory (h : s.Sound d tokens tok clock.timestamp) {call : Call}
    (hok : exec d tokens origin clock s call = some s') :
    s'.ledger.directory = match call with
      | .ledger call => call.announce s.ledger.directory
      | _ => s.ledger.directory := by
  cases call with
  | vault call =>
      obtain ⟨w', -, rfl⟩ := Option.map_eq_some_iff.mp hok
      rfl
  | ledger call =>
      obtain ⟨⟨l', w'⟩, hresult, rfl⟩ := Option.map_eq_some_iff.mp hok
      have hstorage : s.ledger.Sound d.config (origin.env clock d.ledger).timestamp := h.ledger
      exact LoanLedger.exec_directory hstorage (outcome_eq_some.mp hresult)
  | engine call =>
      obtain ⟨⟨e', l', w'⟩, hresult, rfl⟩ := Option.map_eq_some_iff.mp hok
      exact (engine_administered h (outcome_eq_some.mp hresult)).directory

end RemitCollateral.Protocol
