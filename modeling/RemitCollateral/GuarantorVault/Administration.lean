import RemitCollateral.GuarantorVault.Solvency
import RemitCollateral.Host.Provenance

/-! # Who administers the vault

The vault embeds the governance pattern: seven entry points are administration, and nothing else
touches what they set, whatever the token does. The runs here are the runs over any tokens that do
not administer the vault themselves. -/

namespace RemitCollateral.GuarantorVault

open Soroban

/-! ## Settings -/

/-- The part of the storage that only administration changes. -/
structure Settings where
  governance : Governance Action
  settlementAddress : Option Address
  loanLedger : Option Address
  liquidationEngine : Option Address
  wasm : Option BytesN32

/-- The settings of a state. -/
def State.settings (s : State) : Settings where
  governance := s.governance
  settlementAddress := s.settlementAddress
  loanLedger := s.loanLedger
  liquidationEngine := s.liquidationEngine
  wasm := s.wasm

variable {T : Type}

/-- A token whose functions leave the vault's settings as they found them. The host lets no contract
call back into one that is running. -/
structure TokenClient.KeepsSettings (client : TokenClient T) : Prop where
  balance : ∀ {a w balance w'}, client.balance a w = some (balance, w') →
    w'.vault.settings = w.vault.settings
  transfer : ∀ {src dst amount w w'}, client.transfer src dst amount w = some w' →
    w'.vault.settings = w.vault.settings

/-- A standard token writes no storage but its own. -/
theorem StandardToken.client_keepsSettings (tok : StandardToken T) : tok.client.KeepsSettings where
  balance h := by
    obtain ⟨-, rfl⟩ := Prod.mk.inj (Option.some.inj h)
    rfl
  transfer h := by
    obtain ⟨t', -, rfl⟩ := StandardToken.client_transfer_eq_some.mp h
    rfl

section Operations

variable {tokens : Address → TokenClient T} {env : Env} {g caller : Address} {amount : ℤ}
  {s s' : State} {w w' : World T}

theorem settings_vaultOf (env : Env) (g : Address) (s : State) :
    (vaultOf env g s).2.settings = s.settings := by
  unfold vaultOf
  cases s.vaults g <;> rfl

theorem settings_save {vault : Vault} (h : save env vault s = .ok s') :
    s'.settings = s.settings := by
  obtain ⟨-, -, -, rfl⟩ := save_eq_ok.mp h
  rfl

/-- A record read from a vault whose lock was taken leaves the settings. -/
theorem settings_vaultOf_entered (env : Env) (g : Address) (s : State) :
    (vaultOf env g (extendInstance env { s with reentrancyLock := true })).2.settings =
      s.settings := settings_vaultOf env g _

theorem usdcClient_keepsSettings (h : ∀ a, (tokens a).KeepsSettings) {client : TokenClient T}
    (hclient : usdcClient tokens s = .ok client) : client.KeepsSettings := by
  obtain ⟨usdc, -, hclient⟩ := bind_eq_ok.mp hclient
  exact pure_eq_ok.mp hclient ▸ h usdc

theorem lockCollateral_settings (h : lockCollateral env caller g amount s = .ok s') :
    s'.settings = s.settings := by
  simp only [lockCollateral, bind_eq_ok, enter_eq_ok, pure_eq_ok] at h
  obtain ⟨_, ⟨-, rfl⟩, -, -, -, -, -, -, _, -, -, -, _, -, _, hsave, rfl⟩ := h
  exact (settings_save hsave).trans (settings_vaultOf_entered env g s)

theorem releaseCollateral_settings (h : releaseCollateral env caller g amount s = .ok s') :
    s'.settings = s.settings := by
  simp only [releaseCollateral, bind_eq_ok, enter_eq_ok, pure_eq_ok] at h
  obtain ⟨_, ⟨-, rfl⟩, -, -, -, -, -, -, -, -, _, -, _, hsave, rfl⟩ := h
  exact (settings_save hsave).trans (settings_vaultOf_entered env g s)

theorem forfeitCollateral_settings (htokens : ∀ a, (tokens a).KeepsSettings)
    (h : forfeitCollateral tokens env caller g amount w = .ok w') :
    w'.vault.settings = w.vault.settings := by
  simp only [forfeitCollateral, bind_eq_ok, enter_eq_ok, callee_eq_ok, pure_eq_ok] at h
  obtain ⟨_, ⟨-, rfl⟩, -, -, -, -, -, -, -, -, _, -, _, -, _, hsave, _, -, _, hclient, _, htransfer,
    rfl⟩ := h
  have hpaid := (usdcClient_keepsSettings htokens hclient).transfer htransfer
  exact hpaid.trans ((settings_save hsave).trans (settings_vaultOf_entered env g w.vault))

theorem withdraw_settings (htokens : ∀ a, (tokens a).KeepsSettings)
    (h : withdraw tokens env g amount w = .ok w') : w'.vault.settings = w.vault.settings := by
  simp only [withdraw, bind_eq_ok, enter_eq_ok, callee_eq_ok, pure_eq_ok] at h
  obtain ⟨_, ⟨-, rfl⟩, -, -, -, -, _, -, -, -, _, -, _, hsave, _, hclient, _, htransfer, rfl⟩ := h
  have hpaid := (usdcClient_keepsSettings htokens hclient).transfer htransfer
  exact hpaid.trans ((settings_save hsave).trans (settings_vaultOf_entered env g w.vault))

theorem deposit_settings (htokens : ∀ a, (tokens a).KeepsSettings)
    (h : deposit tokens env g amount w = .ok w') : w'.vault.settings = w.vault.settings := by
  simp only [deposit, bind_eq_ok, enter_eq_ok, callee_eq_ok, pure_eq_ok, Prod.exists] at h
  obtain ⟨_, ⟨-, rfl⟩, -, -, -, -, _, hclient, _, w₁, hbefore, w₂, htransfer, _, w₃, hafter, _, -,
    -, -, _, -, _, hsave, rfl⟩ := h
  have hkeeps := usdcClient_keepsSettings htokens hclient
  calc _ = (vaultOf env g w₃.vault).2.settings := settings_save hsave
    _ = w₃.vault.settings := settings_vaultOf env g _
    _ = w₂.vault.settings := hkeeps.balance hafter
    _ = w₁.vault.settings := hkeeps.transfer htransfer
    _ = w.vault.settings := (hkeeps.balance hbefore).trans rfl

theorem getAvailable_settings {available : ℤ} (h : getAvailable env g s = .ok (available, s')) :
    s'.settings = s.settings := by
  simp only [getAvailable, bind_eq_ok, pure_eq_ok, Prod.mk.injEq] at h
  obtain ⟨-, -, -, rfl⟩ := h
  exact settings_vaultOf env g s

end Operations

/-! ## What a call does to the settings -/

/-- The call of the governance pattern that an entry point makes. -/
def Call.governance : Call → Option (GovernanceCall Action)
  | .scheduleAction admin action => some (.schedule admin action)
  | .executeAction admin => some (.execute admin)
  | .cancelAction admin => some (.cancel admin)
  | .proposeAdmin admin newAdmin => some (.propose admin newAdmin)
  | .acceptAdmin newAdmin => some (.accept newAdmin)
  | _ => none

/-- What an executed action sets. -/
def Settings.apply (settings : Settings) : Action → Settings
  | .upgrade wasmHash => { settings with wasm := some wasmHash }
  | .setSettlement settlement => { settings with settlementAddress := some settlement }

/-- The ways a call treats the settings. -/
inductive Administers (env : Env) (s s' : State) : Call → Prop
  /-- It does not touch them. -/
  | leaves {call : Call} (ungoverned : call.governance = none)
      (settings : s'.settings = s.settings) : Administers env s s' call
  /-- It registers the ledger, which was not set. -/
  | setLoanLedger {admin ledger : Address} (unset : s.loanLedger = none)
      (settings : s'.settings = { s.settings with loanLedger := some ledger }) :
      Administers env s s' (.setLoanLedger admin ledger)
  /-- It registers the engine, which was not set. -/
  | setLiquidationEngine {admin engine : Address} (unset : s.liquidationEngine = none)
      (settings : s'.settings = { s.settings with liquidationEngine := some engine }) :
      Administers env s s' (.setLiquidationEngine admin engine)
  /-- It is a call of the governance pattern that carries nothing out. -/
  | governs {call : Call} {request : GovernanceCall Action}
      (governed : call.governance = some request)
      (performed : request.perform governanceErrors env s.governance = .ok s'.governance)
      (settings : s'.settings = { s.settings with governance := s'.governance }) :
      Administers env s s' call
  /-- It carries the pending action out. -/
  | executes {admin : Address} {action : Action}
      (taken : s.governance.executeAction governanceErrors env admin = .ok (action, s'.governance))
      (settings : s'.settings = { s.settings with governance := s'.governance }.apply action) :
      Administers env s s' (.executeAction admin)

section Administers

variable {tokens : Address → TokenClient T} {env : Env} {s s' : State} {w w' : World T}
  {call : Call}

theorem executeAction_administers {admin : Address} (h : executeAction env admin s = .ok s') :
    Administers env s s' (.executeAction admin) := by
  simp only [executeAction, bind_eq_ok] at h
  obtain ⟨⟨action, governance⟩, htaken, h⟩ := h
  cases action with
  | upgrade wasmHash =>
      obtain rfl := pure_eq_ok.mp h
      exact .executes htaken rfl
  | setSettlement settlement =>
      obtain rfl := pure_eq_ok.mp h
      exact .executes htaken rfl

/-- Every call treats the settings in one of these ways. -/
theorem exec_administers (htokens : ∀ a, (tokens a).KeepsSettings)
    (h : exec tokens env call w = .ok w') : Administers env w.vault w'.vault call := by
  cases call with
  | deposit => exact .leaves rfl (deposit_settings htokens h)
  | withdraw => exact .leaves rfl (withdraw_settings htokens h)
  | forfeitCollateral => exact .leaves rfl (forfeitCollateral_settings htokens h)
  | lockCollateral =>
      obtain ⟨s', hs, rfl⟩ := onVault_eq_ok.mp h
      exact .leaves rfl (lockCollateral_settings hs)
  | releaseCollateral =>
      obtain ⟨s', hs, rfl⟩ := onVault_eq_ok.mp h
      exact .leaves rfl (releaseCollateral_settings hs)
  | getVault g | getBalance g | getLocked g =>
      simp only [exec, onVault_eq_ok, pure_eq_ok, exists_eq_left'] at h
      obtain rfl := h
      exact .leaves rfl (settings_vaultOf env g w.vault)
  | getAvailable =>
      simp only [exec, onVault_eq_ok, map_eq_ok] at h
      obtain ⟨-, ⟨⟨available, s₁⟩, hget, rfl⟩, rfl⟩ := h
      exact .leaves rfl (getAvailable_settings hget)
  | setLoanLedger =>
      obtain ⟨s', hs, rfl⟩ := onVault_eq_ok.mp h
      obtain ⟨-, -, hunset, rfl⟩ := setLoanLedger_eq_ok.mp hs
      exact .setLoanLedger hunset rfl
  | setLiquidationEngine =>
      obtain ⟨s', hs, rfl⟩ := onVault_eq_ok.mp h
      obtain ⟨-, -, hunset, rfl⟩ := setLiquidationEngine_eq_ok.mp hs
      exact .setLiquidationEngine hunset rfl
  | scheduleAction | cancelAction | proposeAdmin | acceptAdmin =>
      obtain ⟨s', hs, rfl⟩ := onVault_eq_ok.mp h
      obtain ⟨governance, hperformed, hs⟩ := bind_eq_ok.mp hs
      obtain rfl := pure_eq_ok.mp hs
      exact .governs rfl hperformed rfl
  | executeAction =>
      obtain ⟨s', hs, rfl⟩ := onVault_eq_ok.mp h
      exact executeAction_administers hs

/-- The collateral operations change no settings, whoever calls them. -/
theorem settings_of_guarantor {tok : StandardToken T} (hsound : w.vault.Sound)
    (huses : w.vault.Uses tokens tok) (hcall : call.guarantor.isSome)
    (h : exec tokens env call w = .ok w') : w'.vault.settings = w.vault.settings := by
  have heffect := exec_effect hsound huses h
  cases call with
  | deposit g amount =>
      obtain ⟨-, -, t', -, -, -, rfl⟩ := heffect
      rfl
  | withdraw g amount =>
      obtain ⟨-, -, -, t', -, rfl⟩ := heffect
      rfl
  | lockCollateral caller g amount =>
      obtain ⟨-, -, -, -, rfl⟩ := heffect
      rfl
  | releaseCollateral caller g amount =>
      obtain ⟨-, -, -, -, rfl⟩ := heffect
      rfl
  | forfeitCollateral caller g amount =>
      obtain ⟨-, -, -, -, settlement, -, t', -, rfl⟩ := heffect
      rfl
  | _ => cases hcall

/-- What the admin has not signed changes no settings. -/
theorem settings_of_outsider {tok : StandardToken T} (hsound : w.vault.Sound)
    (huses : w.vault.Uses tokens tok) {admin : Address} (hheld : w.vault.governance.HeldBy admin)
    (hout : ¬ env.authorized admin) (h : exec tokens env call w = .ok w') :
    w'.vault.settings = w.vault.settings := by
  have hstored : ∀ caller, w.vault.governance.admin = some caller → ¬ env.authorized caller := by
    intro caller hcaller hsigned
    rw [Option.some.inj (hcaller.symm.trans hheld.1)] at hsigned
    exact hout hsigned
  -- every other call leaves the token alone
  have hother : exec (fun _ => tok.client) env call w = .ok w' →
      w'.vault.settings = w.vault.settings := by
    intro h'
    cases exec_administers (fun _ => tok.client_keepsSettings) h' with
    | leaves _ settings => exact settings
    | setLoanLedger =>
        obtain ⟨s', hs, -⟩ := onVault_eq_ok.mp h'
        obtain ⟨hsigned, hadmin, -⟩ := setLoanLedger_eq_ok.mp hs
        exact absurd hsigned (hstored _ hadmin)
    | setLiquidationEngine =>
        obtain ⟨s', hs, -⟩ := onVault_eq_ok.mp h'
        obtain ⟨hsigned, hadmin, -⟩ := setLiquidationEngine_eq_ok.mp hs
        exact absurd hsigned (hstored _ hadmin)
    | governs _ performed =>
        exact absurd (GovernanceCall.authorized_of_heldBy hheld performed) hout
    | executes taken =>
        obtain ⟨⟨hsigned, hadmin⟩, -⟩ := Governance.executeAction_eq_ok.mp taken
        exact absurd hsigned (hstored _ hadmin)
  cases call with
  | deposit | withdraw | lockCollateral | releaseCollateral | forfeitCollateral =>
      exact settings_of_guarantor hsound huses rfl h
  | _ => exact hother h

end Administers

/-! ## Runs over any tokens -/

section Runs

variable (tokens : Address → TokenClient T) (here : Address)

/-- Runs of the vault contract at `here` over any tokens, up to the first upgrade. -/
def openMachine : Machine (World T) (Input T) where
  initial s := ∃ (origin : Origin) (admin usdc settlement : Address) (timelockSecs : ℕ),
    s.state.vault = construct (origin.env s.clock here) admin usdc settlement timelockSecs
  act clock w input w' :=
    match input with
    | .call origin call => w.vault.wasm = none ∧ exec tokens (origin.env clock here) call w = .ok w'
    | .moveTokens token => { w with token } = w'

/-- The call of the governance pattern that an input makes. -/
def Input.governance : Input T → Option (Origin × GovernanceCall Action)
  | .call origin entry => entry.governance.map (origin, ·)
  | .moveTokens _ => none

/-- The vault changes as an action says: it gets other code, or another settlement address. -/
def Becomes : Action → World T → World T → Prop
  | .upgrade wasmHash, w, w' => w.vault.wasm ≠ some wasmHash ∧ w'.vault.wasm = some wasmHash
  | .setSettlement settlement, w, w' => w.vault.settlementAddress ≠ some settlement ∧
      w'.vault.settlementAddress = some settlement

variable {tokens here} {env : Env} {s s' : State} {w w' : World T} {call : Call} {action : Action}

/-- A call that is not one of the pattern leaves its entries alone. -/
theorem Administers.quiet (h : Administers env s s' call) (hcall : call.governance = none) :
    s'.governance = s.governance := by
  cases h with
  | leaves _ settings => exact congrArg Settings.governance settings
  | setLoanLedger _ settings => exact congrArg Settings.governance settings
  | setLiquidationEngine _ settings => exact congrArg Settings.governance settings
  | governs governed =>
      rw [hcall] at governed
      cases governed
  | executes => cases hcall

/-- A call of the pattern is performed on its entries. -/
theorem Administers.perform (h : Administers env s s' call) {request : GovernanceCall Action}
    (hcall : call.governance = some request) :
    request.perform governanceErrors env s.governance = .ok s'.governance := by
  cases h with
  | leaves ungoverned =>
      rw [ungoverned] at hcall
      cases hcall
  | setLoanLedger | setLiquidationEngine => cases hcall
  | governs governed performed =>
      obtain rfl := Option.some.inj (governed.symm.trans hcall)
      exact performed
  | executes taken =>
      obtain rfl := Option.some.inj hcall
      exact map_eq_ok.mpr ⟨_, taken, rfl⟩

/-- Only an execution changes the code or the settlement address. -/
theorem Administers.becomes (h : Administers env w.vault w'.vault call)
    (hbecomes : Becomes action w w') : ∃ admin, call = .executeAction admin ∧
      w.vault.governance.executeAction governanceErrors env admin =
        .ok (action, w'.vault.governance) := by
  -- settings that agree on the code and the settlement address show no change
  have hsame : ∀ settings : Settings, w'.vault.settings = settings →
      settings.wasm = w.vault.wasm → settings.settlementAddress = w.vault.settlementAddress →
        False := by
    rintro settings rfl hwasm hsettlement
    cases action with
    | upgrade wasmHash => exact hbecomes.1 (hwasm.symm.trans hbecomes.2)
    | setSettlement settlement => exact hbecomes.1 (hsettlement.symm.trans hbecomes.2)
  cases h with
  | leaves _ settings => exact (hsame _ settings rfl rfl).elim
  | setLoanLedger _ settings => exact (hsame _ settings rfl rfl).elim
  | setLiquidationEngine _ settings => exact (hsame _ settings rfl rfl).elim
  | governs _ _ settings => exact (hsame _ settings rfl rfl).elim
  | @executes admin taken htaken settings =>
      -- what changed is what the action taken sets, so it is the action that the change shows
      suffices htook : taken = action from ⟨admin, rfl, htook ▸ htaken⟩
      have hwasm := congrArg Settings.wasm settings
      have hsettlement := congrArg Settings.settlementAddress settings
      cases taken with
      | upgrade wasmHash =>
          cases action with
          | upgrade wasmHash' => exact congrArg _ (Option.some.inj (hwasm.symm.trans hbecomes.2))
          | setSettlement settlement => exact absurd (hsettlement.symm.trans hbecomes.2) hbecomes.1
      | setSettlement settlement =>
          cases action with
          | upgrade wasmHash => exact absurd (hwasm.symm.trans hbecomes.2) hbecomes.1
          | setSettlement settlement' =>
              exact congrArg _ (Option.some.inj (hsettlement.symm.trans hbecomes.2))

/-- No call replaces the ledger. -/
theorem Administers.loanLedger (h : Administers env s s' call) {ledger : Address}
    (hledger : s.loanLedger = some ledger) : s'.loanLedger = some ledger := by
  cases h with
  | leaves _ settings => exact (congrArg Settings.loanLedger settings).trans hledger
  | setLoanLedger unset =>
      rw [unset] at hledger
      cases hledger
  | setLiquidationEngine _ settings => exact (congrArg Settings.loanLedger settings).trans hledger
  | governs _ _ settings => exact (congrArg Settings.loanLedger settings).trans hledger
  | @executes admin action _ settings =>
      cases action <;> exact (congrArg Settings.loanLedger settings).trans hledger

/-- No call replaces the engine. -/
theorem Administers.liquidationEngine (h : Administers env s s' call) {engine : Address}
    (hengine : s.liquidationEngine = some engine) : s'.liquidationEngine = some engine := by
  cases h with
  | leaves _ settings => exact (congrArg Settings.liquidationEngine settings).trans hengine
  | setLoanLedger _ settings => exact (congrArg Settings.liquidationEngine settings).trans hengine
  | setLiquidationEngine unset =>
      rw [unset] at hengine
      cases hengine
  | governs _ _ settings => exact (congrArg Settings.liquidationEngine settings).trans hengine
  | @executes admin action _ settings =>
      cases action <;> exact (congrArg Settings.liquidationEngine settings).trans hengine

variable (tokens here)

/-- The vault embeds the governance pattern. -/
def governed (htokens : ∀ a, (tokens a).KeepsSettings) :
    Governed (openMachine tokens here) governanceErrors Action where
  here
  governance w := w.vault.governance
  call := Input.governance
  Becomes
  initial := by
    rintro s ⟨origin, admin, usdc, settlement, timelockSecs, hvault⟩
    exact ⟨admin, timelockSecs, by rw [hvault]; rfl⟩
  quiet := by
    rintro c w (⟨origin, call⟩ | token) w' hact hcall
    · exact (exec_administers htokens hact.2).quiet (Option.map_eq_none_iff.mp hcall)
    · obtain rfl := hact
      rfl
  perform := by
    rintro c w (⟨origin, call⟩ | token) w' origin' request hact hcall
    · obtain ⟨request, hrequest, heq⟩ := Option.map_eq_some_iff.mp hcall
      obtain ⟨rfl, rfl⟩ := Prod.mk.inj heq
      exact (exec_administers htokens hact.2).perform hrequest
    · cases hcall
  becomes_irrefl := by
    rintro (wasmHash | settlement) w ⟨hne, heq⟩
    · exact hne heq
    · exact hne heq
  executes := by
    rintro c w (⟨origin, call⟩ | token) w' action hact hbecomes
    · obtain ⟨admin, rfl, htaken⟩ := (exec_administers htokens hact.2).becomes hbecomes
      exact ⟨origin, admin, rfl, htaken⟩
    · obtain rfl := hact
      cases action with
      | upgrade wasmHash => exact absurd hbecomes.2 hbecomes.1
      | setSettlement settlement => exact absurd hbecomes.2 hbecomes.1

variable {tokens here}

/-- The ledger and the engine a run has registered stay registered. -/
theorem registered_of_run (htokens : ∀ a, (tokens a).KeepsSettings)
    {history : List (Transition (World T) (Input T))} {s : Timed (World T)}
    (hrun : (openMachine tokens here).Run history s) :
    ∀ t ∈ history, ∀ a, (t.post.state.vault.loanLedger = some a →
        s.state.vault.loanLedger = some a) ∧
      (t.post.state.vault.liquidationEngine = some a →
        s.state.vault.liquidationEngine = some a) := by
  intro t ht a
  constructor
  · refine hrun.kept (P := fun w => w.vault.loanLedger = some a) ?_ t ht
    rintro c w (⟨origin, call⟩ | token) w' hact hledger
    · exact (exec_administers htokens hact.2).loanLedger hledger
    · obtain rfl := hact
      exact hledger
  · refine hrun.kept (P := fun w => w.vault.liquidationEngine = some a) ?_ t ht
    rintro c w (⟨origin, call⟩ | token) w' hact hengine
    · exact (exec_administers htokens hact.2).liquidationEngine hengine
    · obtain rfl := hact
      exact hengine

end Runs

end RemitCollateral.GuarantorVault
