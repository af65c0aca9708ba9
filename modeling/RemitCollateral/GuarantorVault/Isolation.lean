import RemitCollateral.GuarantorVault.Administration
import RemitCollateral.Host.Noninterference

/-! # Isolation of guarantors

Records are kept apart, but their tokens sit in one balance and their operations share one lock. For
one guarantor the vault behaves all the same as if the others were not there: whatever they deposit,
withdraw or lose, its own operations succeed or fail as before and leave the same record. The one
thing that is its own business is whether its wallet pays for its deposits. -/

namespace RemitCollateral.GuarantorVault

open Soroban

variable {T : Type}

/-! ## What one guarantor sees -/

section Observed

variable (tokens : Address → TokenClient T) (tok : StandardToken T) (here g : Address)

/-- Attempt an input of a run at its clock: a call that traps is rolled back, and nobody but the
vault spends what the vault holds. -/
def attempt (w : World T) (input : Clock × Input T) : Bool × World T :=
  match input.2 with
  | .call origin call =>
      if w.vault.wasm = none then
        match exec tokens (origin.env input.1 here) call w with
        | .ok w' => (true, w')
        | .error _ => (false, w)
      else (false, w)
  | .moveTokens token =>
      if tok.balance w.token here ≤ tok.balance token here then (true, { w with token })
      else (false, w)

/-- The inputs a guarantor sees: all calls but those that move the collateral of another. -/
def visible (input : Clock × Input T) : Bool :=
  match input.2 with
  | .call _ call => call.guarantor.all fun guarantor => guarantor = g
  | .moveTokens _ => false

/-- Whether the guarantor's wallet pays, when a call of `deposit` comes to asking it. -/
def walletPays (w : World T) (input : Clock × Input T) : Option Bool :=
  match input.2 with
  | .call origin (.deposit guarantor amount) =>
      if w.vault.wasm = none ∧ (origin.env input.1 here).authorized guarantor ∧ 0 < amount then
        some (tok.transfer w.token guarantor here amount).isSome
      else none
  | _ => none

/-- The vault as one guarantor sees it. -/
def observed : Observed (World T) (Clock × Input T) (Option Vault) (Option Bool) where
  attempt := attempt tokens tok here
  visible := visible g
  view w := w.vault.vaults g
  answer := walletPays tok here

section Attempt

variable {tokens tok here} {w : World T} {clock : Clock} {origin : Origin} {call : Call} {token : T}

theorem attempt_call (h : w.vault.wasm = none) :
    attempt tokens tok here w (clock, .call origin call) =
      match exec tokens (origin.env clock here) call w with
      | .ok w' => (true, w')
      | .error _ => (false, w) := if_pos h

theorem attempt_call_upgraded (h : w.vault.wasm ≠ none) :
    attempt tokens tok here w (clock, .call origin call) = (false, w) := if_neg h

theorem attempt_moveTokens (h : tok.balance w.token here ≤ tok.balance token here) :
    attempt tokens tok here w (clock, .moveTokens token) = (true, { w with token }) := if_pos h

theorem attempt_overdraw (h : ¬ tok.balance w.token here ≤ tok.balance token here) :
    attempt tokens tok here w (clock, .moveTokens token) = (false, w) := if_neg h

end Attempt

/-- Two worlds that look the same to one guarantor: solvent both, under the same settings, and with
the same record for it. -/
structure Alike (w w' : World T) : Prop where
  solvent : Solvent tokens tok here w
  solvent' : Solvent tokens tok here w'
  settings : w.vault.settings = w'.vault.settings
  usdcToken : w.vault.usdcToken = w'.vault.usdcToken
  record : w.vault.vaults g = w'.vault.vaults g

end Observed

section Alike

variable {tokens : Address → TokenClient T} {tok : StandardToken T} {here g : Address}
  {w w' w₁ w₁' : World T} {env : Env} {call : Call}

namespace Alike

theorem symm (h : Alike tokens tok here g w w') : Alike tokens tok here g w' w where
  solvent := h.solvent'
  solvent' := h.solvent
  settings := h.settings.symm
  usdcToken := h.usdcToken.symm
  record := h.record.symm

variable (h : Alike tokens tok here g w w')
include h

theorem wasm : w.vault.wasm = w'.vault.wasm := congrArg Settings.wasm h.settings

theorem collateralBalance : w.vault.collateralBalance g = w'.vault.collateralBalance g := by
  rw [State.collateralBalance, State.position, h.record]
  rfl

theorem lockedAmount : w.vault.lockedAmount g = w'.vault.lockedAmount g := by
  rw [State.lockedAmount, State.position, h.record]
  rfl

/-- Replacing the guarantor's record by the same one on both sides. -/
theorem adjust {topic : Topic} {amount balance locked : ℤ} {t t' : T}
    (hsolvent : Solvent tokens tok here ⟨w.vault.adjust env topic g amount balance locked, t⟩)
    (hsolvent' : Solvent tokens tok here ⟨w'.vault.adjust env topic g amount balance locked, t'⟩) :
    Alike tokens tok here g ⟨w.vault.adjust env topic g amount balance locked, t⟩
      ⟨w'.vault.adjust env topic g amount balance locked, t'⟩ where
  solvent := hsolvent
  solvent' := hsolvent'
  settings := h.settings
  usdcToken := h.usdcToken
  record := by
    show (w.vault.adjust env topic g amount balance locked).vaults g =
      (w'.vault.adjust env topic g amount balance locked).vaults g
    rw [vaults_adjust, vaults_adjust, Function.update_self, Function.update_self]

end Alike

/-! ## Hidden inputs -/

/-- A call that moves another guarantor's collateral is not noticed. -/
theorem Alike.foreign (h : Alike tokens tok here g w w') (hself : env.currentContract = here)
    (hforeign : ∃ other, call.guarantor = some other ∧ other ≠ g)
    (hok : exec tokens env call w = .ok w₁) : Alike tokens tok here g w₁ w' := by
  obtain ⟨other, hcall, hne⟩ := hforeign
  have heffect := exec_effect h.solvent.sound h.solvent.uses hok
  have hsolvent := h.solvent.step hself heffect
  -- every such call replaces the record of the other guarantor only
  have hadjust : ∀ {topic amount balance locked t},
      World.mk (w.vault.adjust env topic other amount balance locked) t = w₁ →
        Alike tokens tok here g w₁ w' := by
    rintro topic amount balance locked t rfl
    refine ⟨hsolvent, h.solvent', h.settings, h.usdcToken, ?_⟩
    show (w.vault.adjust env topic other amount balance locked).vaults g = w'.vault.vaults g
    rw [vaults_adjust, Function.update_of_ne hne.symm]
    exact h.record
  cases call with
  | deposit =>
      obtain rfl := Option.some.inj hcall
      obtain ⟨-, -, t', -, -, -, hw₁⟩ := heffect
      exact hadjust hw₁
  | withdraw =>
      obtain rfl := Option.some.inj hcall
      obtain ⟨-, -, -, t', -, hw₁⟩ := heffect
      exact hadjust hw₁
  | lockCollateral | releaseCollateral =>
      obtain rfl := Option.some.inj hcall
      obtain ⟨-, -, -, -, hw₁⟩ := heffect
      exact hadjust hw₁
  | forfeitCollateral =>
      obtain rfl := Option.some.inj hcall
      obtain ⟨-, -, -, -, settlement, -, t', -, hw₁⟩ := heffect
      exact hadjust hw₁
  | _ => cases hcall

/-- Tokens that move elsewhere are not noticed. -/
theorem Alike.moveTokens (h : Alike tokens tok here g w w') {token : T}
    (hle : tok.balance w.token here ≤ tok.balance token here) :
    Alike tokens tok here g { w with token } w' where
  solvent := h.solvent.moveTokens hle
  solvent' := h.solvent'
  settings := h.settings
  usdcToken := h.usdcToken
  record := h.record

/-- An input that the guarantor does not see leaves the world alike. -/
theorem Alike.hidden (h : Alike tokens tok here g w w') {input : Clock × Input T}
    (hhidden : visible g input = false) :
    Alike tokens tok here g (attempt tokens tok here w input).2 w' := by
  obtain ⟨clock, input⟩ := input
  cases input with
  | call origin call =>
      by_cases hwasm : w.vault.wasm = none
      · rw [attempt_call hwasm]
        cases hok : exec tokens (origin.env clock here) call w with
        | error fault => exact h
        | ok w₁ =>
            refine h.foreign (origin.env_currentContract clock here) ?_ hok
            cases hcall : call.guarantor with
            | none => simp [visible, hcall] at hhidden
            | some other => exact ⟨other, rfl, by simpa [visible, hcall] using hhidden⟩
      · rw [attempt_call_upgraded hwasm]
        exact h
  | moveTokens token =>
      by_cases hle : tok.balance w.token here ≤ tok.balance token here
      · rw [attempt_moveTokens hle]
        exact h.moveTokens hle
      · rw [attempt_overdraw hle]
        exact h

/-! ## Visible inputs -/

/-- What anyone may withdraw is a number of the machine. -/
theorem getAvailable_succeeds {s : State} (h : s.Sound) (env : Env) (other : Address) :
    ∃ available s', getAvailable env other s = .ok (available, s') := by
  have h0 := h.locked_nonneg other
  have hle := h.locked_le other
  have hfits : InI128 ((vaultOf env other s).1.collateralBalance -
      (vaultOf env other s).1.lockedAmount) := by
    have hread : (vaultOf env other s).1 = s.position other := by
      unfold vaultOf State.position
      cases s.vaults other <;> rfl
    rw [hread, position_collateralBalance, position_lockedAmount]
    exact h.i128_of_le other (by omega) (by omega)
  exact ⟨_, _, bind_eq_ok.mpr ⟨_, i128_eq_ok.mpr ⟨hfits, rfl⟩, rfl⟩⟩

/-- A call that moves no collateral depends on settings and changes settings only. -/
theorem Alike.administers (h : Alike tokens tok here g w w') (hcall : call.guarantor = none)
    (hok : exec tokens env call w = .ok w₁) : ∃ w₁', exec tokens env call w' = .ok w₁' ∧
      w₁.vault.settings = w₁'.vault.settings := by
  have hgovernance : w'.vault.governance = w.vault.governance :=
    (congrArg Settings.governance h.settings).symm
  have hrenewed : (extendInstance env w'.vault).governance =
      (extendInstance env w.vault).governance := hgovernance
  cases call with
  | scheduleAction | cancelAction =>
      obtain ⟨s₁, hs, rfl⟩ := onVault_eq_ok.mp hok
      obtain ⟨governance, hperformed, hs⟩ := bind_eq_ok.mp hs
      obtain rfl := pure_eq_ok.mp hs
      rw [← hrenewed] at hperformed
      exact ⟨_, onVault_eq_ok.mpr ⟨_, bind_eq_ok.mpr ⟨governance, hperformed, rfl⟩, rfl⟩,
        congrArg (fun settings => { settings with governance }) h.settings⟩
  | proposeAdmin | acceptAdmin =>
      obtain ⟨s₁, hs, rfl⟩ := onVault_eq_ok.mp hok
      obtain ⟨governance, hperformed, hs⟩ := bind_eq_ok.mp hs
      obtain rfl := pure_eq_ok.mp hs
      rw [← hgovernance] at hperformed
      exact ⟨_, onVault_eq_ok.mpr ⟨_, bind_eq_ok.mpr ⟨governance, hperformed, rfl⟩, rfl⟩,
        congrArg (fun settings => { settings with governance }) h.settings⟩
  | executeAction =>
      obtain ⟨s₁, hs, rfl⟩ := onVault_eq_ok.mp hok
      obtain ⟨⟨action, governance⟩, htaken, hs⟩ := bind_eq_ok.mp hs
      rw [← hrenewed] at htaken
      cases action with
      | upgrade wasmHash =>
          obtain rfl := pure_eq_ok.mp hs
          exact ⟨_, onVault_eq_ok.mpr ⟨_, bind_eq_ok.mpr ⟨_, htaken, rfl⟩, rfl⟩, congrArg
            (fun settings => { settings with governance, wasm := some wasmHash }) h.settings⟩
      | setSettlement settlement =>
          obtain rfl := pure_eq_ok.mp hs
          exact ⟨_, onVault_eq_ok.mpr ⟨_, bind_eq_ok.mpr ⟨_, htaken, rfl⟩, rfl⟩, congrArg
            (fun settings => { settings with governance, settlementAddress := some settlement })
            h.settings⟩
  | setLoanLedger admin ledger =>
      obtain ⟨s₁, hs, rfl⟩ := onVault_eq_ok.mp hok
      obtain ⟨hauth, hadmin, hunset, rfl⟩ := setLoanLedger_eq_ok.mp hs
      have hadmin' : w'.vault.governance.admin = some admin := hgovernance ▸ hadmin
      have hunset' : w'.vault.loanLedger = none :=
        (congrArg Settings.loanLedger h.settings).symm.trans hunset
      refine ⟨_, onVault_eq_ok.mpr
        ⟨_, setLoanLedger_eq_ok.mpr ⟨hauth, hadmin', hunset', rfl⟩, rfl⟩, ?_⟩
      exact congrArg (fun settings => { settings with loanLedger := some ledger }) h.settings
  | setLiquidationEngine admin engine =>
      obtain ⟨s₁, hs, rfl⟩ := onVault_eq_ok.mp hok
      obtain ⟨hauth, hadmin, hunset, rfl⟩ := setLiquidationEngine_eq_ok.mp hs
      have hadmin' : w'.vault.governance.admin = some admin := hgovernance ▸ hadmin
      have hunset' : w'.vault.liquidationEngine = none :=
        (congrArg Settings.liquidationEngine h.settings).symm.trans hunset
      refine ⟨_, onVault_eq_ok.mpr
        ⟨_, setLiquidationEngine_eq_ok.mpr ⟨hauth, hadmin', hunset', rfl⟩, rfl⟩, ?_⟩
      exact congrArg (fun settings => { settings with liquidationEngine := some engine }) h.settings
  | getVault other | getBalance other | getLocked other =>
      simp only [exec, onVault_eq_ok, pure_eq_ok, exists_eq_left'] at hok
      obtain rfl := hok
      refine ⟨{ w' with vault := (vaultOf env other w'.vault).2 }, ?_, ?_⟩
      · simp only [exec, onVault_eq_ok, pure_eq_ok, exists_eq_left']
        rfl
      · exact (settings_vaultOf env other w.vault).trans
          (h.settings.trans (settings_vaultOf env other w'.vault).symm)
  | getAvailable other =>
      simp only [exec, onVault_eq_ok, map_eq_ok] at hok
      obtain ⟨-, ⟨⟨available, s₁⟩, hget, rfl⟩, rfl⟩ := hok
      obtain ⟨available', s₁', hget'⟩ := getAvailable_succeeds h.solvent'.sound env other
      refine ⟨{ w' with vault := s₁' }, ?_, ?_⟩
      · simp only [exec, onVault_eq_ok, map_eq_ok]
        exact ⟨s₁', ⟨_, hget', rfl⟩, rfl⟩
      · exact (getAvailable_settings hget).trans
          (h.settings.trans (getAvailable_settings hget').symm)
  | deposit | withdraw | lockCollateral | releaseCollateral | forfeitCollateral => cases hcall

/-- A call that moves no collateral is quiet. -/
theorem Effect.quiet (h : Effect env tok w w₁ call) (hcall : call.guarantor = none) :
    Quiet w.vault w₁.vault := by
  cases call with
  | deposit | withdraw | lockCollateral | releaseCollateral | forfeitCollateral => cases hcall
  | _ => exact h.1

/-- An operation of the guarantor does the same on both sides, if its wallet does. -/
theorem Alike.acts (h : Alike tokens tok here g w w') (hself : env.currentContract = here)
    (hcall : call.guarantor.all fun guarantor => guarantor = g)
    (hpays : ∀ amount, call = .deposit g amount → env.authorized g → 0 < amount →
      (tok.transfer w.token g here amount).isSome → (tok.transfer w'.token g here amount).isSome)
    (hok : exec tokens env call w = .ok w₁) :
    ∃ w₁', exec tokens env call w' = .ok w₁' ∧ Alike tokens tok here g w₁ w₁' := by
  have heffect := exec_effect h.solvent.sound h.solvent.uses hok
  have hsolvent := h.solvent.step hself heffect
  have hsound := h.solvent'.sound
  have hbalance := h.collateralBalance
  have hlocked := h.lockedAmount
  -- once the other side goes through, its effect is known too
  have hdone : ∀ {w₁'}, exec tokens env call w' = .ok w₁' →
      (Effect env tok w' w₁' call → Solvent tokens tok here w₁' → Alike tokens tok here g w₁ w₁') →
        ∃ w₁', exec tokens env call w' = .ok w₁' ∧ Alike tokens tok here g w₁ w₁' := by
    intro w₁' hok' halike
    have heffect' := exec_effect hsound h.solvent'.uses hok'
    exact ⟨w₁', hok', halike heffect' (h.solvent'.step hself heffect')⟩
  cases call with
  | deposit other amount =>
      obtain rfl : other = g := of_decide_eq_true hcall
      obtain ⟨hauth, hpos, t₁, ht, hne, hfits, rfl⟩ := heffect
      rw [hself] at ht
      have hpaid := hpays amount rfl hauth hpos (Option.isSome_iff_exists.mpr ⟨t₁, ht⟩)
      obtain ⟨t₁', ht'⟩ := Option.isSome_iff_exists.mp hpaid
      refine hdone ((deposit_eq_ok hsound h.solvent'.uses).mpr
        ⟨h.solvent'.unlocked, hauth, hpos, t₁', by rw [hself]; exact ht', hne, hbalance ▸ hfits,
          rfl⟩) ?_
      intro _ hsolvent'
      rw [← hbalance, ← hlocked] at hsolvent' ⊢
      exact h.adjust hsolvent hsolvent'
  | withdraw other amount =>
      obtain rfl : other = g := of_decide_eq_true hcall
      obtain ⟨hauth, hpos, hfree, t₁, -, rfl⟩ := heffect
      rw [hbalance, hlocked] at hfree
      obtain ⟨w₁', hok'⟩ := h.solvent'.withdraw_succeeds hself hauth hpos hfree
      refine hdone hok' ?_
      rintro ⟨-, -, -, t₁', -, rfl⟩ hsolvent'
      rw [← hbalance, ← hlocked] at hsolvent' ⊢
      exact h.adjust hsolvent hsolvent'
  | lockCollateral caller other amount =>
      obtain rfl : other = g := of_decide_eq_true hcall
      obtain ⟨hauth, hcaller, hpos, hfree, rfl⟩ := heffect
      rw [hbalance, hlocked] at hfree
      have hcaller' : w'.vault.loanLedger = some caller :=
        (congrArg Settings.loanLedger h.settings).symm.trans hcaller
      refine hdone (onVault_eq_ok.mpr ⟨_, (lockCollateral_eq_ok hsound).mpr
        ⟨h.solvent'.unlocked, hauth, hcaller', hpos, hfree, rfl⟩, rfl⟩) ?_
      intro _ hsolvent'
      rw [← hbalance, ← hlocked] at hsolvent' ⊢
      exact h.adjust hsolvent hsolvent'
  | releaseCollateral caller other amount =>
      obtain rfl : other = g := of_decide_eq_true hcall
      obtain ⟨hauth, hcaller, hpos, hheld, rfl⟩ := heffect
      rw [hlocked] at hheld
      have hcaller' : w'.vault.loanLedger = some caller ∨
          w'.vault.liquidationEngine = some caller :=
        hcaller.imp (congrArg Settings.loanLedger h.settings).symm.trans
          (congrArg Settings.liquidationEngine h.settings).symm.trans
      refine hdone (onVault_eq_ok.mpr ⟨_, (releaseCollateral_eq_ok hsound).mpr
        ⟨h.solvent'.unlocked, hauth, hcaller', hpos, hheld, rfl⟩, rfl⟩) ?_
      intro _ hsolvent'
      rw [← hbalance, ← hlocked] at hsolvent' ⊢
      exact h.adjust hsolvent hsolvent'
  | forfeitCollateral caller other amount =>
      obtain rfl : other = g := of_decide_eq_true hcall
      obtain ⟨hauth, hcaller, hpos, hheld, settlement, -, t₁, -, rfl⟩ := heffect
      rw [hlocked] at hheld
      have hcaller' : w'.vault.liquidationEngine = some caller :=
        (congrArg Settings.liquidationEngine h.settings).symm.trans hcaller
      obtain ⟨w₁', hok'⟩ := h.solvent'.forfeit_succeeds hself hauth hcaller' hpos hheld
      refine hdone hok' ?_
      rintro ⟨-, -, -, -, settlement', -, t₁', -, rfl⟩ hsolvent'
      rw [← hbalance, ← hlocked] at hsolvent' ⊢
      exact h.adjust hsolvent hsolvent'
  | _ =>
      obtain ⟨w₁', hok', hsettings⟩ := h.administers rfl hok
      refine hdone hok' ?_
      intro heffect' hsolvent'
      have hquiet := heffect.quiet rfl
      have hquiet' := heffect'.quiet rfl
      exact { solvent := hsolvent
              solvent' := hsolvent'
              settings := hsettings
              usdcToken := hquiet.usdcToken.trans (h.usdcToken.trans hquiet'.usdcToken.symm)
              record := by rw [hquiet.vaults, hquiet'.vaults]; exact h.record }

/-- The wallet that answers the same pays on both sides or on neither. -/
theorem walletPays_iff {clock : Clock} {origin : Origin} {amount : ℤ} (hwasm : w.vault.wasm = none)
    (hwasm' : w'.vault.wasm = none) (hauth : (origin.env clock here).authorized g)
    (hpos : 0 < amount)
    (hanswer : walletPays tok here w (clock, .call origin (.deposit g amount)) =
      walletPays tok here w' (clock, .call origin (.deposit g amount))) :
    (tok.transfer w.token g here amount).isSome = (tok.transfer w'.token g here amount).isSome := by
  simp only [walletPays] at hanswer
  rw [if_pos ⟨hwasm, hauth, hpos⟩, if_pos ⟨hwasm', hauth, hpos⟩] at hanswer
  exact Option.some.inj hanswer

/-- An input that the guarantor sees succeeds on both sides or on neither, and leaves them alike. -/
theorem Alike.visible (h : Alike tokens tok here g w w') {input : Clock × Input T}
    (hvisible : visible g input = true)
    (hanswer : walletPays tok here w input = walletPays tok here w' input) :
    (attempt tokens tok here w input).1 = (attempt tokens tok here w' input).1 ∧
      Alike tokens tok here g (attempt tokens tok here w input).2
        (attempt tokens tok here w' input).2 := by
  obtain ⟨clock, input⟩ := input
  cases input with
  | moveTokens token => cases hvisible
  | call origin call =>
      have hself := origin.env_currentContract clock here
      by_cases hwasm : w.vault.wasm = none
      · have hwasm' : w'.vault.wasm = none := h.wasm.symm.trans hwasm
        have hpays : ∀ amount, call = .deposit g amount → (origin.env clock here).authorized g →
            0 < amount → (tok.transfer w.token g here amount).isSome =
              (tok.transfer w'.token g here amount).isSome := by
          rintro amount rfl hauth hpos
          exact walletPays_iff hwasm hwasm' hauth hpos hanswer
        rw [attempt_call hwasm, attempt_call hwasm']
        cases hok : GuarantorVault.exec tokens (origin.env clock here) call w with
        | ok w₁ =>
            obtain ⟨w₁', hok', halike⟩ := h.acts hself hvisible
              (fun amount hcall hauth hpos => (hpays amount hcall hauth hpos ▸ ·)) hok
            rw [hok']
            exact ⟨rfl, halike⟩
        | error fault =>
            cases hok' : GuarantorVault.exec tokens (origin.env clock here) call w' with
            | error fault' => exact ⟨rfl, h⟩
            | ok w₁' =>
                obtain ⟨w₁, hok₁, -⟩ := h.symm.acts hself hvisible
                  (fun amount hcall hauth hpos => (hpays amount hcall hauth hpos ▸ ·)) hok'
                rw [hok] at hok₁
                cases hok₁
      · have hwasm' : w'.vault.wasm ≠ none := h.wasm ▸ hwasm
        rw [attempt_call_upgraded hwasm, attempt_call_upgraded hwasm']
        exact ⟨rfl, h⟩

/-- What another guarantor does is hidden, what it sees unwinds. -/
theorem observed_unwinds : (observed tokens tok here g).Unwinds (Alike tokens tok here g) where
  view h := h.record
  hidden_left hhidden h := h.hidden hhidden
  hidden_right hhidden h := (h.symm.hidden hhidden).symm
  visible hvisible h hanswer := h.visible hvisible hanswer

/-- Before the first call two vaults deployed the same way look the same to everyone. -/
theorem Alike.construct {admin usdc settlement : Address} {timelockSecs : ℕ}
    (htok : tokens usdc = tok.client) (token token' : T) : Alike tokens tok here g
      ⟨construct env admin usdc settlement timelockSecs, token⟩
      ⟨construct env admin usdc settlement timelockSecs, token'⟩ where
  solvent := .construct htok
  solvent' := .construct htok
  settings := rfl
  usdcToken := rfl
  record := rfl

end Alike

/-! ## Isolation -/

variable {tokens : Address → TokenClient T} {tok : StandardToken T} {here : Address}

/-- The attempts that succeed are the steps of the vault's runs. -/
theorem attempt_eq_true_iff {w w' : World T} {clock : Clock} {input : Input T} :
    attempt tokens tok here w (clock, input) = (true, w') ↔
      (machine tokens tok here).act clock w input w' := by
  cases input with
  | call origin call =>
      show _ ↔ w.vault.wasm = none ∧ exec tokens (origin.env clock here) call w = .ok w'
      by_cases hwasm : w.vault.wasm = none
      · rw [attempt_call hwasm]
        cases exec tokens (origin.env clock here) call w <;> simp [hwasm]
      · rw [attempt_call_upgraded hwasm]
        simp [hwasm]
  | moveTokens token =>
      show _ ↔ tok.balance w.token here ≤ tok.balance token here ∧ { w with token } = w'
      by_cases hle : tok.balance w.token here ≤ tok.balance token here
      · rw [attempt_moveTokens hle]
        simp [hle]
      · rw [attempt_overdraw hle]
        simp [hle]

/-- **Isolation.** A guarantor `g` sees the same in two runs of the vault that agree on all calls
but those that move the collateral of others, such as a run and what is left of it when these calls
are deleted: each call it sees succeeds or fails as in the other run and leaves the same record for
it, given that its wallet pays for its deposits in both runs or in neither. And nothing another
guarantor does makes a withdrawal, a release or a forfeiture of `g` fail. -/
theorem vault_isolates (tokens : Address → TokenClient T) (tok : StandardToken T)
    (here usdc g : Address) (htok : tokens usdc = tok.client) :
    (∀ (env : Env) (admin settlement : Address) (timelockSecs : ℕ) (token token' : T)
        (inputs inputs' : List (Clock × Input T)),
      inputs'.filter (visible g) = inputs.filter (visible g) →
      (observed tokens tok here g).answers
          ⟨construct env admin usdc settlement timelockSecs, token'⟩ inputs' =
        (observed tokens tok here g).answers
          ⟨construct env admin usdc settlement timelockSecs, token⟩ inputs →
      (observed tokens tok here g).trace
          ⟨construct env admin usdc settlement timelockSecs, token'⟩ inputs' =
        (observed tokens tok here g).trace
          ⟨construct env admin usdc settlement timelockSecs, token⟩ inputs) ∧
    (∀ (s : Timed (World T)), (machine tokens tok here).Reachable s →
      ∀ (origin : Origin) (call : Call) (other : Address) (w' : World T),
        call.guarantor = some other → other ≠ g →
        exec tokens (origin.env s.clock here) call s.state = .ok w' →
      ∀ (origin' : Origin) (clock' : Clock) (caller : Address) (amount : ℤ),
        ∀ own ∈ [Call.withdraw g amount, .releaseCollateral caller g amount,
          .forfeitCollateral caller g amount],
        (∃ w₁, exec tokens (origin'.env clock' here) own s.state = .ok w₁) →
          ∃ w₁', exec tokens (origin'.env clock' here) own w' = .ok w₁') := by
  constructor
  · intro env admin settlement timelockSecs token token' inputs inputs' hsame hanswers
    exact observed_unwinds.trace_eq (.construct htok token' token) hsame hanswers
  · rintro s hreach origin call other w' hcall hne hok origin' clock' caller amount own hown
      ⟨w₁, hok₁⟩
    have hsolvent := Solvent.of_reachable hreach
    have hsame : Alike tokens tok here g s.state s.state := ⟨hsolvent, hsolvent, rfl, rfl, rfl⟩
    have halike := (hsame.foreign (origin.env_currentContract s.clock here)
      ⟨other, hcall, hne⟩ hok).symm
    have hguarantor : own.guarantor = some g ∧ ∀ amount', own ≠ .deposit g amount' := by
      simp only [List.mem_cons, List.not_mem_nil, or_false] at hown
      rcases hown with rfl | rfl | rfl <;> exact ⟨rfl, fun _ => by simp⟩
    obtain ⟨w₁', hok', -⟩ := halike.acts (origin'.env_currentContract clock' here)
      (by simp [hguarantor.1]) (fun amount' hdeposit => absurd hdeposit (hguarantor.2 amount')) hok₁
    exact ⟨w₁', hok'⟩

/-- Guarantor 4 deposits, locks, releases and withdraws; guarantor 5 deposits, locks and defaults in
between. With and without guarantor 5, the seven calls guarantor 4 sees leave it the same records,
and the one that asks for too much fails. Addresses: 0 vault, 1 admin, 2 ledger, 3 engine,
8 settlement address, 9 token. -/
theorem vault_isolates_default :
    let calls : List Call :=
      [.setLoanLedger ⟨1⟩ ⟨2⟩, .setLiquidationEngine ⟨1⟩ ⟨3⟩, .deposit ⟨5⟩ 50, .deposit ⟨4⟩ 60,
        .lockCollateral ⟨2⟩ ⟨5⟩ 40, .lockCollateral ⟨2⟩ ⟨4⟩ 30, .forfeitCollateral ⟨3⟩ ⟨5⟩ 40,
        .withdraw ⟨4⟩ 40, .releaseCollateral ⟨2⟩ ⟨4⟩ 10, .withdraw ⟨5⟩ 10, .withdraw ⟨4⟩ 40]
    let inputs : List (Clock × Input (Address → ℕ)) :=
      calls.map fun call => (⟨0, 0⟩, .call ⟨none, [⟨1⟩, ⟨2⟩, ⟨3⟩, ⟨4⟩, ⟨5⟩], 0⟩ call)
    let start : World (Address → ℕ) :=
      ⟨construct (Origin.env ⟨none, [], 0⟩ ⟨0, 0⟩ ⟨0⟩) ⟨1⟩ ⟨9⟩ ⟨8⟩ 0,
        fun a => if a = ⟨4⟩ ∨ a = ⟨5⟩ then 100 else 0⟩
    let seen := observed (fun _ => tableToken.client) tableToken ⟨0⟩ ⟨4⟩
    seen.trace start (inputs.filter (visible ⟨4⟩)) = seen.trace start inputs ∧
      seen.trace start inputs = [(true, none), (true, none), (true, some ⟨⟨4⟩, 60, 0⟩),
        (true, some ⟨⟨4⟩, 60, 30⟩), (false, some ⟨⟨4⟩, 60, 30⟩), (true, some ⟨⟨4⟩, 60, 20⟩),
        (true, some ⟨⟨4⟩, 20, 20⟩)] := by
  intro calls inputs start seen
  refine ⟨?_, by decide +kernel⟩
  have hsame : (inputs.filter (visible ⟨4⟩)).filter (visible ⟨4⟩) =
      inputs.filter (visible ⟨4⟩) := by
    simp only [List.filter_filter, Bool.and_self]
  exact (vault_isolates (fun _ => tableToken.client) tableToken ⟨0⟩ ⟨9⟩ ⟨4⟩ rfl).1 _ ⟨1⟩ ⟨8⟩ 0 _ _
    inputs _ hsame (by decide +kernel)

end RemitCollateral.GuarantorVault
