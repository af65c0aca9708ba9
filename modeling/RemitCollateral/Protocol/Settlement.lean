import RemitCollateral.Protocol.Accounting

/-! # Settlement never gets stuck

The vault never refuses what the ledger and the engine ask of it on behalf of a loan: what a loan
still holds is locked in the vault, the vault has tokens for all of it, and its reentrancy lock is
clear between calls. So a repayment that passes the ledger's own checks is recorded, and a loan past
its grace period can be liquidated by anyone. -/

namespace RemitCollateral.Protocol

open Soroban
open GuarantorVault (Posting Posts moved)
open LoanLedger (Loan)

variable {T : Type} {d : Deployment} {tokens : Address → GuarantorVault.TokenClient T}
  {tok : GuarantorVault.StandardToken T} {origin : Origin} {clock : Clock} {s s' : System T}

/-! ## What a loan holds is locked -/

/-- No loan holds less than nothing. -/
theorem held_nonneg {now : ℕ} (h : s.ledger.Sound d.config now) (g : Address) (id : ℕ) :
    0 ≤ held g (s.loans id) := by
  cases hloan : s.loans id with
  | none => exact le_refl _
  | some loan =>
      simp only [held]
      split
      · exact (h.loans id loan hloan).remaining_nonneg h.accepted
      · exact le_refl _

/-- What an open loan holds is locked in its guarantor's record. -/
theorem remaining_le_locked {now : ℕ} (h : s.Sound d tokens tok now) (hbalanced : s.Balanced)
    {id : ℕ} {loan : Loan} (hfound : s.loans id = some loan) (hopen : loan.isOpen = true) :
    loan.remaining ≤ s.world.vault.lockedAmount loan.guarantor := by
  -- one term of a sum of terms that are not negative
  have hmem := Finset.mem_Icc.mpr (h.ledger.counted id loan hfound)
  have hsingle := Finset.single_le_sum (f := fun id => held loan.guarantor (s.loans id))
    (fun id _ => held_nonneg h.ledger loan.guarantor id) hmem
  calc loan.remaining = held loan.guarantor (s.loans id) := by
        rw [hfound, held_of_open hopen, if_pos rfl]
    _ ≤ s.held loan.guarantor := hsingle
    _ = s.world.vault.lockedAmount loan.guarantor := (hbalanced loan.guarantor).symm

/-! ## The vault does what it is asked -/

namespace System.Sound

variable {now : ℕ} {env : Env} {guarantor : Address} {amount forfeited rest : ℤ}

/-- The ledger and the engine can return any amount that is locked. -/
theorem release_succeeds (h : s.Sound d tokens tok now)
    (hcaller : env.currentContract = d.ledger ∨ env.currentContract = d.engine) (hpos : 0 < amount)
    (hlocked : amount ≤ s.world.vault.lockedAmount guarantor) :
    ∃ w', GuarantorVault.exec tokens (env.call d.vault)
      (.releaseCollateral env.currentContract guarantor amount) s.world = .ok w' := by
  have hknown : s.world.vault.loanLedger = some env.currentContract ∨
      s.world.vault.liquidationEngine = some env.currentContract := by
    rcases hcaller with heq | heq <;> rw [heq]
    · exact .inl h.wired.vaultLedger
    · exact .inr h.wired.vaultEngine
  exact ⟨_, GuarantorVault.onVault_eq_ok.mpr ⟨_,
    (GuarantorVault.releaseCollateral_eq_ok h.solvent.sound).mpr
      ⟨h.solvent.unlocked, env.call_authorized_self d.vault, hknown, hpos, hlocked, rfl⟩, rfl⟩⟩

/-- The engine can seize any amount that is locked: the vault has the tokens. -/
theorem forfeit_succeeds (h : s.Sound d tokens tok now) (hcaller : env.currentContract = d.engine)
    (hpos : 0 < amount) (hlocked : amount ≤ s.world.vault.lockedAmount guarantor) :
    ∃ w', GuarantorVault.exec tokens (env.call d.vault)
      (.forfeitCollateral env.currentContract guarantor amount) s.world = .ok w' :=
  h.solvent.forfeit_succeeds rfl (env.call_authorized_self d.vault)
    (hcaller ▸ h.wired.vaultEngine) hpos hlocked

/-- A settlement within what is locked goes through. -/
theorem settles_succeeds (h : s.Sound d tokens tok now) (hcaller : env.currentContract = d.engine)
    (hforfeited : 0 ≤ forfeited) (hrest : 0 ≤ rest)
    (hlocked : forfeited + rest ≤ s.world.vault.lockedAmount guarantor) :
    ∃ x', LiquidationEngine.settleCollateral (engineVaults d tokens) env guarantor forfeited rest
      s.engine (s.ledger, s.world) = .ok x' := by
  obtain ⟨x₁, hx₁, hledger, hsound₁, hlocked₁⟩ : ∃ x₁ : LoanLedger.State × GuarantorVault.World T,
      (if 0 < forfeited then (engineVault tokens).forfeitCollateral (env.call d.vault)
        env.currentContract guarantor forfeited (s.ledger, s.world) else some (s.ledger, s.world)) =
          some x₁ ∧ x₁.1 = s.ledger ∧ ({ s with world := x₁.2 } : System T).Sound d tokens tok now ∧
      rest ≤ x₁.2.vault.lockedAmount guarantor := by
    split
    · obtain ⟨w₁, hw₁⟩ : ∃ w', GuarantorVault.exec tokens (env.call d.vault)
          (.forfeitCollateral env.currentContract guarantor forfeited) s.world = .ok w' :=
        h.forfeit_succeeds hcaller ‹_› (by omega)
      -- seizing lowers what is locked by just that amount, so the rest is still there
      obtain ⟨hposts, hsound⟩ := h.vault rfl hw₁
      have hafter := hposts.locked guarantor
      simp only [GuarantorVault.Call.postings, GuarantorVault.moved_cons, GuarantorVault.moved_nil,
        reduceCtorEq, false_and, true_and, if_false, if_true] at hafter
      have hleft : rest ≤ w₁.vault.lockedAmount guarantor := by omega
      exact ⟨(s.ledger, w₁), Option.map_eq_some_iff.mpr ⟨w₁, outcome_eq_some.mpr hw₁, rfl⟩, rfl,
        hsound, hleft⟩
    · have hleft : rest ≤ s.world.vault.lockedAmount guarantor := by omega
      exact ⟨_, rfl, rfl, h, hleft⟩
  obtain ⟨x₂, hx₂⟩ : ∃ x₂, (if 0 < rest then (engineVault tokens).releaseCollateral
      (env.call d.vault) env.currentContract guarantor rest x₁ else some x₁) = some x₂ := by
    split
    · obtain ⟨w₂, hw₂⟩ := hsound₁.release_succeeds (.inr hcaller) ‹_› hlocked₁
      exact ⟨_, Option.map_eq_some_iff.mpr ⟨w₂, outcome_eq_some.mpr hw₂, rfl⟩⟩
    · exact ⟨_, rfl⟩
  refine ⟨x₂, LiquidationEngine.settleCollateral_eq_ok.mpr
    ⟨d.vault, h.wired.engineVault, x₁, ?_, ?_⟩⟩
  · rw [engineVaults_vault]
    exact hx₁
  · rw [engineVaults_vault]
    exact hx₂

end System.Sound

/-! ## Liquidations and repayments go through -/

/-- A loan past its grace period can be liquidated while the engine runs. -/
theorem liquidate_succeeds (h : s.Sound d tokens tok clock.timestamp) (hbalanced : s.Balanced)
    (hrunning : LiquidationEngine.paused s.engine = false) {id : ℕ} {loan : Loan}
    (hfound : s.loans id = some loan) (hgrace : loan.status = .grace)
    (hexpired : loan.graceExpiresAt < clock.timestamp) (origin : Origin) :
    ∃ r e' x', LiquidationEngine.liquidate (engineLedgers d) (engineVaults d tokens)
      (origin.env clock d.engine) id s.engine (s.ledger, s.world) = .ok (r, e', x') := by
  have hsound := h.ledger.loans id loan hfound
  have hopen : loan.isOpen = true := Loan.isOpen_iff.mpr (.inr hgrace)
  have hlocked := remaining_le_locked h hbalanced hfound hopen
  have hforfeit := forfeitable_nonneg h.ledger.accepted hsound
  have hrest := forfeitable_le loan
  have hheld : forfeitable loan + (loan.remaining - forfeitable loan) ≤
      s.world.vault.lockedAmount loan.guarantor := by omega
  -- the engine's previews
  have hledger : s.ledger.Sound d.config ((origin.env clock d.engine).call d.ledger).timestamp :=
    h.ledger
  obtain ⟨t₁, t₂, t₃, t₄, h₁, h₂, h₃, h₄⟩ :=
    LoanLedger.previews_succeed hledger hfound hgrace hexpired
  -- the vault's part
  have hrenewed := (h.withTtl t₄).engine
    (LiquidationEngine.extendInstance_wired (origin.env clock d.engine) s.engine)
  have hcaller : (origin.env clock d.engine).currentContract = d.engine := rfl
  obtain ⟨x₅, hsettle⟩ :=
    hrenewed.settles_succeeds hcaller hforfeit (sub_nonneg.mpr hrest) hheld
  have hledger : x₅.1 = s.ledger.withTtl t₄ := (hrenewed.settles hsettle).1
  -- the ledger's mark
  obtain ⟨l₆, hmark⟩ : ∃ l₆, LoanLedger.markDefaulted ((origin.env clock d.engine).call d.ledger)
      d.engine id (s.ledger.withTtl t₄) = .ok l₆ :=
    ⟨_, LoanLedger.markDefaulted_eq_ok.mpr ⟨.inl rfl, h.wired.ledgerEngine, loan, hfound, hgrace,
      hexpired, rfl⟩⟩
  have hi128 : InI128 (loan.remaining - min loan.outstanding loan.remaining) := by
    have hreleased := hsound.released_nonneg h.ledger.accepted
    refine hsound.wf.collateral_i128.of_nonneg_of_le (sub_nonneg.mpr hrest) ?_
    have hforfeit : 0 ≤ min loan.outstanding loan.remaining := hforfeit
    unfold Loan.remaining at hforfeit ⊢
    omega
  refine ⟨_, _, (l₆, x₅.2), LiquidationEngine.liquidate_eq_ok.mpr ⟨hrunning, d.ledger,
    h.wired.engineLedger, (s.ledger.withTtl t₁, s.world), ?_, loan.guarantor,
    (s.ledger.withTtl t₂, s.world), ?_, loan.outstanding, (s.ledger.withTtl t₃, s.world), ?_,
    loan.remaining, (s.ledger.withTtl t₄, s.world), ?_, hi128, x₅, hsettle, ?_, rfl, rfl⟩⟩ <;>
    rw [engineLedgers_ledger]
  · exact view_eq_some.mpr ⟨h₁, rfl⟩
  · exact view_eq_some.mpr ⟨h₂, rfl⟩
  · exact view_eq_some.mpr ⟨h₃, rfl⟩
  · exact view_eq_some.mpr ⟨h₄, rfl⟩
  · have heq : x₅ = (s.ledger.withTtl t₄, x₅.2) := Prod.ext hledger rfl
    rw [heq]
    exact mark_eq_some.mpr ⟨hmark, rfl⟩

/-- A release of what a loan still holds goes through. -/
theorem releases_succeed (h : s.Sound d tokens tok clock.timestamp) (hbalanced : s.Balanced)
    {id : ℕ} {loan : Loan} (hfound : s.loans id = some loan) (hopen : loan.isOpen = true) {r : ℤ}
    (hle : r ≤ loan.remaining) (origin : Origin) :
    ∃ w', LoanLedger.Releases (ledgerVaults d tokens) (origin.env clock d.ledger) s.ledger
      loan.guarantor r s.world w' := by
  have hlocked := remaining_le_locked h hbalanced hfound hopen
  unfold LoanLedger.Releases
  split
  · have hcaller : (origin.env clock d.ledger).currentContract = d.ledger := rfl
    obtain ⟨w', hw'⟩ := h.release_succeeds (.inl hcaller) ‹_› (hle.trans hlocked)
    refine ⟨w', d.vault, h.wired.ledgerVault, ?_⟩
    rw [ledgerVaults_vault]
    exact outcome_eq_some.mpr hw'
  · exact ⟨_, rfl⟩

/-- A vault that refuses nothing: against it a call of the ledger fails on its own account only. -/
def acceptingVault : LoanLedger.VaultClient Unit where
  lockCollateral _ _ _ _ x := some x
  releaseCollateral _ _ _ _ x := some x

/-- A repayment that the ledger's own checks and arithmetic admit is recorded, with the same result
whatever vault it is paid against. -/
theorem attest_succeeds (h : s.Sound d tokens tok clock.timestamp) (hbalanced : s.Balanced)
    {partner verifier : Address} {id : ℕ} {amountUsd r : ℤ} {l' : LoanLedger.State}
    (hadmits : LoanLedger.attestRepayment (fun _ => acceptingVault) (origin.env clock d.ledger)
      partner verifier id amountUsd s.ledger () = .ok (r, l', ())) :
    ∃ w', LoanLedger.attestRepayment (ledgerVaults d tokens) (origin.env clock d.ledger) partner
      verifier id amountUsd s.ledger s.world = .ok (r, l', w') := by
  have hledger : s.ledger.Sound d.config (origin.env clock d.ledger).timestamp := h.ledger
  obtain ⟨loan, hchecks, hfits, hr, -, hrecord⟩ :=
    (LoanLedger.attestRepayment_eq_ok hledger).mp hadmits
  have hsound := hledger.loans _ _ hchecks.found
  have hheld : r ≤ loan.remaining := by
    rw [← hr]
    exact sub_le_sub_right (hsound.wf.earned_le hledger.accepted) _
  obtain ⟨w', hreleases⟩ := releases_succeed h hbalanced hchecks.found hchecks.isOpen hheld origin
  exact ⟨w', (LoanLedger.attestRepayment_eq_ok hledger).mpr
    ⟨loan, hchecks, hfits, hr, hreleases, hrecord⟩⟩

/-- **Settlement.** In every reachable state of the wired system, a loan in grace past its deadline
can be liquidated by anyone while the engine is not paused; and a repayment that passes the ledger's
own checks and arithmetic is never refused by the vault. -/
theorem settlement_never_stuck {s : Timed (System T)} (h : (machine d tokens tok).Reachable s) :
    (∀ id loan, s.state.loans id = some loan → loan.status = .grace →
      loan.graceExpiresAt < s.now → LiquidationEngine.paused s.state.engine = false →
        ∀ origin, ∃ s', exec d tokens origin s.clock s.state (.engine (.liquidate id)) = some s') ∧
    (∀ origin partner verifier id amountUsd,
      (outcome (LoanLedger.attestRepayment (fun _ => acceptingVault)
        (Origin.env origin s.clock d.ledger) partner verifier id amountUsd s.state.ledger
        ())).isSome →
      ∃ s', exec d tokens origin s.clock s.state
        (.ledger (.attestRepayment partner verifier id amountUsd)) = some s') := by
  have hsound := System.Sound.of_reachable h
  have hbalanced := System.Balanced.of_reachable h
  refine ⟨fun id loan hfound hgrace hexpired hrunning origin => ?_,
    fun origin partner verifier id amountUsd hadmits => ?_⟩
  · obtain ⟨r, e', x', hok⟩ :=
      liquidate_succeeds hsound hbalanced hrunning hfound hgrace hexpired origin
    exact ⟨⟨e', x'.1, x'.2⟩, Option.map_eq_some_iff.mpr
      ⟨(e', x'), outcome_eq_some.mpr (map_eq_ok.mpr ⟨_, hok, rfl⟩), rfl⟩⟩
  · obtain ⟨⟨r, l', u⟩, hok⟩ := Option.isSome_iff_exists.mp hadmits
    obtain ⟨w', hw'⟩ := attest_succeeds hsound hbalanced (outcome_eq_some.mp hok)
    exact ⟨{ s.state with ledger := l', world := w' }, Option.map_eq_some_iff.mpr
      ⟨(l', w'), outcome_eq_some.mpr (map_eq_ok.mpr ⟨_, hw', rfl⟩), rfl⟩⟩

/-- A loan one second past its grace period, partly repaid: anyone can liquidate it, and until then
its partner can still attest a repayment. -/
theorem settlement_never_stuck_pastGrace : ∃ history s, sampleMachine.Run history s ∧
    (∃ s', exec sample (fun _ => GuarantorVault.tableToken.client) ⟨none, [], 0⟩ s.clock s.state
      (.engine (.liquidate 1)) = some s') ∧
    ∃ s', exec sample (fun _ => GuarantorVault.tableToken.client) sampleOrigin s.clock s.state
      (.ledger (.attestRepayment ⟨5⟩ ⟨6⟩ 1 30)) = some s' := by
  obtain ⟨history, s, hrun, hloan, hrunning, hadmits⟩ := exists_run_of_playLoan
    (P := fun _ s => (s.state.loans 1).any (fun loan => loan.status = .grace ∧
        loan.graceExpiresAt < s.now) = true ∧ LiquidationEngine.paused s.state.engine = false ∧
      (outcome (LoanLedger.attestRepayment (fun _ => acceptingVault)
        (sampleOrigin.env s.clock sample.ledger) ⟨5⟩ ⟨6⟩ 1 30 s.state.ledger ())).isSome = true)
    (show (playLoan [(86401, .engine (.flagOverdue 1)),
      (86402, .ledger (.attestRepayment ⟨5⟩ ⟨6⟩ 1 30)),
      (1296002, .ledger (.isGraceExpired 1))]).any _ = true by decide +kernel)
  obtain ⟨loan, hfound, hdue⟩ := Option.any_eq_true _ _ |>.mp hloan
  obtain ⟨hgrace, hexpired⟩ := of_decide_eq_true hdue
  have hstuck := settlement_never_stuck hrun.reachable
  exact ⟨history, s, hrun, hstuck.1 1 loan hfound hgrace hexpired hrunning _,
    hstuck.2 _ _ _ _ _ hadmits⟩

end RemitCollateral.Protocol
