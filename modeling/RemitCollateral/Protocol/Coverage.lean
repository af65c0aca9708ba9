import RemitCollateral.LoanLedger.Schedule
import RemitCollateral.Protocol.Settlement

/-! # Coverage

Repayments release collateral in proportion and round down, so what stays behind an open loan covers
what is still owed at the ratio it was opened with. A loan opened with at least its principal in
collateral is therefore settled in full: its liquidation seizes the principal owed and returns the
rest. -/

namespace RemitCollateral.Protocol

open Soroban
open GuarantorVault (Posting Posts moved)
open LoanLedger (Loan Config)

variable {T : Type} {d : Deployment} {tokens : Address → GuarantorVault.TokenClient T}
  {tok : GuarantorVault.StandardToken T} {origin : Origin} {clock : Clock} {s s' : System T}

/-- The collateral behind an open loan covers it: at the ratio of its opening, with at least one
unit left, with more than the safety buffer withheld, and in full if it was opened with as much. -/
structure Covered (config : Config) (loan : Loan) : Prop where
  ratio : loan.collateralLocked * loan.outstanding ≤ loan.remaining * loan.principalUsd
  one_le : 1 ≤ loan.remaining
  withheld : loan.collateralLocked * config.safetyBufferBps < loan.remaining * 10000
  full : 10000 ≤ loan.ltvBps → loan.outstanding ≤ loan.remaining

/-- Open loans are covered. -/
theorem covered_of_sound {config : Config} {now : ℕ} {loan : Loan} (hconfig : config.Accepted)
    (h : loan.Sound config now) (hopen : loan.isOpen = true) : Covered config loan where
  ratio := h.ratio hopen
  one_le := h.remaining_pos hconfig hopen
  withheld := h.withheld hconfig hopen
  full := h.outstanding_le_remaining hopen

/-- **Coverage.** In every run of a ledger whose constructor accepted its configuration, open loans
are covered, and no loan has an LTV below the floor. In the wired system a loan opened with at least
its principal in collateral is liquidated for exactly what it owes, and the rest is returned. -/
theorem collateral_covers :
    (∀ (config : Config) (here : Address) (s : Timed LoanLedger.State),
      (LoanLedger.machine config here).Reachable s → ∀ id loan, s.state.loans id = some loan →
        config.minLtvBps ≤ loan.ltvBps ∧ (loan.isOpen = true → Covered config loan)) ∧
    (∀ s : Timed (System T), (machine d tokens tok).Reachable s → ∀ id loan,
      s.state.loans id = some loan → loan.isOpen = true → 10000 ≤ loan.ltvBps →
        ∀ origin r e' x', LiquidationEngine.liquidate (engineLedgers d) (engineVaults d tokens)
          (Origin.env origin s.clock d.engine) id s.state.engine (s.state.ledger, s.state.world) =
            .ok (r, e', x') →
        r = loan.outstanding ∧
        x'.2.vault.postings = returned loan.guarantor (loan.remaining - loan.outstanding) ++
          seized loan.guarantor loan.outstanding ++ s.state.world.vault.postings ∧
        x'.2.vault.collateralBalance loan.guarantor =
          s.state.world.vault.collateralBalance loan.guarantor - loan.outstanding ∧
        x'.2.vault.lockedAmount loan.guarantor =
          s.state.world.vault.lockedAmount loan.guarantor - loan.remaining) := by
  refine ⟨fun config here s hreach id loan hfound => ?_,
    fun s hreach id loan hfound hopen hltv origin r e' x' hok => ?_⟩
  · have hledger := LoanLedger.State.Sound.of_reachable hreach
    exact ⟨hledger.ltv id loan hfound,
      covered_of_sound hledger.accepted (hledger.loans id loan hfound)⟩
  · have hsound := System.Sound.of_reachable hreach
    have hloan := hsound.ledger.loans id loan hfound
    obtain ⟨-, loan₁, hfound₁, -, -, rfl, -, hposts, -⟩ := hsound.liquidates hok
    obtain rfl : loan = loan₁ := Option.some.inj (hfound.symm.trans hfound₁)
    have hfull : forfeitable loan = loan.outstanding :=
      min_eq_left (hloan.outstanding_le_remaining hopen hltv)
    have hrecord := settlement_posts hsound.ledger.accepted hloan hposts loan.guarantor
    have hpostings := hposts.postings
    rw [settlement, hfull] at hpostings
    rw [hfull, if_pos rfl, if_pos rfl] at hrecord
    exact ⟨hfull, hpostings, hrecord⟩

/-- A loan of 120 against 180 of collateral, of which 30 are repaid, is covered; past its grace
period its liquidation seizes the 90 owed and returns the 48 left. -/
theorem collateral_covers_partlyRepaid :
    (∃ history s loan, (LoanLedger.machine LoanLedger.deployConfig ⟨0⟩).Run history s ∧
      s.state.loans 1 = some loan ∧ loan.outstanding = 90 ∧ Covered LoanLedger.deployConfig loan) ∧
    (∃ history s r e' x', sampleMachine.Run history s ∧
      LiquidationEngine.liquidate (engineLedgers sample)
        (engineVaults sample fun _ => GuarantorVault.tableToken.client)
        (sampleOrigin.env s.clock sample.engine) 1 s.state.engine (s.state.ledger, s.state.world) =
          .ok (r, e', x') ∧ r = 90 ∧
      x'.2.vault.postings =
        ⟨.release, ⟨4⟩, 48⟩ :: ⟨.forfeit, ⟨4⟩, 90⟩ :: s.state.world.vault.postings) := by
  have hcovers := @collateral_covers (Address → ℕ) sample
    (fun _ => GuarantorVault.tableToken.client) GuarantorVault.tableToken
  refine ⟨?_, ?_⟩
  · obtain ⟨history, s, loan, hrun, hfound, hopen, howed⟩ := LoanLedger.exists_run_of_playLoan
      (P := fun _ _ loan => loan.isOpen = true ∧ loan.outstanding = 90)
      (show (LoanLedger.playLoan 120 [(86400, .attestRepayment ⟨5⟩ ⟨6⟩ 1 30)]).any _ = true by
        decide +kernel)
    exact ⟨history, s, loan, hrun, hfound, howed,
      (hcovers.1 _ _ s hrun.reachable 1 loan hfound).2 hopen⟩
  · obtain ⟨history, s, hrun, hloan, hliquidates⟩ := exists_run_of_playLoan
      (P := fun _ s => (s.state.loans 1).any (fun loan => loan.isOpen = true ∧
          10000 ≤ loan.ltvBps ∧ loan.guarantor = ⟨4⟩ ∧ loan.outstanding = 90 ∧
          loan.remaining = 138) = true ∧
        (outcome (LiquidationEngine.liquidate (engineLedgers sample)
          (engineVaults sample fun _ => GuarantorVault.tableToken.client)
          (sampleOrigin.env s.clock sample.engine) 1 s.state.engine
          (s.state.ledger, s.state.world))).isSome = true)
      (show (playLoan [(86401, .engine (.flagOverdue 1)),
        (86402, .ledger (.attestRepayment ⟨5⟩ ⟨6⟩ 1 30)),
        (1296002, .ledger (.isGraceExpired 1))]).any _ = true by decide +kernel)
    obtain ⟨loan, hfound, hchecked⟩ := Option.any_eq_true _ _ |>.mp hloan
    obtain ⟨hopen, hltv, hguarantor, howed, hheld⟩ := of_decide_eq_true hchecked
    obtain ⟨⟨r, e', x'⟩, hok⟩ := Option.isSome_iff_exists.mp hliquidates
    have hliquidate := outcome_eq_some.mp hok
    obtain ⟨hr, hpostings, -⟩ :=
      hcovers.2 s hrun.reachable 1 loan hfound hopen hltv sampleOrigin r e' x' hliquidate
    refine ⟨history, s, r, e', x', hrun, hliquidate, hr.trans howed, ?_⟩
    rw [hpostings, hguarantor, howed, hheld]
    rfl

end RemitCollateral.Protocol
