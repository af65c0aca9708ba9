import RemitCollateral.Protocol.Batching

/-! # When a loan can be repaid in parts

An attestation multiplies the collateral of the loan by the principal repaid and by the share that
is not withheld, before it divides; origination checks only the product of the principal and the
LTV. This file states, on the terms of the loan and the payment alone, exactly when the arithmetic
of an attestation stays in range, and that nothing else can make a checked attestation fail. -/

namespace RemitCollateral.LoanLedger

open Soroban

namespace Loan

/-- A repaid total of `total` keeps every product in range. The bounds on partial repayment are
quadratic in the principal; the one on due dates is about every installment `total` covers. -/
structure InRange (config : Config) (loan : Loan) (total : ℤ) : Prop where
  covered : total * loan.installmentCount < 2 ^ 127
  earned : total < loan.principalUsd →
    loan.collateralLocked * total * (10000 - config.safetyBufferBps) < 2 ^ 127
  scale : total < loan.principalUsd → loan.principalUsd * 10000 < 2 ^ 127
  due : total < loan.principalUsd → ∀ k : ℕ, k * loan.principalUsd ≤ total * loan.installmentCount →
    loan.originatedAt + (k + 1) * loan.intervalSecs < 2 ^ 64

section InRange

variable {config : Config} {now : ℕ} {loan : Loan} {total : ℤ}

theorem inI128_iff_of_nonneg {x : ℤ} (h0 : 0 ≤ x) : InI128 x ↔ x < 2 ^ 127 := by
  unfold InI128
  omega

/-- An installment is covered when the total reaches its share of the principal. -/
theorem Wf.le_covered_iff (h : loan.Wf) (h0 : 0 ≤ total) {k : ℕ} :
    k ≤ loan.covered total ↔ k * loan.principalUsd ≤ total * loan.installmentCount := by
  rw [← Int.le_ediv_iff_mul_le h.principal_pos, ← Nat.cast_le (α := ℤ), h.covered_eq h0]
  rfl

/-- The largest due date a partial repayment computes is the one of the first installment left. -/
theorem Wf.dueAfter_inU64_iff (h : loan.Wf) (h0 : 0 ≤ total) : InU64 (loan.dueAfter total) ↔
    ∀ k : ℕ, k * loan.principalUsd ≤ total * loan.installmentCount →
      loan.originatedAt + (k + 1) * loan.intervalSecs < 2 ^ 64 := by
  constructor
  · intro hdue k hk
    exact lt_of_le_of_lt (loan.dueDate_mono (Nat.succ_le_succ ((h.le_covered_iff h0).mpr hk))) hdue
  · intro hall
    exact hall _ ((h.le_covered_iff h0).mp (le_refl _))

/-- The condition on the terms is the condition on the arithmetic. -/
theorem Wf.fits_iff (hconfig : config.Accepted) (h : loan.Wf) (h0 : 0 ≤ total) :
    loan.Fits config total ↔ loan.InRange config total := by
  have hlocked := h.collateral_pos
  have hkept := hconfig.kept_pos
  have hearned : 0 ≤ loan.collateralLocked * total := mul_nonneg (le_of_lt hlocked) h0
  have hcovered : 0 ≤ total * (loan.installmentCount : ℤ) := mul_nonneg h0 (Int.natCast_nonneg _)
  have hscaled : 0 ≤ loan.collateralLocked * total * config.kept :=
    mul_nonneg hearned (le_of_lt hkept)
  have hscale : 0 ≤ loan.principalUsd * BPS := mul_nonneg (le_of_lt h.principal_pos) (by decide)
  constructor
  · intro hfits
    exact { covered := (inI128_iff_of_nonneg hcovered).mp hfits.scaled
            earned := fun hlt => (inI128_iff_of_nonneg hscaled).mp (hfits.kept hlt)
            scale := fun hlt => (inI128_iff_of_nonneg hscale).mp (hfits.scale hlt)
            due := fun hlt => (h.dueAfter_inU64_iff h0).mp (hfits.due hlt) }
  · intro hrange
    have hkeptIn : ∀ hlt : total < loan.principalUsd,
        InI128 (loan.collateralLocked * total * config.kept) := fun hlt =>
      (inI128_iff_of_nonneg hscaled).mpr (hrange.earned hlt)
    exact { scaled := (inI128_iff_of_nonneg hcovered).mpr hrange.covered
            -- a share of at least one basis point bounds the product it multiplies
            earned := fun hlt => (hkeptIn hlt).of_nonneg_of_le hearned
              (le_mul_of_one_le_right hearned hkept)
            kept := hkeptIn
            scale := fun hlt => (inI128_iff_of_nonneg hscale).mpr (hrange.scale hlt)
            due := fun hlt => (h.dueAfter_inU64_iff h0).mpr (hrange.due hlt) }

end InRange

end Loan

end RemitCollateral.LoanLedger

namespace RemitCollateral.Protocol

open Soroban

variable {T : Type} {d : Deployment} {tokens : Address → GuarantorVault.TokenClient T}
  {tok : GuarantorVault.StandardToken T}

/-- **Repayment in parts.** In every reachable state an attestation of the loan's registered partner
and a registered verifier, of a positive amount that does not overpay an open loan, succeeds if and
only if the repaid total it leads to keeps the arithmetic in range. -/
theorem attestation_succeeds_iff {s : Timed (System T)} (h : (machine d tokens tok).Reachable s)
    {origin : Origin} {partner verifier : Address} {loanId : ℕ} {amountUsd : ℤ}
    {loan : LoanLedger.Loan} (hchecks : LoanLedger.Attestation (origin.env s.clock d.ledger) partner
      verifier loanId amountUsd s.state.ledger loan) :
    (∃ r s', attest d tokens origin s.clock partner verifier loanId amountUsd s.state =
      some (r, s')) ↔ loan.InRange d.config (loan.totalRepaidUsd + amountUsd) := by
  have hsound : s.state.Sound d tokens tok s.clock.timestamp := System.Sound.of_reachable h
  have hconfig := hsound.ledger.accepted
  have hloan := hsound.ledger.loans _ _ hchecks.found
  have hpos := hchecks.pos
  have h0 := hloan.repaid_nonneg
  rw [← hloan.wf.fits_iff hconfig (by omega)]
  constructor
  · rintro ⟨r, s', hok⟩
    obtain ⟨loan₁, hchecks₁, hfits, -⟩ := (attest_eq_some hsound).mp hok
    obtain rfl : loan = loan₁ := Option.some.inj (hchecks.found.symm.trans hchecks₁.found)
    exact hfits
  · intro hfits
    -- the vault holds what the loan releases, so only the arithmetic could have failed
    have hle : loan.earned d.config (loan.totalRepaidUsd + amountUsd) - loan.collateralReleased ≤
        loan.remaining := by
      have hearned : loan.earned d.config (loan.totalRepaidUsd + amountUsd) ≤
          loan.collateralLocked := hloan.wf.earned_le hconfig
      unfold LoanLedger.Loan.remaining
      omega
    obtain ⟨w', hreleases⟩ := releases_succeed hsound (System.Balanced.of_reachable h)
      hchecks.found hchecks.isOpen hle origin
    exact ⟨_, _, (attest_eq_some hsound).mpr ⟨loan, hchecks, hfits, rfl, w', hreleases, rfl⟩⟩

/-- Deploy, register a partner and a verifier, deposit `deposited` and open one loan of
`principalUsd` in two daily installments. -/
def playPrincipal (deposited : ℕ) (principalUsd : ℤ) :
    Option (List (Transition TableSystem TableInput) × Timed TableSystem) :=
  let script : Script :=
    { admin := ⟨1⟩, usdc := ⟨3⟩, settlement := ⟨2⟩, timelockSecs := 0, origin := sampleOrigin
      clock := fun _ => ⟨0, 0⟩ }
  let opening : List Call :=
    [.ledger (.setPartner ⟨1⟩ ⟨5⟩ true), .ledger (.setVerifier ⟨1⟩ ⟨6⟩ true),
      .vault (.deposit ⟨4⟩ deposited), .ledger (.originate ⟨4⟩ 7 ⟨5⟩ principalUsd 2 86400)]
  play script (fun a => if a = ⟨4⟩ then deposited else 0)
    (opening.map fun call => (⟨0, 0⟩, .call sampleOrigin call))

/-- What the partner and the verifier of a played loan check holds of it. -/
theorem attestation_of_played (clock : Clock) {s : TableSystem} {loan : LoanLedger.Loan}
    {amountUsd : ℤ} (hfound : s.ledger.loans 1 = some loan) (hpos : 0 < amountUsd)
    (hloan : loan.partner = ⟨5⟩ ∧ loan.isOpen = true ∧
      loan.totalRepaidUsd + amountUsd ≤ loan.principalUsd)
    (hroles : s.ledger.partners ⟨5⟩ = some true ∧ s.ledger.verifiers ⟨6⟩ = some true) :
    LoanLedger.Attestation (sampleOrigin.env clock sample.ledger) ⟨5⟩ ⟨6⟩ 1 amountUsd s.ledger
      loan where
  partner_signed := .inr (by simp [Origin.env, sampleOrigin])
  verifier_signed := .inr (by simp [Origin.env, sampleOrigin])
  pos := hpos
  found := hfound
  own := hloan.1.symm
  partner_registered := hroles.1
  distinct := by decide
  verifier_registered := hroles.2
  isOpen := hloan.2.1
  le := hloan.2.2

/-- A loan of 120 can be repaid by half. -/
theorem attestation_succeeds_iff_half : ∃ history s r s', sampleMachine.Run history s ∧
    attest sample (fun _ => GuarantorVault.tableToken.client) sampleOrigin s.clock ⟨5⟩ ⟨6⟩ 1 60
      s.state = some (r, s') := by
  obtain ⟨history, s, hrun, hloan, hroles⟩ := exists_run_of_play
    (P := fun _ s => (s.state.loans 1).any (fun loan => (loan.partner = ⟨5⟩ ∧ loan.isOpen = true ∧
        loan.totalRepaidUsd + 60 ≤ loan.principalUsd) ∧ loan.principalUsd = 120 ∧
        loan.totalRepaidUsd = 0 ∧ loan.collateralLocked = 180 ∧ loan.installmentCount = 2 ∧
        loan.originatedAt = 0 ∧ loan.intervalSecs = 86400) = true ∧
      s.state.ledger.partners ⟨5⟩ = some true ∧ s.state.ledger.verifiers ⟨6⟩ = some true)
    (show (playPrincipal 180 120).any _ = true by decide +kernel)
  obtain ⟨loan, hfound, hchecked⟩ := Option.any_eq_true _ _ |>.mp hloan
  obtain ⟨hterms, hprincipal, hrepaid, hlocked, hcount, horigin, hinterval⟩ :=
    of_decide_eq_true hchecked
  have hchecks := attestation_of_played s.clock hfound (by decide) hterms hroles
  obtain ⟨r, s', hok⟩ := (attestation_succeeds_iff hrun.reachable hchecks).mpr
    { covered := by rw [hrepaid, hcount]; decide
      earned := fun _ => by rw [hrepaid, hlocked]; decide
      scale := fun _ => by rw [hprincipal]; decide
      due := fun _ k hk => by
        rw [hprincipal, hrepaid, hcount] at hk
        rw [horigin, hinterval]
        omega }
  exact ⟨history, s, r, s', hrun, hok⟩

/-- A loan of 2 · 10^17, 20 billion USDC at seven decimals, with 3 · 10^17 locked in the vault: the
attestation of a first half passes every check and is aborted by an overflow. -/
theorem half_repayment_overflows : ∃ history s loan, sampleMachine.Run history s ∧
    s.state.loans 1 = some loan ∧ s.state.world.vault.lockedAmount ⟨4⟩ = 300000000000000000 ∧
    LoanLedger.Attestation (sampleOrigin.env s.clock sample.ledger) ⟨5⟩ ⟨6⟩ 1 100000000000000000
      s.state.ledger loan ∧
    attest sample (fun _ => GuarantorVault.tableToken.client) sampleOrigin s.clock ⟨5⟩ ⟨6⟩ 1
      100000000000000000 s.state = none := by
  obtain ⟨history, s, hrun, hloan, hlocked, hroles, hfails⟩ := exists_run_of_play
    (P := fun _ s => (s.state.loans 1).any (fun loan => loan.partner = ⟨5⟩ ∧ loan.isOpen = true ∧
        loan.totalRepaidUsd + 100000000000000000 ≤ loan.principalUsd) = true ∧
      s.state.world.vault.lockedAmount ⟨4⟩ = 300000000000000000 ∧
      (s.state.ledger.partners ⟨5⟩ = some true ∧ s.state.ledger.verifiers ⟨6⟩ = some true) ∧
      (attest sample (fun _ => GuarantorVault.tableToken.client) sampleOrigin s.clock ⟨5⟩ ⟨6⟩ 1
        100000000000000000 s.state).isNone = true)
    (show (playPrincipal 300000000000000000 200000000000000000).any _ = true by decide +kernel)
  obtain ⟨loan, hfound, hchecked⟩ := Option.any_eq_true _ _ |>.mp hloan
  have hchecks := attestation_of_played s.clock hfound (by decide)
    (of_decide_eq_true hchecked) hroles
  exact ⟨history, s, loan, hrun, hfound, hlocked, hchecks, Option.isNone_iff_eq_none.mp hfails⟩

end RemitCollateral.Protocol
