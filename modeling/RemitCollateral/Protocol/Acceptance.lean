import RemitCollateral.Protocol.PledgeBook

/-! # The system accepts what the book allows

The vault decides on two numbers for each guarantor, without a look at any loan, and the ledger on
its loans, without a look at any balance. Together they refuse for want of collateral exactly what
the book of pledges has no room for. -/

namespace RemitCollateral.Protocol

open Soroban
open LoanLedger (Loan)
open Pledges (Book Entry)

variable {T : Type} {d : Deployment} {tokens : Address → GuarantorVault.TokenClient T}
  {tok : GuarantorVault.StandardToken T} {origin : Origin} {clock : Clock} {s s' : System T}
  {book : PledgeBook}

/-- A withdrawal is accepted if the guarantor signs it and the book has the amount free. -/
theorem withdraw_accepted_iff (h : s.Settled d tokens tok clock) (hshows : s.Shows book)
    (g : Address) (amount : ℤ) :
    (exec d tokens origin clock s (.vault (.withdraw g amount))).isSome = true ↔
      (origin.env clock d.vault).authorized g ∧ 0 < amount ∧ book.Allows (.payOut g amount) := by
  have hsolvent := h.1.solvent
  constructor
  · intro hsome
    obtain ⟨s', hok⟩ := Option.isSome_iff_exists.mp hsome
    obtain ⟨w', hw', -⟩ := Option.map_eq_some_iff.mp hok
    obtain ⟨-, hauth, hpos, hfree, -⟩ :=
      (GuarantorVault.withdraw_eq_ok hsolvent.sound hsolvent.uses).mp (outcome_eq_some.mp hw')
    rw [← hshows.free] at hfree
    exact ⟨hauth, hpos, le_of_lt hpos, hfree⟩
  · rintro ⟨hauth, hpos, -, hfree⟩
    rw [hshows.free] at hfree
    obtain ⟨w', hok⟩ :=
      hsolvent.withdraw_succeeds (origin.env_currentContract clock d.vault) hauth hpos hfree
    rw [Option.isSome_iff_exists]
    exact ⟨_, Option.map_eq_some_iff.mpr ⟨w', outcome_eq_some.mpr hok, rfl⟩⟩

/-- The vault locks what is free, for the ledger. -/
theorem lock_succeeds {now : ℕ} (h : s.Sound d tokens tok now) {env : Env}
    (hself : env.currentContract = d.ledger) {g : Address} {amount : ℤ} (hpos : 0 < amount)
    (hfree : amount ≤ s.world.vault.collateralBalance g - s.world.vault.lockedAmount g) :
    ∃ w', (ledgerVaults d tokens d.vault).lockCollateral (env.call d.vault) env.currentContract g
      amount s.world = some w' := by
  have hauth : (env.call d.vault).authorized env.currentContract :=
    env.call_authorized_self d.vault
  have hcaller : s.world.vault.loanLedger = some env.currentContract := by
    rw [hself]
    exact h.wired.vaultLedger
  have hlocks := (GuarantorVault.lockCollateral_eq_ok h.solvent.sound).mpr
    ⟨h.solvent.unlocked, hauth, hcaller, hpos, hfree, rfl⟩
  rw [ledgerVaults_vault]
  exact ⟨_, outcome_eq_some.mpr (GuarantorVault.onVault_eq_ok.mpr ⟨_, hlocks, rfl⟩)⟩

/-- A loan is accepted if the checks of the ledger hold and the book has its collateral free. -/
theorem originate_accepted_iff (h : s.Settled d tokens tok clock) (hshows : s.Shows book)
    (hexternal : d.External origin) (g : Address) (beneficiary : BytesN32) (partner : Address)
    (principalUsd : ℤ) (installmentCount intervalSecs : ℕ) :
    (exec d tokens origin clock s (.ledger (.originate g beneficiary partner principalUsd
        installmentCount intervalSecs))).isSome = true ↔
      ∃ loan, LoanLedger.Origination (origin.env clock d.ledger) d.config g beneficiary partner
          principalUsd installmentCount intervalSecs s.ledger loan ∧
        0 < loan.collateralLocked ∧ book.Allows (.pledge g loan.id loan.collateralLocked) := by
  have hstorage : s.ledger.Sound d.config (origin.env clock d.ledger).timestamp := h.1.ledger
  constructor
  · intro hsome
    obtain ⟨s', hok⟩ := Option.isSome_iff_exists.mp hsome
    obtain ⟨hmoves, hsound'⟩ := exec_moves h.1 hexternal hok
    have h' : s'.Settled d tokens tok clock := ⟨hsound', h.2.step h.1 hmoves⟩
    obtain ⟨loan, hchecks, hpos, -⟩ := originate_opens h.1 hok
    obtain ⟨hallows, -⟩ := originate_follows h.1 h' hshows hok
    refine ⟨loan, hchecks, hpos, ?_⟩
    rw [hchecks.opens]
    exact hallows
  · rintro ⟨loan, hchecks, hpos, -, -, hfree⟩
    rw [hshows.free] at hfree
    obtain ⟨w', hlock⟩ := lock_succeeds h.1 (origin.env_currentContract clock d.ledger) hpos hfree
    obtain ⟨l', hok⟩ : ∃ l', LoanLedger.originate (ledgerVaults d tokens)
        (origin.env clock d.ledger) g beneficiary partner principalUsd installmentCount intervalSecs
        s.ledger s.world = .ok (loan.id, l', w') :=
      LoanLedger.originate_succeeds hstorage hchecks hpos h.1.wired.ledgerVault hlock
    rw [Option.isSome_iff_exists]
    refine ⟨_, Option.map_eq_some_iff.mpr ⟨(l', w'), ?_, rfl⟩⟩
    exact outcome_eq_some.mpr (map_eq_ok.mpr ⟨_, hok, rfl⟩)

/-- **Acceptance.** In every reachable state of the wired system, the book of pledges that its
records show decides what is refused for want of collateral: a withdrawal goes through exactly when
the guarantor signs it and the amount is positive and free in the book, and a loan is opened exactly
when the checks the ledger makes of its own hold and the collateral is positive and free in the
book. Neither the sums the vault caches nor the order of the calls that made them ever refuse
more, or less. -/
theorem accepts_what_book_allows {s : Timed (System T)}
    (h : (machine d tokens tok).Reachable s) : ∃ book, s.state.Shows book ∧
    (∀ origin g amount,
      (exec d tokens origin s.clock s.state (.vault (.withdraw g amount))).isSome = true ↔
        (origin.env s.clock d.vault).authorized g ∧ 0 < amount ∧
          book.Allows (.payOut g amount)) ∧
    (∀ origin, d.External origin → ∀ g beneficiary partner principalUsd installmentCount
        intervalSecs,
      (exec d tokens origin s.clock s.state (.ledger (.originate g beneficiary partner principalUsd
          installmentCount intervalSecs))).isSome = true ↔
        ∃ loan, LoanLedger.Origination (origin.env s.clock d.ledger) d.config g beneficiary partner
            principalUsd installmentCount intervalSecs s.state.ledger loan ∧
          0 < loan.collateralLocked ∧ book.Allows (.pledge g loan.id loan.collateralLocked)) := by
  have hsettled : s.state.Settled d tokens tok s.clock := .of_reachable h
  obtain ⟨history, hrun⟩ := h
  obtain ⟨-, book, -, hshows, -⟩ := (machine_refines d tokens tok).run hrun
  refine ⟨book, hshows, ?_, ?_⟩
  · intro origin g amount
    exact withdraw_accepted_iff hsettled hshows g amount
  · intro origin hexternal g beneficiary partner principalUsd installmentCount intervalSecs
    exact originate_accepted_iff hsettled hshows hexternal g beneficiary partner principalUsd
      installmentCount intervalSecs

/-- With 1000 paid in and 180 of them pledged to a loan, 820 can be taken out. -/
theorem accepts_what_book_allows_partlyPledged : ∃ history s, sampleMachine.Run history s ∧
    ∃ book : PledgeBook, s.state.Shows book ∧ book.Allows (.payOut ⟨4⟩ 820) := by
  obtain ⟨history, s, hrun, hsome⟩ := exists_run_of_playLoan
    (P := fun _ s => (exec sample (fun _ => GuarantorVault.tableToken.client) sampleOrigin s.clock
      s.state (.vault (.withdraw ⟨4⟩ 820))).isSome = true)
    (show (playLoan []).any _ = true by decide +kernel)
  obtain ⟨book, hshows, hwithdraw, -⟩ := accepts_what_book_allows hrun.reachable
  exact ⟨history, s, hrun, book, hshows, ((hwithdraw sampleOrigin ⟨4⟩ 820).mp hsome).2.2⟩

end RemitCollateral.Protocol
