import RemitCollateral.Protocol.Accounting

/-! # Who can move collateral

A guarantor opens loans and takes out what is free; a loan's own partner together with an
independent verifier earns collateral back; anyone may settle a loan whose grace period is over,
unless the engine is paused. No other call of any entry point, by anyone, moves collateral, and the
admin moves none. -/

namespace RemitCollateral.Protocol

open Soroban
open GuarantorVault (Posting Posts moved)
open LoanLedger (Loan)

variable {T : Type} (d : Deployment) {tokens : Address → GuarantorVault.TokenClient T}
  {tok : GuarantorVault.StandardToken T} (origin : Origin) (clock : Clock) (s : System T)
  {s' : System T} (call : Call) (id : ℕ) (loan : Loan)

/-! ## The calls that move collateral -/

/-- The call opens a loan, signed by its guarantor. -/
structure Originates : Prop where
  call_eq : ∃ beneficiary partner principalUsd installmentCount intervalSecs,
    call = .ledger (.originate loan.guarantor beneficiary partner principalUsd installmentCount
      intervalSecs)
  signed : (origin.env clock d.ledger).authorized loan.guarantor
  fresh : s.loans id = none
  opened : loan.Opened clock.timestamp

/-- The call attests a repayment of an open loan, signed by its own partner, which is registered,
and by another address, which is a registered verifier and no partner. -/
structure Attests (amountUsd : ℤ) : Prop where
  call_eq : ∃ verifier, call = .ledger (.attestRepayment loan.partner verifier id amountUsd) ∧
    verifier ≠ loan.partner ∧ (origin.env clock d.ledger).authorized verifier ∧
    s.ledger.verifiers verifier = some true ∧ s.ledger.partners verifier ≠ some true
  found : s.loans id = some loan
  isOpen : loan.isOpen = true
  partner_signed : (origin.env clock d.ledger).authorized loan.partner
  partner_registered : s.ledger.partners loan.partner = some true
  pos : 0 < amountUsd

/-- The call cranks an overdue loan while the engine runs. -/
structure Flags : Prop where
  call_eq : call = .engine (.flagOverdue id) ∨ call = .engine (.poke id)
  found : s.loans id = some loan
  active : loan.status = .active
  late : loan.nextDue < clock.timestamp
  running : LiquidationEngine.paused s.engine = false

/-- The call cranks a loan past its grace period while the engine runs. -/
structure Liquidates : Prop where
  call_eq : call = .engine (.liquidate id) ∨ call = .engine (.poke id)
  found : s.loans id = some loan
  grace : loan.status = .grace
  expired : loan.graceExpiresAt < clock.timestamp
  running : LiquidationEngine.paused s.engine = false

/-- What a call makes of one loan. -/
inductive Handles : Loan → Prop
  | leaves : Handles loan
  | reassigns (partner : Address) : Handles { loan with partner }
  | attests {amountUsd : ℤ} (attests : Attests d origin clock s call id loan amountUsd) :
      Handles (loan.repay d.config clock.timestamp amountUsd)
  | flags (flags : Flags clock s call id loan) : Handles (loan.flag d.config clock.timestamp)
  | settles (liquidates : Liquidates clock s call id loan) : Handles loan.default

variable {d origin clock s call id loan}

/-- An attestation is signed by the loan's own partner and by an independent verifier. -/
theorem attests_of_checks {now : ℕ} (h : s.ledger.Sound d.config now) {partner verifier : Address}
    {amountUsd : ℤ} (hchecks : LoanLedger.Attestation (origin.env clock d.ledger) partner verifier
      id amountUsd s.ledger loan) :
    Attests d origin clock s (.ledger (.attestRepayment partner verifier id amountUsd)) id loan
      amountUsd := by
  obtain rfl := hchecks.own
  exact { call_eq := ⟨verifier, rfl, hchecks.distinct, hchecks.verifier_signed,
            hchecks.verifier_registered,
            fun hpartner => h.roles verifier ⟨hpartner, hchecks.verifier_registered⟩⟩
          found := hchecks.found
          isOpen := hchecks.isOpen
          partner_signed := hchecks.partner_signed
          partner_registered := hchecks.partner_registered
          pos := hchecks.pos }

/-- Every loan after a call was opened by it or is what it made of a loan before it. -/
theorem Moves.handles (h : s.Sound d tokens tok clock.timestamp)
    (hmoves : Moves d origin clock s s' call) {loan' : Loan} (hloan' : s'.loans id = some loan') :
    Originates d origin clock s call id loan' ∨
      ∃ loan, s.loans id = some loan ∧ Handles d origin clock s call id loan loan' := by
  have hledger := h.ledger
  cases hmoves with
  | quiet hquiet =>
      rw [System.loans, hquiet.loans] at hloan'
      exact .inr ⟨loan', hloan', .leaves⟩
  | deposit _ _ hsame | withdraw _ _ hsame =>
      rw [System.loans, hsame] at hloan'
      exact .inr ⟨loan', hloan', .leaves⟩
  | @originate guarantor _ _ _ _ _ loan hchecks hpos hopen =>
      -- the loan looked at is the one opened, or was there before
      rw [loans_open hopen, update_eq_some] at hloan'
      rcases hloan' with ⟨rfl, rfl⟩ | ⟨-, hloan'⟩
      · have hguarantor : loan.guarantor = guarantor := hchecks.opens ▸ rfl
        exact .inl ⟨⟨_, _, _, _, _, by rw [hguarantor]⟩, hguarantor ▸ hchecks.signed,
          hledger.fresh (hchecks.opens ▸ rfl), hchecks.opened hpos⟩
      · exact .inr ⟨loan', hloan', .leaves⟩
  | reassign _ hfound _ hrecord =>
      rw [loans_record hledger hfound hrecord rfl, update_eq_some] at hloan'
      rcases hloan' with ⟨rfl, rfl⟩ | ⟨-, hloan'⟩
      · exact .inr ⟨_, hfound, .reassigns _⟩
      · exact .inr ⟨loan', hloan', .leaves⟩
  | attest hchecks hrecord =>
      rw [loans_record hledger hchecks.found hrecord rfl, update_eq_some] at hloan'
      rcases hloan' with ⟨rfl, rfl⟩ | ⟨-, hloan'⟩
      · exact .inr ⟨_, hchecks.found, .attests (attests_of_checks hledger hchecks)⟩
      · exact .inr ⟨loan', hloan', .leaves⟩
  | flag hcrank hrunning hfound hstatus hlate hrecord =>
      rw [loans_record hledger hfound hrecord rfl, update_eq_some] at hloan'
      rcases hloan' with ⟨rfl, rfl⟩ | ⟨-, hloan'⟩
      · exact .inr ⟨_, hfound, .flags ⟨hcrank, hfound, hstatus, hlate, hrunning⟩⟩
      · exact .inr ⟨loan', hloan', .leaves⟩
  | settle hcrank hrunning hfound hstatus hexpired hrecord =>
      rw [loans_record hledger hfound hrecord rfl, update_eq_some] at hloan'
      rcases hloan' with ⟨rfl, rfl⟩ | ⟨-, hloan'⟩
      · exact .inr ⟨_, hfound, .settles ⟨hcrank, hfound, hstatus, hexpired, hrunning⟩⟩
      · exact .inr ⟨loan', hloan', .leaves⟩

/-! ## Both columns of a record -/

/-- What a guarantor has locked falls only by an attestation or a liquidation on a loan
of its own. -/
theorem Moves.locked_lowered (h : s.Sound d tokens tok clock.timestamp)
    (hmoves : Moves d origin clock s s' call) {g : Address}
    (hlt : s'.world.vault.lockedAmount g < s.world.vault.lockedAmount g) :
    ∃ id loan, loan.guarantor = g ∧
      ((∃ amountUsd, Attests d origin clock s call id loan amountUsd) ∨
        Liquidates clock s call id loan) := by
  have hledger := h.ledger
  cases hmoves with
  | quiet _ hposts | reassign _ _ _ _ hposts | flag _ _ _ _ _ _ hposts =>
      have := hposts.locked g
      simp only [GuarantorVault.moved_nil] at this
      omega
  | deposit _ _ _ hposts | withdraw _ _ _ hposts =>
      have := hposts.locked g
      simp only [GuarantorVault.moved_cons, GuarantorVault.moved_nil, reduceCtorEq, false_and,
        if_false] at this
      omega
  | originate hchecks hpos _ hposts =>
      have := hposts.locked g
      simp only [GuarantorVault.moved_cons, GuarantorVault.moved_nil, reduceCtorEq, true_and,
        false_and, if_false] at this
      split at this <;> omega
  | @attest _ _ id amountUsd loan hchecks _ hposts =>
      refine ⟨id, loan, ?_, .inl ⟨amountUsd, attests_of_checks hledger hchecks⟩⟩
      have hreturned := earned_sub_nonneg hledger.accepted (hledger.loans _ _ hchecks.found)
        hchecks.isOpen hchecks.pos
      obtain ⟨-, hlocked⟩ := returned_posts hreturned hposts g
      -- another guarantor's record would be as before
      by_contra hne
      rw [if_neg hne] at hlocked
      omega
  | @settle _ id loan hcrank hrunning hfound hstatus hexpired _ hposts =>
      refine ⟨id, loan, ?_, .inr ⟨hcrank, hfound, hstatus, hexpired, hrunning⟩⟩
      obtain ⟨-, hlocked⟩ := settlement_posts hledger.accepted (hledger.loans _ _ hfound) hposts g
      by_contra hne
      rw [if_neg hne] at hlocked
      omega

/-- A guarantor's balance falls only by its own withdrawal or a liquidation of a loan of its
own. -/
theorem Moves.balance_lowered (h : s.Sound d tokens tok clock.timestamp)
    (hmoves : Moves d origin clock s s' call) {g : Address}
    (hlt : s'.world.vault.collateralBalance g < s.world.vault.collateralBalance g) :
    (∃ amount, call = .vault (.withdraw g amount) ∧ (origin.env clock d.vault).authorized g) ∨
      ∃ id loan, loan.guarantor = g ∧ Liquidates clock s call id loan := by
  have hledger := h.ledger
  cases hmoves with
  | quiet _ hposts | reassign _ _ _ _ hposts | flag _ _ _ _ _ _ hposts =>
      have := hposts.balance g
      simp only [GuarantorVault.moved_nil] at this
      omega
  | deposit _ hpos _ hposts =>
      have := hposts.balance g
      simp only [GuarantorVault.moved_cons, GuarantorVault.moved_nil, reduceCtorEq, true_and,
        false_and, if_false] at this
      split at this <;> omega
  | @withdraw g' amount hsigned hpos _ hposts =>
      have := hposts.balance g
      simp only [GuarantorVault.moved_cons, GuarantorVault.moved_nil, reduceCtorEq, false_and,
        true_and, if_false] at this
      -- the record that was debited is the caller's own
      by_cases heq : g' = g
      · subst heq
        exact .inl ⟨amount, rfl, hsigned⟩
      · rw [if_neg heq] at this
        omega
  | originate hchecks hpos _ hposts =>
      have := hposts.balance g
      simp only [GuarantorVault.moved_cons, GuarantorVault.moved_nil, reduceCtorEq, false_and,
        if_false] at this
      omega
  | attest hchecks _ hposts =>
      have hreturned := earned_sub_nonneg hledger.accepted (hledger.loans _ _ hchecks.found)
        hchecks.isOpen hchecks.pos
      have := (returned_posts hreturned hposts g).1
      omega
  | @settle _ id loan hcrank hrunning hfound hstatus hexpired _ hposts =>
      refine .inr ⟨id, loan, ?_, hcrank, hfound, hstatus, hexpired, hrunning⟩
      obtain ⟨hbalance, -⟩ := settlement_posts hledger.accepted (hledger.loans _ _ hfound) hposts g
      by_contra hne
      rw [if_neg hne] at hbalance
      omega

/-- What a guarantor has locked rises only by its own origination. -/
theorem Moves.locked_raised (h : s.Sound d tokens tok clock.timestamp)
    (hmoves : Moves d origin clock s s' call) {g : Address}
    (hlt : s.world.vault.lockedAmount g < s'.world.vault.lockedAmount g) :
    ∃ beneficiary partner principalUsd installmentCount intervalSecs,
      call = .ledger (.originate g beneficiary partner principalUsd installmentCount intervalSecs) ∧
        (origin.env clock d.ledger).authorized g := by
  have hledger := h.ledger
  cases hmoves with
  | quiet _ hposts | reassign _ _ _ _ hposts | flag _ _ _ _ _ _ hposts =>
      have := hposts.locked g
      simp only [GuarantorVault.moved_nil] at this
      omega
  | deposit _ _ _ hposts | withdraw _ _ _ hposts =>
      have := hposts.locked g
      simp only [GuarantorVault.moved_cons, GuarantorVault.moved_nil, reduceCtorEq, false_and,
        if_false] at this
      omega
  | @originate guarantor _ _ _ _ _ loan hchecks hpos _ hposts =>
      have hguarantor : loan.guarantor = guarantor := hchecks.opens ▸ rfl
      have := hposts.locked g
      simp only [GuarantorVault.moved_cons, GuarantorVault.moved_nil, reduceCtorEq, false_and,
        true_and, if_false, hguarantor] at this
      by_cases heq : guarantor = g
      · subst heq
        exact ⟨_, _, _, _, _, rfl, hchecks.signed⟩
      · rw [if_neg heq] at this
        omega
  | attest hchecks _ hposts =>
      have hreturned := earned_sub_nonneg hledger.accepted (hledger.loans _ _ hchecks.found)
        hchecks.isOpen hchecks.pos
      obtain ⟨-, hlocked⟩ := returned_posts hreturned hposts g
      split at hlocked <;> omega
  | settle _ _ hfound _ _ _ hposts =>
      have hsound := hledger.loans _ _ hfound
      have hheld := hsound.remaining_nonneg hledger.accepted
      obtain ⟨-, hlocked⟩ := settlement_posts hledger.accepted hsound hposts g
      split at hlocked <;> omega

/-! ## Administration and pauses -/

/-- The operations of the admin. -/
def Call.isAdmin : Call → Bool
  | .vault (.setLoanLedger ..) | .vault (.setLiquidationEngine ..) | .vault (.scheduleAction ..)
  | .vault (.executeAction ..) | .vault (.cancelAction ..) | .vault (.proposeAdmin ..)
  | .vault (.acceptAdmin ..) => true
  | .ledger (.setOracle ..) | .ledger (.setLiquidationEngine ..) | .ledger (.setPartner ..)
  | .ledger (.setVerifier ..) | .ledger (.reassignPartner ..) | .ledger (.scheduleAction ..)
  | .ledger (.executeAction ..) | .ledger (.cancelAction ..) | .ledger (.proposeAdmin ..)
  | .ledger (.acceptAdmin ..) => true
  | .engine (.flagOverdue ..) | .engine (.liquidate ..) | .engine (.poke ..) => false
  | .engine _ => true
  | _ => false

/-- The admin moves no collateral and no tokens. -/
theorem Moves.admin (hmoves : Moves d origin clock s s' call) (hadmin : call.isAdmin = true) :
    (Posts [] s.world.vault s'.world.vault ∧ s'.world.token = s.world.token) := by
  cases hmoves with
  | quiet _ hposts htoken => exact ⟨hposts, htoken⟩
  | reassign _ _ _ _ hposts htoken => exact ⟨hposts, htoken⟩
  | deposit | withdraw | originate | attest => cases hadmin
  | flag hcrank | settle hcrank => rcases hcrank with rfl | rfl <;> cases hadmin

/-- While the engine is paused nothing is forfeited. -/
theorem Moves.paused (hmoves : Moves d origin clock s s' call)
    (hpaused : LiquidationEngine.paused s.engine = true) :
    ∃ new, s'.world.vault.postings = new ++ s.world.vault.postings ∧
      ∀ p ∈ new, p.topic ≠ .forfeit := by
  cases hmoves with
  | quiet _ hposts | reassign _ _ _ _ hposts => exact ⟨[], hposts.postings, nofun⟩
  | deposit _ _ _ hposts | withdraw _ _ _ hposts | originate _ _ _ hposts =>
      exact ⟨_, hposts.postings, by simp⟩
  | attest _ _ hposts =>
      refine ⟨_, hposts.postings, ?_⟩
      intro p hp
      unfold returned at hp
      split at hp
      · simp [List.mem_singleton.mp hp]
      · cases hp
  | flag _ hrunning | settle _ hrunning => simp [hpaused] at hrunning

/-! ## What one call may do -/

/-- What a call that takes the system from `s` to `s'` may do to collateral, and who must have
signed it. -/
structure Authority (d : Deployment) (origin : Origin) (clock : Clock) (s s' : System T)
    (call : Call) : Prop where
  loan_lowered : ∀ id loan loan', s.loans id = some loan → s'.loans id = some loan' →
    loan'.remaining < loan.remaining →
      (∃ amountUsd, Attests d origin clock s call id loan amountUsd) ∨
        Liquidates clock s call id loan
  locked_lowered : ∀ g, s'.world.vault.lockedAmount g < s.world.vault.lockedAmount g →
    ∃ id loan, loan.guarantor = g ∧
      ((∃ amountUsd, Attests d origin clock s call id loan amountUsd) ∨
        Liquidates clock s call id loan)
  balance_lowered : ∀ g, s'.world.vault.collateralBalance g < s.world.vault.collateralBalance g →
    (∃ amount, call = .vault (.withdraw g amount) ∧ (origin.env clock d.vault).authorized g) ∨
      ∃ id loan, loan.guarantor = g ∧ Liquidates clock s call id loan
  locked_raised : ∀ g, s.world.vault.lockedAmount g < s'.world.vault.lockedAmount g →
    ∃ beneficiary partner principalUsd installmentCount intervalSecs,
      call = .ledger (.originate g beneficiary partner principalUsd installmentCount intervalSecs) ∧
        (origin.env clock d.ledger).authorized g
  /-- While the engine is paused no loan enters grace or default and nothing is forfeited. -/
  paused : LiquidationEngine.paused s.engine = true →
    (∀ id loan', s'.loans id = some loan' → loan'.status = .grace ∨ loan'.status = .defaulted →
      ∃ loan, s.loans id = some loan ∧ loan.status = loan'.status) ∧
    ∃ new, s'.world.vault.postings = new ++ s.world.vault.postings ∧ ∀ p ∈ new, p.topic ≠ .forfeit
  /-- The admin moves no collateral. -/
  admin : call.isAdmin = true →
    (∀ g, s'.world.vault.collateralBalance g = s.world.vault.collateralBalance g ∧
      s'.world.vault.lockedAmount g = s.world.vault.lockedAmount g) ∧
    s'.world.token = s.world.token ∧
    ∀ id loan', s'.loans id = some loan' →
      ∃ loan, s.loans id = some loan ∧ loan'.remaining = loan.remaining

/-- A call does to one loan only what its signatures and the calendar allow. -/
theorem Handles.remaining_lowered {loan' : Loan} (h : Handles d origin clock s call id loan loan')
    (hlt : loan'.remaining < loan.remaining) :
    (∃ amountUsd, Attests d origin clock s call id loan amountUsd) ∨
      Liquidates clock s call id loan := by
  cases h with
  | leaves | reassigns | flags => exact absurd hlt (lt_irrefl _)
  | attests hattests => exact .inl ⟨_, hattests⟩
  | settles hliquidates => exact .inr hliquidates

/-- While the engine is paused a loan does not enter grace or default. -/
theorem Handles.paused {loan' : Loan} (h : Handles d origin clock s call id loan loan')
    (hpaused : LiquidationEngine.paused s.engine = true)
    (hstatus : loan'.status = .grace ∨ loan'.status = .defaulted) : loan.status = loan'.status := by
  cases h with
  | leaves | reassigns => rfl
  | attests hattests =>
      simp only [Loan.repay] at hstatus ⊢
      split at hstatus
      · simp at hstatus
      · split at hstatus
        · simp at hstatus
        · -- a repayment that neither closes the loan nor ends its grace keeps the status
          rw [if_neg ‹_›, if_neg ‹_›]
  | flags hflags => exact absurd (hpaused.symm.trans hflags.running) (by decide)
  | settles hliquidates => exact absurd (hpaused.symm.trans hliquidates.running) (by decide)

/-- The admin changes nothing of what a loan holds. -/
theorem Handles.admin {loan' : Loan} (h : Handles d origin clock s call id loan loan')
    (hadmin : call.isAdmin = true) : loan'.remaining = loan.remaining := by
  cases h with
  | leaves | reassigns | flags => rfl
  | attests hattests =>
      obtain ⟨verifier, rfl, -⟩ := hattests.call_eq
      cases hadmin
  | settles hliquidates => rcases hliquidates.call_eq with rfl | rfl <;> cases hadmin

/-- Every move stays within its authority. -/
theorem Moves.authority (h : s.Sound d tokens tok clock.timestamp)
    (hmoves : Moves d origin clock s s' call) : Authority d origin clock s s' call where
  loan_lowered id loan loan' hloan hloan' hlt := by
    rcases hmoves.handles h hloan' with horiginates | ⟨loan₁, hloan₁, hhandles⟩
    · simp [horiginates.fresh] at hloan
    · obtain rfl : loan = loan₁ := Option.some.inj (hloan.symm.trans hloan₁)
      exact hhandles.remaining_lowered hlt
  locked_lowered _ := hmoves.locked_lowered h
  balance_lowered _ := hmoves.balance_lowered h
  locked_raised _ := hmoves.locked_raised h
  paused hpaused := by
    refine ⟨fun id loan' hloan' hstatus => ?_, hmoves.paused hpaused⟩
    rcases hmoves.handles h hloan' with horiginates | ⟨loan, hloan, hhandles⟩
    · simp [horiginates.opened.status] at hstatus
    · exact ⟨loan, hloan, hhandles.paused hpaused hstatus⟩
  admin hadmin := by
    obtain ⟨hposts, htoken⟩ := hmoves.admin hadmin
    refine ⟨fun g => ⟨?_, ?_⟩, htoken, fun id loan' hloan' => ?_⟩
    · simpa using hposts.balance g
    · simpa using hposts.locked g
    · rcases hmoves.handles h hloan' with horiginates | ⟨loan, hloan, hhandles⟩
      · obtain ⟨_, _, _, _, _, rfl⟩ := horiginates.call_eq
        cases hadmin
      · exact ⟨loan, hloan, hhandles.admin hadmin⟩

/-- **Authority.** In every reachable state of the wired system no address is both a registered
partner and a registered verifier, and every single call moves collateral only
within its authority. -/
theorem collateral_authority {s : Timed (System T)} (h : (machine d tokens tok).Reachable s) :
    (∀ address, ¬ (s.state.ledger.partners address = some true ∧
      s.state.ledger.verifiers address = some true)) ∧
    ∀ origin call s', d.External origin → exec d tokens origin s.clock s.state call = some s' →
      Authority d origin s.clock s.state s' call := by
  have hsound := System.Sound.of_reachable h
  exact ⟨hsound.ledger.roles, fun origin call s' hexternal hok =>
    (exec_moves hsound hexternal hok).1.authority hsound⟩

/-- An attestation of 30 on a loan of 120 lowers what is locked, and carries the signatures of its
partner and of a verifier. -/
theorem collateral_authority_attested : ∃ history s s', sampleMachine.Run history s ∧
    exec sample (fun _ => GuarantorVault.tableToken.client) sampleOrigin s.clock s.state
      (.ledger (.attestRepayment ⟨5⟩ ⟨6⟩ 1 30)) = some s' ∧
    ∃ id loan, loan.guarantor = ⟨4⟩ ∧ ((∃ amountUsd, Attests sample sampleOrigin s.clock s.state
        (.ledger (.attestRepayment ⟨5⟩ ⟨6⟩ 1 30)) id loan amountUsd) ∨
      Liquidates s.clock s.state (.ledger (.attestRepayment ⟨5⟩ ⟨6⟩ 1 30)) id loan) := by
  obtain ⟨history, s, hrun, hcall⟩ := exists_run_of_playLoan
    (P := fun _ s => (exec sample (fun _ => GuarantorVault.tableToken.client) sampleOrigin s.clock
      s.state (.ledger (.attestRepayment ⟨5⟩ ⟨6⟩ 1 30))).any (fun s' =>
        s'.world.vault.lockedAmount ⟨4⟩ < s.state.world.vault.lockedAmount ⟨4⟩) = true)
    (show (playLoan []).any _ = true by decide +kernel)
  obtain ⟨s', hok, hlt⟩ := Option.any_eq_true _ _ |>.mp hcall
  have hauthority := (collateral_authority hrun.reachable).2 sampleOrigin _ s' (by decide) hok
  exact ⟨history, s, s', hrun, hok, hauthority.locked_lowered ⟨4⟩ (of_decide_eq_true hlt)⟩

end RemitCollateral.Protocol
