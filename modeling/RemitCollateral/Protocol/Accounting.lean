import RemitCollateral.Protocol.Runs

/-! # Accounting across contracts

The vault keeps one locked amount for each guarantor, the ledger keeps what is still held against
each loan. The two sides are changed by different code in different contracts, and agree in every
reachable state: what a move posts to the vault is what it changes on the loans. -/

namespace RemitCollateral.Protocol

open Soroban
open GuarantorVault (Posting Posts moved)
open LoanLedger (Loan)

variable {T : Type} {d : Deployment} {tokens : Address → GuarantorVault.TokenClient T}
  {tok : GuarantorVault.StandardToken T} {origin : Origin} {clock : Clock} {s s' : System T}

/-- The collateral of `g` that an entry of the book holds: what is not yet released of an open loan
of its own. -/
def held (g : Address) : Option Loan → ℤ
  | some loan => if loan.guarantor = g ∧ loan.isOpen = true then loan.remaining else 0
  | none => 0

/-- The collateral of `g` that all loans hold together. -/
def System.held (s : System T) (g : Address) : ℤ :=
  ∑ id ∈ Finset.Icc 1 (LoanLedger.getLoanCount s.ledger), Protocol.held g (s.loans id)

/-! ## What a move changes on the loans -/

section Held

variable {g : Address} {loan loan' : Loan}

theorem held_of_open (hopen : loan.isOpen = true) :
    held g (some loan) = if loan.guarantor = g then loan.remaining else 0 := by
  simp [held, hopen]

theorem held_of_closed (hclosed : loan.isOpen = false) : held g (some loan) = 0 := by
  simp [held, hclosed]

/-- Recording a move of one loan changes the total by what the loan changes. -/
theorem held_record {now : ℕ} (h : s.ledger.Sound d.config now) {id : ℕ}
    (hfound : s.ledger.loans id = some loan)
    (hrecord : ∃ ttl, s.ledger.record loan' ttl = s'.ledger) (hid : loan'.id = loan.id) :
    s'.held g = s.held g + (held g (some loan') - held g (some loan)) := by
  have hloans := loans_record h hfound hrecord hid
  obtain ⟨ttl, hrecord⟩ := hrecord
  have hcount : LoanLedger.getLoanCount s'.ledger = LoanLedger.getLoanCount s.ledger := by
    rw [← hrecord]
    rfl
  have hmem := Finset.mem_Icc.mpr (h.counted _ _ hfound)
  have hfound' : s.loans id = some loan := hfound
  -- the other terms of the sum are the same
  have hoff : ∀ j, j ≠ id → held g (s'.loans j) = held g (s.loans j) := by
    intro j hj
    rw [hloans, Function.update_of_ne hj]
  have hsum := Pool.sum_eq_add_sub hmem hoff
  rw [System.held, hcount, hsum]
  simp only [hloans, Function.update_self, hfound']
  rfl

/-- Opening a loan adds what it holds. -/
theorem held_open (hid : loan.id = LoanLedger.getLoanCount s.ledger + 1)
    (hopen : ∃ ttl, s.ledger.open loan ttl = s'.ledger) :
    s'.held g = s.held g + held g (some loan) := by
  have hloans := loans_open hopen
  obtain ⟨ttl, hopen⟩ := hopen
  have hcount : LoanLedger.getLoanCount s'.ledger = LoanLedger.getLoanCount s.ledger + 1 := by
    rw [← hopen, ← hid]
    rfl
  -- the new loan has the next number, the last one of the sum
  rw [System.held, hcount, Finset.sum_Icc_succ_top (Nat.le_add_left 1 _), hloans, ← hid,
    Function.update_self]
  congr 1
  refine Finset.sum_congr rfl fun j hj => ?_
  have := (Finset.mem_Icc.mp hj).2
  rw [Function.update_of_ne (by omega)]

/-- Leaving the loans alone leaves the total alone. -/
theorem held_same (hloans : s'.ledger.loans = s.ledger.loans)
    (hcount : s'.ledger.loanCount = s.ledger.loanCount) : s'.held g = s.held g := by
  rw [System.held, LoanLedger.getLoanCount, hcount, System.loans, hloans]
  rfl

end Held

/-! ## What a move posts -/

section Posted

variable (topic : GuarantorVault.Topic) (g : Address) {guarantor : Address} {amount : ℤ}

theorem moved_returned (h0 : 0 ≤ amount) : moved topic g (returned guarantor amount) =
    if topic = .release ∧ guarantor = g then amount else 0 := by
  unfold returned
  split
  · simp [eq_comm]
  · have : amount = 0 := by omega
    simp [this]

theorem moved_seized (h0 : 0 ≤ amount) : moved topic g (seized guarantor amount) =
    if topic = .forfeit ∧ guarantor = g then amount else 0 := by
  unfold seized
  split
  · simp [eq_comm]
  · have : amount = 0 := by omega
    simp [this]

/-- Returning collateral posts nothing else. -/
theorem moved_returned_of_ne (h : topic ≠ .release) :
    moved topic g (returned guarantor amount) = 0 := by
  unfold returned
  split <;> simp [h.symm]

/-- Seizing collateral posts nothing else. -/
theorem moved_seized_of_ne (h : topic ≠ .forfeit) :
    moved topic g (seized guarantor amount) = 0 := by
  unfold seized
  split <;> simp [h.symm]

end Posted

section Settlement

variable {config : LoanLedger.Config} {now : ℕ} {loan : Loan}

/-- A liquidation takes no less than nothing. -/
theorem forfeitable_nonneg (hconfig : config.Accepted) (h : loan.Sound config now) :
    0 ≤ forfeitable loan :=
  le_min h.outstanding_nonneg (h.remaining_nonneg hconfig)

/-- A liquidation takes no more than is held. -/
theorem forfeitable_le (loan : Loan) : forfeitable loan ≤ loan.remaining := min_le_right _ _

/-- What an attestation returns is no less than nothing. -/
theorem earned_sub_nonneg (hconfig : config.Accepted) (h : loan.Sound config now)
    (hopen : loan.isOpen = true) {amount : ℤ} (hpos : 0 < amount) :
    0 ≤ loan.earned config (loan.totalRepaidUsd + amount) - loan.collateralReleased := by
  have hle : loan.totalRepaidUsd ≤ loan.totalRepaidUsd + amount := by omega
  have hmono := h.wf.earned_mono hconfig hle
  rw [h.released_open hopen]
  omega

/-- What returning collateral leaves in the records. -/
theorem returned_posts {guarantor : Address} {amount : ℤ} {v v' : GuarantorVault.State}
    (h0 : 0 ≤ amount) (hposts : Posts (returned guarantor amount) v v') (g : Address) :
    v'.collateralBalance g = v.collateralBalance g ∧
      v'.lockedAmount g = v.lockedAmount g - if guarantor = g then amount else 0 := by
  rw [hposts.balance, hposts.locked]
  simp only [moved_returned _ _ h0, reduceCtorEq, false_and, true_and, if_false]
  omega

/-- What a settlement leaves in the records. -/
theorem settlement_posts {v v' : GuarantorVault.State} (hconfig : config.Accepted)
    (h : loan.Sound config now) (hposts : Posts (settlement loan) v v') (g : Address) :
    v'.collateralBalance g =
        v.collateralBalance g - (if loan.guarantor = g then forfeitable loan else 0) ∧
      v'.lockedAmount g =
        v.lockedAmount g - if loan.guarantor = g then loan.remaining else 0 := by
  have hforfeit := forfeitable_nonneg hconfig h
  have hrest := sub_nonneg.mpr (forfeitable_le loan)
  rw [hposts.balance, hposts.locked]
  simp only [settlement, GuarantorVault.moved_append, moved_returned _ _ hrest,
    moved_seized _ _ hforfeit, reduceCtorEq, false_and, true_and, if_false]
  split <;> omega

/-- What a repaid loan holds is what it held less what was returned. -/
theorem held_repay (hopen : loan.isOpen = true) {amount : ℤ} (g : Address) :
    held g (some (loan.repay config now amount)) = if loan.guarantor = g then
      loan.remaining - (loan.earned config (loan.totalRepaidUsd + amount) - loan.collateralReleased)
    else 0 := by
  have hafter : (loan.repay config now amount).isOpen =
      decide (loan.totalRepaidUsd + amount < loan.principalUsd) := LoanLedger.repay_isOpen hopen now
  by_cases hend : loan.principalUsd ≤ loan.totalRepaidUsd + amount
  · -- repaid, it holds nothing, and everything that was left is earned
    rw [decide_eq_false (not_lt.mpr hend)] at hafter
    rw [held_of_closed hafter, Loan.earned_of_le hend]
    simp [Loan.remaining]
  · rw [decide_eq_true (not_le.mp hend)] at hafter
    rw [held_of_open hafter]
    by_cases hg : loan.guarantor = g
    · simp only [Loan.repay, Loan.remaining, hg, if_true]
      omega
    · simp only [Loan.repay, hg, if_false]

end Settlement

/-! ## Both sides of a move -/

/-- **Double entry.** What a move posts to the vault is what it changes on the loans. -/
theorem Moves.doubleEntry (h : s.Sound d tokens tok clock.timestamp) {call : Call}
    (hmoves : Moves d origin clock s s' call) : ∃ new, Posts new s.world.vault s'.world.vault ∧
      ∀ g, s'.held g =
        s.held g + moved .lock g new - moved .release g new - moved .forfeit g new := by
  have hledger := h.ledger
  have hconfig := hledger.accepted
  cases hmoves with
  | quiet hquiet hposts =>
      refine ⟨[], hposts, ?_⟩
      intro g
      simpa using held_same hquiet.loans hquiet.loanCount
  | deposit _ _ hsame hposts | withdraw _ _ hsame hposts =>
      refine ⟨_, hposts, ?_⟩
      intro g
      simpa using held_same (congrArg _ hsame) (congrArg _ hsame)
  | @originate _ _ _ _ _ _ loan hchecks hpos hopen hposts =>
      refine ⟨_, hposts, ?_⟩
      intro g
      have hopened := hchecks.opened hpos
      rw [held_open (hchecks.opens ▸ rfl) hopen,
        held_of_open (Loan.isOpen_iff.mpr (.inl hopened.status)), Loan.remaining, hopened.released]
      simp
  | @reassign _ partner _ loan _ hfound hopen hrecord hposts =>
      refine ⟨_, hposts, ?_⟩
      intro g
      have hsame : held g (some { loan with partner }) = held g (some loan) := rfl
      rw [held_record hledger hfound hrecord rfl, hsame]
      simp
  | @attest _ _ _ amount loan hchecks hrecord hposts =>
      refine ⟨_, hposts, ?_⟩
      intro g
      have hsound := hledger.loans _ _ hchecks.found
      have hreturned := earned_sub_nonneg hconfig hsound hchecks.isOpen hchecks.pos
      rw [held_record hledger hchecks.found hrecord rfl, held_repay hchecks.isOpen,
        held_of_open hchecks.isOpen]
      simp only [moved_returned _ _ hreturned, reduceCtorEq, false_and, if_false, true_and]
      split <;> omega
  | @flag _ _ loan _ _ hfound hstatus hlate hrecord hposts =>
      -- a loan in grace is as open as before
      refine ⟨_, hposts, ?_⟩
      intro g
      have hopen : loan.isOpen = true := Loan.isOpen_iff.mpr (.inl hstatus)
      have hopen' : (loan.flag d.config clock.timestamp).isOpen = true :=
        Loan.isOpen_iff.mpr (.inr rfl)
      have hsame : held g (some (loan.flag d.config clock.timestamp)) = held g (some loan) := by
        rw [held_of_open hopen', held_of_open hopen]
        rfl
      rw [held_record hledger hfound hrecord rfl, hsame]
      simp
  | @settle _ _ loan _ _ hfound hstatus hexpired hrecord hposts =>
      refine ⟨_, hposts, ?_⟩
      intro g
      have hsound := hledger.loans _ _ hfound
      have hforfeit := forfeitable_nonneg hconfig hsound
      have hrest := forfeitable_le loan
      have hopen : loan.isOpen = true := Loan.isOpen_iff.mpr (.inr hstatus)
      have hclosed : loan.default.isOpen = false := rfl
      rw [held_record hledger hfound hrecord rfl, held_of_open hopen, held_of_closed hclosed]
      simp only [settlement, GuarantorVault.moved_append, moved_returned _ _ (sub_nonneg.mpr hrest),
        moved_seized _ _ hforfeit, reduceCtorEq, false_and, if_false, true_and]
      split <;> omega

/-! ## The accounts agree -/

/-- What the vault has locked of each guarantor is what the loans hold. -/
def System.Balanced (s : System T) : Prop := ∀ g, s.world.vault.lockedAmount g = s.held g

/-- A move keeps the accounts in agreement. -/
theorem System.Balanced.step (hbalanced : s.Balanced) (h : s.Sound d tokens tok clock.timestamp)
    {call : Call} (hmoves : Moves d origin clock s s' call) : s'.Balanced := by
  intro g
  obtain ⟨new, hposts, hheld⟩ := hmoves.doubleEntry h
  rw [hposts.locked, hheld, hbalanced g]

/-- The accounts agree in every reachable state. -/
theorem System.Balanced.of_reachable {s : Timed (System T)}
    (h : (machine d tokens tok).Reachable s) : s.state.Balanced := by
  obtain ⟨history, hrun⟩ := h
  induction hrun with
  | start initial =>
      obtain ⟨script, token, htok, hdeploy⟩ := initial
      obtain ⟨-, hloans, hzero, -⟩ := deploy_cases 0 htok hdeploy
      intro g
      rw [(hzero g).2, System.held]
      refine (Finset.sum_eq_zero fun id _ => ?_).symm
      rw [System.loans, hloans]
      rfl
  | @step history s s' input run step ih =>
      cases step with
      | tick => exact ih
      | @call clock s s' input acts =>
          have hsound := System.Sound.of_reachable run.reachable
          cases input with
          | call origin call => exact ih.step hsound (exec_moves hsound acts.1 acts.2.1).1
          | moveTokens token =>
              obtain ⟨-, rfl⟩ := acts
              exact ih

/-- **Accounting.** In every reachable state of the wired system the vault has locked, of each
guarantor, exactly what its open loans have not released; the loans are those numbered up to the
loan count; and every closed loan has released all of its collateral. -/
theorem locked_eq_sum_held {s : Timed (System T)} (h : (machine d tokens tok).Reachable s) :
    (∀ g, s.state.world.vault.lockedAmount g =
      ∑ id ∈ Finset.Icc 1 (LoanLedger.getLoanCount s.state.ledger), held g (s.state.loans id)) ∧
    (∀ id loan, s.state.loans id = some loan →
      1 ≤ id ∧ id ≤ LoanLedger.getLoanCount s.state.ledger) ∧
    (∀ id loan, s.state.loans id = some loan → loan.status = .repaid ∨ loan.status = .defaulted →
      loan.collateralReleased = loan.collateralLocked) := by
  have hledger := (System.Sound.of_reachable h).ledger
  refine ⟨System.Balanced.of_reachable h, hledger.counted, ?_⟩
  intro id loan hloan hclosed
  refine (hledger.loans id loan hloan).released_closed ?_
  rcases hclosed with hstatus | hstatus <;> simp [Loan.isOpen, hstatus]

/-- A loan of 120 against 180 of collateral, of which 30 are repaid: the 42 earned back are no
longer locked. -/
theorem locked_eq_sum_held_partlyRepaid : ∃ history s, sampleMachine.Run history s ∧
    s.state.world.vault.lockedAmount ⟨4⟩ = 138 ∧
    ∑ id ∈ Finset.Icc 1 (LoanLedger.getLoanCount s.state.ledger),
      held ⟨4⟩ (s.state.loans id) = 138 := by
  obtain ⟨history, s, hrun, hlocked⟩ := exists_run_of_playLoan
    (P := fun _ s => s.state.world.vault.lockedAmount ⟨4⟩ = 138)
    (show (playLoan [(86400, .ledger (.attestRepayment ⟨5⟩ ⟨6⟩ 1 30))]).any _ = true by
      decide +kernel)
  have hsum := (locked_eq_sum_held hrun.reachable).1 ⟨4⟩
  exact ⟨history, s, hrun, hlocked, hsum.symm.trans hlocked⟩

end RemitCollateral.Protocol
