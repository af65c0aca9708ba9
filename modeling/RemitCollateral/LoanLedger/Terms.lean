import RemitCollateral.LoanLedger.Runs

/-! # Terms, progress and closing

What the record of a loan goes through between its origination and the end of a run. Every write of
the ledger replaces the whole record, so each of its fields is accounted for: the terms are fixed,
progress is never taken back, and a closed loan is left alone. -/

namespace RemitCollateral.LoanLedger

open Soroban

/-- The status a loan may have after one step, by the status it had before. -/
inductive LoanStatus.Follows : LoanStatus → LoanStatus → Prop
  | same (status : LoanStatus) : Follows status status
  | overdue : Follows .active .grace
  | caughtUp : Follows .grace .active
  | repaid : Follows .active .repaid
  | repaidLate : Follows .grace .repaid
  | lapsed : Follows .grace .defaulted

namespace Loan

/-- A later record of a loan: its terms are the same, its progress is no less, and if it was closed
nothing has changed. -/
structure Advances (loan loan' : Loan) : Prop where
  terms : SameTerms loan loan'
  repaid_le : loan.totalRepaidUsd ≤ loan'.totalRepaidUsd
  paid_le : loan.installmentsPaid ≤ loan'.installmentsPaid
  released_le : loan.collateralReleased ≤ loan'.collateralReleased
  nextDue_le : loan.nextDue ≤ loan'.nextDue
  closed : loan.isOpen = false → loan' = loan

theorem Advances.refl (loan : Loan) : Advances loan loan where
  terms := .refl loan
  repaid_le := le_refl _
  paid_le := le_refl _
  released_le := le_refl _
  nextDue_le := le_refl _
  closed _ := rfl

theorem Advances.trans {a b c : Loan} (h : Advances a b) (h' : Advances b c) : Advances a c where
  terms := h.terms.trans h'.terms
  repaid_le := le_trans h.repaid_le h'.repaid_le
  paid_le := le_trans h.paid_le h'.paid_le
  released_le := le_trans h.released_le h'.released_le
  nextDue_le := le_trans h.nextDue_le h'.nextDue_le
  closed hclosed := by
    -- the first record is closed, so it is the second, and the second is closed
    obtain rfl := h.closed hclosed
    exact h'.closed hclosed

section Invariant

variable {config : Config} {now : ℕ} {loan loan' : Loan}

theorem isOpen_eq_false_iff :
    loan.isOpen = false ↔ loan.status = .repaid ∨ loan.status = .defaulted := by
  cases h : loan.status <;> simp [isOpen, h]

/-- The principal is never repaid twice. -/
theorem Sound.repaid_le (h : Sound config now loan) : loan.totalRepaidUsd ≤ loan.principalUsd := by
  have := h.outstanding_nonneg
  unfold outstanding at this
  omega

/-- A loan is repaid exactly when nothing is owed. -/
theorem Sound.status_repaid_iff (h : Sound config now loan) :
    loan.status = .repaid ↔ loan.totalRepaidUsd = loan.principalUsd := by
  constructor
  · exact h.settled
  · intro htotal
    by_contra hne
    have := (h.unpaid hne).1
    omega

/-- No more is ever released than was locked. -/
theorem Sound.released_le (hconfig : config.Accepted) (h : Sound config now loan) :
    loan.collateralReleased ≤ loan.collateralLocked := by
  have := h.remaining_nonneg hconfig
  unfold remaining at this
  omega

/-- All of the collateral is released exactly when the loan is closed. -/
theorem Sound.released_eq_iff (hconfig : config.Accepted) (h : Sound config now loan) :
    loan.collateralReleased = loan.collateralLocked ↔
      loan.status = .repaid ∨ loan.status = .defaulted := by
  rw [← isOpen_eq_false_iff]
  constructor
  · intro hall
    by_contra hopen
    -- an open loan keeps something locked, however its shares were rounded
    have := h.remaining_pos hconfig (by simpa using hopen)
    unfold remaining at this
    omega
  · exact h.released_closed

/-- A move changes the status along one of the five edges, or not at all. -/
theorem Step.follows (hstep : Step config now loan loan') : loan.status.Follows loan'.status := by
  cases hstep with
  | stay => exact .same _
  | reassign partner hopen => exact .same _
  | flag hstatus hlate =>
      rw [hstatus]
      exact .overdue
  | default hstatus hexpired =>
      rw [hstatus]
      exact .lapsed
  | repay amount hopen hpos hle =>
      simp only [Loan.repay]
      -- a payment closes the loan, brings it up to date, or leaves its status
      rcases isOpen_iff.mp hopen with hstatus | hstatus
      · rw [hstatus]
        split
        · exact .repaid
        · split <;> exact .same _
      · rw [hstatus]
        split
        · exact .repaidLate
        · split
          · exact .caughtUp
          · exact .same _

/-- A move never takes back collateral that was released. -/
theorem Step.released_le (hconfig : config.Accepted) (h : Sound config now loan)
    (hstep : Step config now loan loan') : loan.collateralReleased ≤ loan'.collateralReleased := by
  cases hstep with
  | stay | reassign | flag => exact le_refl _
  | repay amount hopen hpos hle =>
      rw [h.released_open hopen]
      exact h.wf.earned_mono hconfig (by omega)
  | default hstatus hexpired => exact h.released_le hconfig

/-- A move never takes back principal that was repaid. -/
theorem Step.repaid_le (hstep : Step config now loan loan') :
    loan.totalRepaidUsd ≤ loan'.totalRepaidUsd := by
  cases hstep with
  | stay | reassign | flag | default => exact le_refl _
  | repay amount hopen hpos hle =>
      simp only [Loan.repay]
      omega

/-- Every move advances the record. -/
theorem Step.advances (hconfig : config.Accepted) (h : Sound config now loan)
    (hstep : Step config now loan loan') : Advances loan loan' where
  terms := hstep.sameTerms
  repaid_le := hstep.repaid_le
  paid_le := hstep.paid_le h
  released_le := hstep.released_le hconfig h
  nextDue_le := hstep.nextDue_le h
  closed := hstep.eq_of_closed

end Invariant

end Loan

/-! ## Over a run -/

namespace Books

variable {σ ι : Type} {M : Machine σ ι} {config : Config} {book : σ → LoanBook}
  (h : Books M config book)
include h

/-- Every transition of a run keeps the loans of the book and advances each of them. -/
theorem advances_of_mem {history : List (Transition σ ι)} {s : Timed σ} (hrun : M.Run history s)
    {t : Transition σ ι} (ht : t ∈ history) {id : ℕ} {before : Loan}
    (hbefore : book t.pre.state id = some before) :
    ∃ after, book t.post.state id = some after ∧ before.status.Follows after.status ∧
      before.Advances after := by
  obtain ⟨⟨older, run⟩, step⟩ := hrun.step_of_mem ht
  obtain ⟨after, hafter, hmove⟩ := h.persists run step hbefore
  exact ⟨after, hafter, hmove.follows,
    hmove.advances (h.accepted_of_run run) (h.sound run hbefore)⟩

/-- A loan advances from each of its records to every later one. -/
theorem advances {newer older : List (Transition σ ι)} {t : Transition σ ι} {s : Timed σ}
    (hrun : M.Run (newer ++ t :: older) s) {id : ℕ} {before : Loan}
    (hbefore : book t.post.state id = some before) :
    ∃ loan, book s.state id = some loan ∧ before.Advances loan := by
  -- by induction on the part of the run after `t`
  induction newer generalizing s with
  | nil =>
      cases hrun with
      | step => exact ⟨before, hbefore, .refl before⟩
  | cons last newer ih =>
      cases hrun with
      | step run step =>
          obtain ⟨middle, hmiddle, hadvanced⟩ := ih run
          obtain ⟨loan, hloan, hmove⟩ := h.persists run step hmiddle
          exact ⟨loan, hloan, hadvanced.trans
            (hmove.advances (h.accepted_of_run run) (h.sound run hmiddle))⟩

end Books

/-- **Life cycle and frozen terms.** In every run of the ledger a loan changes status along five
edges only and advances from each of its records to every later one; what it has repaid and released
stays within its principal and its collateral; it is repaid exactly when nothing is owed, and all of
its collateral is released exactly when it is closed. -/
theorem loan_frozen_terms {config : Config} {here : Address}
    {history : List (Transition State Input)} {s : Timed State}
    (hrun : (machine config here).Run history s) {id : ℕ} {loan : Loan}
    (hloan : s.state.loans id = some loan) :
    (∀ t ∈ history, ∀ before, t.pre.state.loans id = some before →
      ∃ after, t.post.state.loans id = some after ∧ before.status.Follows after.status ∧
        before.Advances after) ∧
    (∀ newer t older before, history = newer ++ t :: older →
      t.post.state.loans id = some before → before.Advances loan) ∧
    (0 < loan.collateralLocked ∧ 0 ≤ loan.collateralReleased ∧
      loan.collateralReleased ≤ loan.collateralLocked ∧ 0 ≤ loan.totalRepaidUsd ∧
      loan.totalRepaidUsd ≤ loan.principalUsd) ∧
    (loan.status = .repaid ↔ loan.totalRepaidUsd = loan.principalUsd) ∧
    (loan.collateralReleased = loan.collateralLocked ↔
      loan.status = .repaid ∨ loan.status = .defaulted) := by
  have hbooks := machine_books config here
  have hconfig := hbooks.accepted_of_run hrun
  have hsound := hbooks.sound hrun hloan
  refine ⟨fun t ht before hbefore => hbooks.advances_of_mem hrun ht hbefore, ?_,
    ⟨hsound.wf.collateral_pos, hsound.released_nonneg hconfig, hsound.released_le hconfig,
      hsound.repaid_nonneg, hsound.repaid_le⟩,
    hsound.status_repaid_iff, hsound.released_eq_iff hconfig⟩
  rintro newer t older before rfl hbefore
  obtain ⟨loan', hloan', hadvances⟩ := hbooks.advances hrun hbefore
  obtain rfl : loan' = loan := Option.some.inj (hloan'.symm.trans hloan)
  exact hadvances

/-- A loan that went into grace, came out of it and was repaid: it owes nothing, all of its
collateral is back, and it has advanced from each record it went through. -/
theorem loan_frozen_terms_repaid : ∃ history s loan, (machine deployConfig ⟨0⟩).Run history s ∧
    s.state.loans 1 = some loan ∧ loan.totalRepaidUsd = loan.principalUsd ∧
    loan.collateralReleased = loan.collateralLocked ∧
    ∀ newer t older before, history = newer ++ t :: older →
      t.post.state.loans 1 = some before → before.Advances loan := by
  obtain ⟨history, s, loan, hrun, hloan, hrepaid⟩ := exists_run_of_playLoan
    (P := fun _ _ loan => loan.status = .repaid)
    (show (playLoan 120 [(86401, .markGrace ⟨3⟩ 1), (86402, .attestRepayment ⟨5⟩ ⟨6⟩ 1 40),
      (86403, .attestRepayment ⟨5⟩ ⟨6⟩ 1 80)]).any _ = true by decide +kernel)
  obtain ⟨-, hadvances, -, hpaid, hreleased⟩ := loan_frozen_terms hrun hloan
  exact ⟨history, s, loan, hrun, hloan, hpaid.mp hrepaid, hreleased.mpr (.inl hrepaid), hadvances⟩

end RemitCollateral.LoanLedger
