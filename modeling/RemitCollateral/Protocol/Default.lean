import RemitCollateral.Protocol.Authority

/-! # No premature or wrongful default

Whatever the order of payments, cranks and the passing of time, a loan is in grace only while fewer
installments are covered than have fallen due, and defaults only after a whole grace period in which
it never caught up. A loan that is current cannot be liquidated by anyone. -/

namespace RemitCollateral.Protocol

open Soroban
open LoanLedger (Loan)

variable {T : Type} {d : Deployment} {tokens : Address → GuarantorVault.TokenClient T}
  {tok : GuarantorVault.StandardToken T} {origin : Origin} {clock : Clock} {s s' : System T}
  {call : Call} {id : ℕ} {loan loan' : Loan}

/-- Every installment that has fallen due is covered. -/
def Current (loan : Loan) (now : ℕ) : Prop := loan.fallenDue now ≤ loan.installmentsPaid

/-- An open loan past its next due date is not current. -/
theorem not_current_of_late {config : LoanLedger.Config} {now : ℕ} (h : loan.Sound config now)
    (hopen : loan.isOpen = true) (hlate : loan.nextDue < now) : ¬ Current loan now := by
  rw [h.nextDue_of_open hopen] at hlate
  exact not_le.mpr (Loan.lt_fallenDue (h.paid_lt_count hopen) hlate)

/-- No call takes a current loan into grace or default. -/
theorem Handles.of_current {config : LoanLedger.Config} (h : loan.Sound config clock.timestamp)
    (hhandles : Handles d origin clock s call id loan loan')
    (hcurrent : Current loan clock.timestamp) (hdefault : loan.status ≠ .defaulted) :
    loan'.status ≠ .grace ∧ loan'.status ≠ .defaulted := by
  have hgrace : loan.status ≠ .grace := by
    intro hgrace
    exact not_current_of_late h (Loan.isOpen_iff.mpr (.inr hgrace)) (h.behind (.inl hgrace))
      hcurrent
  cases hhandles with
  | leaves | reassigns => exact ⟨hgrace, hdefault⟩
  | attests hattests =>
      simp only [Loan.repay]
      split
      · simp
      · split
        · simp
        · exact ⟨hgrace, hdefault⟩
  | flags hflags =>
      exact absurd hcurrent
        (not_current_of_late h (Loan.isOpen_iff.mpr (.inl hflags.active)) hflags.late)
  | settles hliquidates => exact absurd hliquidates.grace hgrace

/-- **Default.** In every run of the wired system: a loan in grace is behind schedule and its
deadline counts from the flag that put it there; nothing that leaves it in grace moves that
deadline; the deadline is set in grace and default only; a defaulted loan was in grace, behind
schedule throughout, until its deadline had passed; and a current loan is not in grace, cannot be
liquidated, and no call takes it into grace or default. -/
theorem default_not_premature {history : List (Transition (System T) (Input T))}
    {s : Timed (System T)} (hrun : (machine d tokens tok).Run history s)
    (hloan : s.state.loans id = some loan) :
    (loan.status = .grace → loan.nextDue < s.now ∧ loan.installmentsPaid < loan.fallenDue s.now ∧
      LoanLedger.InGraceSince d.config System.loans id loan.graceExpiresAt history) ∧
    (∀ t ∈ history, ∀ before after, t.pre.state.loans id = some before →
      t.post.state.loans id = some after → before.status = .grace → after.status = .grace →
        after.graceExpiresAt = before.graceExpiresAt) ∧
    (loan.graceExpiresAt ≠ 0 ↔ loan.status = .grace ∨ loan.status = .defaulted) ∧
    (loan.status = .defaulted → LoanLedger.DefaultedAfterGrace d.config System.loans id history) ∧
    (Current loan s.now → loan.status ≠ .grace ∧
      (∀ origin, exec d tokens origin s.clock s.state (.engine (.liquidate id)) = none) ∧
      (loan.status ≠ .defaulted → ∀ origin call s' loan', d.External origin →
        exec d tokens origin s.clock s.state call = some s' → s'.loans id = some loan' →
          loan'.status ≠ .grace ∧ loan'.status ≠ .defaulted)) := by
  have hbooks := machine_books d tokens tok
  have hsystem := System.Sound.of_reachable hrun.reachable
  have hsound := hbooks.sound hrun hloan
  refine ⟨fun hgrace => ⟨hsound.behind (.inl hgrace), hsound.paid_lt_fallenDue hgrace,
      hbooks.grace_history hrun hloan hgrace⟩,
    fun t ht before after hbefore hafter hgrace hgrace' => ?_, hsound.graceExpires,
    hbooks.default_history hrun hloan, fun hcurrent => ⟨fun hgrace => ?_, fun origin => ?_, ?_⟩⟩
  · -- in grace before and after, so `t` did not flag it
    obtain ⟨⟨older, hpast⟩, hstep⟩ := hrun.step_of_mem ht
    rcases hbooks.step_cases hpast hstep hafter with ⟨hnone, -⟩ | ⟨loan₁, hloan₁, hmove⟩
    · simp [hnone] at hbefore
    · obtain rfl : before = loan₁ := Option.some.inj (hbefore.symm.trans hloan₁)
      rcases hmove.grace_cases hgrace' with ⟨-, hsame⟩ | ⟨hactive, -⟩
      · exact hsame
      · simp [hgrace] at hactive
  · exact not_current_of_late hsound (Loan.isOpen_iff.mpr (.inr hgrace))
      (hsound.behind (.inl hgrace)) hcurrent
  · -- a liquidation that went through would have found the loan in grace
    rw [Option.eq_none_iff_forall_ne_some]
    intro s' hok
    obtain ⟨⟨e', x'⟩, hexec, -⟩ := Option.map_eq_some_iff.mp hok
    obtain ⟨⟨r, result⟩, hliquidate, -⟩ := map_eq_ok.mp (outcome_eq_some.mp hexec)
    obtain ⟨-, loan₁, hloan₁, hgrace, -⟩ := hsystem.liquidates hliquidate
    obtain rfl : loan = loan₁ := Option.some.inj (hloan.symm.trans hloan₁)
    exact not_current_of_late hsound (Loan.isOpen_iff.mpr (.inr hgrace))
      (hsound.behind (.inl hgrace)) hcurrent
  · intro hdefault origin call s' loan' hexternal hok hloan'
    rcases (exec_moves hsystem hexternal hok).1.handles hsystem hloan' with
        horiginates | ⟨loan₁, hloan₁, hhandles⟩
    · simp [horiginates.opened.status]
    · obtain rfl : loan = loan₁ := Option.some.inj (hloan.symm.trans hloan₁)
      exact hhandles.of_current hsound hcurrent hdefault

/-- A loan flagged one second late, partly repaid without catching up, and liquidated one second
past its deadline went through a whole grace period. -/
theorem default_not_premature_liquidated : ∃ history s loan, sampleMachine.Run history s ∧
    s.state.loans 1 = some loan ∧ loan.status = .defaulted ∧
    LoanLedger.DefaultedAfterGrace sample.config System.loans 1 history := by
  obtain ⟨history, s, hrun, hchecked⟩ := exists_run_of_playLoan
    (P := fun _ s => (s.state.loans 1).any (fun loan => loan.status = .defaulted) = true)
    (show (playLoan [(86401, .engine (.flagOverdue 1)),
      (86402, .ledger (.attestRepayment ⟨5⟩ ⟨6⟩ 1 30)), (1296002, .engine (.liquidate 1))]).any _ =
        true by decide +kernel)
  obtain ⟨loan, hloan, hdefault⟩ := Option.any_eq_true _ _ |>.mp hchecked
  have hdefault := of_decide_eq_true hdefault
  exact ⟨history, s, loan, hrun, hloan, hdefault,
    (default_not_premature hrun hloan).2.2.2.1 hdefault⟩

end RemitCollateral.Protocol
