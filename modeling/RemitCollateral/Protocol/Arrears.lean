import RemitCollateral.Arithmetic.Amortization
import RemitCollateral.Protocol.Replay

/-! # Arrears

The ledger keeps the installments a loan has paid and the due date of the next one, and updates both
as payments come in. What they stand for is a table: the principal falls due in equal steps, and the
loan is behind when less has been repaid than has fallen due. The difference is what it takes to
bring it up to date, and nothing less does. -/

namespace RemitCollateral.LoanLedger

open Soroban

namespace Loan

/-- The table by which a loan falls due. -/
structure Amortizes (loan : Loan) (a : Amortization) : Prop where
  principal : a.principal = loan.principalUsd
  count : a.count = loan.installmentCount
  start : a.start = loan.originatedAt
  interval : a.interval = loan.intervalSecs

/-- Every loan has one. -/
theorem Wf.amortizes {loan : Loan} (h : loan.Wf) : ∃ a, loan.Amortizes a :=
  ⟨{ principal := loan.principalUsd
     count := loan.installmentCount
     start := loan.originatedAt
     interval := loan.intervalSecs
     principal_pos := h.principal_pos
     count_pos := h.count_pos }, ⟨rfl, rfl, rfl, rfl⟩⟩

variable {config : Config} {now : ℕ} {loan loan' : Loan} {a : Amortization} {amount : ℤ}

section Amortizes

variable (h : loan.Amortizes a)
include h

theorem Amortizes.dueDate (k : ℕ) : a.dueDate k = loan.dueDate k := by
  rw [Amortization.dueDate, h.start, h.interval, Loan.dueDate]

theorem Amortizes.covered (total : ℤ) : a.covered total = loan.covered total := by
  rw [Amortization.covered, h.count, h.principal, Loan.covered]

theorem Amortizes.sameTerms (hsame : SameTerms loan loan') : loan'.Amortizes a where
  principal := h.principal.trans hsame.principalUsd.symm
  count := h.count.trans hsame.installmentCount.symm
  start := h.start.trans hsame.originatedAt.symm
  interval := h.interval.trans hsame.intervalSecs.symm

/-- Short of the principal, a total is behind when the date that follows from it is past. -/
theorem Amortizes.lt_owed_iff {total : ℤ} (h0 : 0 ≤ total) (hlt : total < loan.principalUsd) :
    total < a.owed now ↔ loan.dueAfter total < now := by
  rw [Amortization.lt_owed_iff h0 (h.principal ▸ hlt), h.covered, h.dueDate, Loan.dueAfter]

/-- The next due date is past exactly while there are arrears. -/
theorem Amortizes.behind_iff (hsound : loan.Sound config now) (hopen : loan.isOpen = true) :
    loan.nextDue < now ↔ 0 < a.arrears now loan.totalRepaidUsd := by
  rw [Amortization.arrears_pos_iff,
    h.lt_owed_iff hsound.repaid_nonneg (hsound.lt_of_open hopen),
    hsound.nextDue_of_open hopen, hsound.paid, Loan.dueAfter]

/-- Arrears can be paid without overpaying. -/
theorem Amortizes.arrears_le (hsound : loan.Sound config now) (hopen : loan.isOpen = true) :
    a.arrears now loan.totalRepaidUsd ≤ loan.outstanding := by
  have hlt := hsound.lt_of_open hopen
  rw [outstanding, ← h.principal]
  exact Amortization.arrears_le (h.principal ▸ le_of_lt hlt)

end Amortizes

/-- What a payment makes of a loan with these arrears. -/
inductive Settles (arrears amount : ℤ) (loan loan' : Loan) : Prop
  /-- All that was left was paid. -/
  | closes (all : amount = loan.outstanding) (status : loan'.status = .repaid)
  /-- The arrears were paid, and the loan is up to date. -/
  | cures (part : amount < loan.outstanding) (enough : arrears ≤ amount)
      (status : loan'.status = .active) (deadline : loan'.graceExpiresAt = 0)
  /-- Less was paid, which stops nothing. -/
  | fallsShort (short : amount < arrears) (status : loan'.status = loan.status)
      (deadline : loan'.graceExpiresAt = loan.graceExpiresAt)

/-- A payment that leaves the loan behind leaves it in its grace period. -/
theorem repay_of_late (config : Config) (hopen : ¬ loan.principalUsd ≤ loan.totalRepaidUsd + amount)
    (hlate : ¬ now ≤ loan.dueAfter (loan.totalRepaidUsd + amount)) :
    (loan.repay config now amount).status = loan.status ∧
      (loan.repay config now amount).graceExpiresAt = loan.graceExpiresAt := by
  simp only [Loan.repay, hopen, hlate, if_false, or_self, and_self]

/-- A payment is measured by the arrears. -/
theorem Amortizes.settles (h : loan.Amortizes a) (hsound : loan.Sound config now)
    (hpos : 0 < amount) (hle : loan.totalRepaidUsd + amount ≤ loan.principalUsd) :
    Settles (a.arrears now loan.totalRepaidUsd) amount loan (loan.repay config now amount) := by
  have h0 := hsound.repaid_nonneg
  by_cases hall : loan.principalUsd ≤ loan.totalRepaidUsd + amount
  · refine .closes ?_ ?_
    · rw [outstanding]
      omega
    · simp only [Loan.repay, if_pos hall]
  · have hpart : loan.totalRepaidUsd + amount < loan.principalUsd := not_le.mp hall
    have hcured : a.arrears now loan.totalRepaidUsd ≤ amount ↔
        now ≤ loan.dueAfter (loan.totalRepaidUsd + amount) := by
      rw [← Amortization.owed_le_pay_iff hpos, ← not_lt, h.lt_owed_iff (by omega) hpart, not_lt]
    by_cases hdue : now ≤ loan.dueAfter (loan.totalRepaidUsd + amount)
    · refine .cures ?_ (hcured.mpr hdue) ?_ ?_
      · rw [outstanding]
        omega
      · simp only [Loan.repay, if_neg hall, if_pos hdue]
      · simp only [Loan.repay, hdue, or_true, if_true]
    · obtain ⟨hstatus, hdeadline⟩ := repay_of_late config hall hdue
      refine .fallsShort ?_ hstatus hdeadline
      rw [← not_le, hcured]
      exact hdue

end Loan

end RemitCollateral.LoanLedger

namespace RemitCollateral.Protocol

open Soroban
open LoanLedger (Loan)

variable {T : Type} {d : Deployment} {tokens : Address → GuarantorVault.TokenClient T}
  {tok : GuarantorVault.StandardToken T}

/-- **Arrears.** At every moment of every run of the wired system: an open loan's next due date is
past exactly while it has arrears by its table, a loan in grace has some, they are never more than
what is left of the loan, and `is_overdue` tells of them. And every repayment made on the way was
measured by the arrears of its moment: it took its amount off them, it brought the loan up to date
when it reached them, and stopped no grace period otherwise. -/
theorem arrears_measure {history : List (Transition (System T) (Input T))} {s : Timed (System T)}
    (hrun : (machine d tokens tok).Run history s) :
    (∀ id loan, s.state.loans id = some loan → loan.isOpen = true → ∃ a, loan.Amortizes a ∧
      (loan.nextDue < s.now ↔ 0 < a.arrears s.now loan.totalRepaidUsd) ∧
      (loan.status = .grace → 0 < a.arrears s.now loan.totalRepaidUsd) ∧
      a.arrears s.now loan.totalRepaidUsd ≤ loan.outstanding ∧
      ∀ origin, ∃ l', LoanLedger.isOverdue (Origin.env origin s.clock d.ledger) id s.state.ledger =
        .ok (decide (loan.status = .active ∧ 0 < a.arrears s.now loan.totalRepaidUsd), l')) ∧
    ∀ t ∈ history, ∀ origin partner verifier id amount,
      t.call = some (.call origin (.ledger (.attestRepayment partner verifier id amount))) →
        ∃ loan loan' a, t.pre.state.loans id = some loan ∧ t.post.state.loans id = some loan' ∧
          loan.Amortizes a ∧ loan'.Amortizes a ∧
          a.arrears t.pre.now loan'.totalRepaidUsd =
            max 0 (a.arrears t.pre.now loan.totalRepaidUsd - amount) ∧
          loan.Settles (a.arrears t.pre.now loan.totalRepaidUsd) amount loan' := by
  refine ⟨?_, ?_⟩
  · intro id loan hloan hopen
    have hsound := (System.Sound.of_reachable hrun.reachable).ledger.loans id loan hloan
    obtain ⟨a, ha⟩ := hsound.wf.amortizes
    have hbehind := ha.behind_iff hsound hopen
    refine ⟨a, ha, hbehind, ?_, ha.arrears_le hsound hopen, ?_⟩
    · intro hgrace
      exact hbehind.mp (hsound.behind (.inl hgrace))
    · intro origin
      refine ⟨_, LoanLedger.isOverdue_eq_ok.mpr ⟨loan, hloan, ?_, rfl⟩⟩
      rw [decide_eq_decide, ← hbehind]
      exact Iff.rfl
  · intro t hmem origin partner verifier id amount hcall
    obtain ⟨hreach, hstep⟩ := hrun.step_of_mem hmem
    obtain ⟨pre, input, post⟩ := t
    obtain rfl : input = _ := hcall
    cases hstep with
    | @call clock state state' _ acts =>
        have hlives := call_lives (.of_reachable hreach) acts.1 acts.2.1 id
        have hsound := System.Sound.of_reachable hreach
        rw [Input.loanEvent, Call.loanEvent, Option.bind_some, if_pos rfl] at hlives
        obtain ⟨-, hhappens, happly⟩ := hlives
        cases hloan : state.loans id with
        | none =>
            rw [hloan] at hhappens
            exact hhappens.elim
        | some loan =>
            rw [hloan] at hhappens happly
            obtain ⟨hopen, hpos, hle⟩ := hhappens
            have hloanSound := hsound.ledger.loans id loan hloan
            obtain ⟨a, ha⟩ := hloanSound.wf.amortizes
            have hsame : Loan.SameTerms loan (loan.repay d.config clock.timestamp amount) :=
              (Loan.Step.repay amount hopen hpos hle).sameTerms
            refine ⟨loan, loan.repay d.config clock.timestamp amount, a, rfl, happly.symm, ha,
              ha.sameTerms hsame, ?_, ha.settles hloanSound hpos hle⟩
            exact Amortization.arrears_pay (le_of_lt hpos)

/-- A loan of 120 in three daily installments is flagged after its first due date. Its arrears are
40: a payment of 30 leaves it in grace, and one of 10 brings it up to date. -/
theorem arrears_measure_cured : ∃ history s t loan loan' a, sampleMachine.Run history s ∧
    t ∈ history ∧ t.pre.state.loans 1 = some loan ∧ t.post.state.loans 1 = some loan' ∧
    loan.status = .grace ∧ loan'.status = .active ∧ loan.Amortizes a ∧
    a.arrears t.pre.now loan.totalRepaidUsd ≤ 10 := by
  let repayment : LoanLedger.Call := .attestRepayment ⟨5⟩ ⟨6⟩ 1 10
  obtain ⟨history, s, hrun, hlast, hgrace⟩ := exists_run_of_playLoan
    (P := fun history _ => (history.head?.bind fun t => t.call.bind Input.onLedger) =
        some repayment ∧ (history.head?.any fun t =>
          (t.pre.state.loans 1).any (fun loan => loan.status = .grace) &&
          (t.post.state.loans 1).any (fun loan => loan.status = .active)) = true)
    (show (playLoan [(86401, .engine (.flagOverdue 1)),
      (86402, .ledger (.attestRepayment ⟨5⟩ ⟨6⟩ 1 30)),
      (86403, .ledger repayment)]).any _ = true by decide +kernel)
  obtain ⟨t, hhead, hcall⟩ := Option.bind_eq_some_iff.mp hlast
  obtain ⟨input, hinput, hledger⟩ := Option.bind_eq_some_iff.mp hcall
  obtain ⟨origin, rfl⟩ := onLedger_eq_some.mp hledger
  have hmem : t ∈ history := List.mem_of_mem_head? hhead
  obtain ⟨-, hmeasured⟩ := arrears_measure hrun
  obtain ⟨loan, loan', a, hloan, hloan', ha, -, -, hsettles⟩ :=
    hmeasured t hmem origin ⟨5⟩ ⟨6⟩ 1 10 hinput
  rw [hhead, Option.any_some, hloan, hloan', Option.any_some, Option.any_some, Bool.and_eq_true,
    decide_eq_true_iff, decide_eq_true_iff] at hgrace
  obtain ⟨hbefore, hafter⟩ := hgrace
  refine ⟨history, s, t, loan, loan', a, hrun, hmem, hloan, hloan', hbefore, hafter, ha, ?_⟩
  cases hsettles with
  | closes _ hstatus =>
      rw [hstatus] at hafter
      cases hafter
  | cures _ henough => exact henough
  | fallsShort _ hstatus =>
      rw [hstatus, hbefore] at hafter
      cases hafter

end RemitCollateral.Protocol
