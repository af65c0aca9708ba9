import RemitCollateral.Protocol.Arrears
import RemitCollateral.Protocol.Authority
import RemitCollateral.Protocol.Maturity

/-! # Delinquent loans

A loan that is behind cannot stay so while somebody pokes it. Two pokes a grace period apart settle
it, unless a repayment between them clears all that had fallen due by then. -/

namespace RemitCollateral.LoanLedger

open Soroban

variable {σ ι : Type} {M : Machine σ ι} {config : Config} {book : σ → LoanBook}

/-- A transition that brings a loan up to date: it was in grace, and afterwards nothing that has
fallen due is unpaid. -/
def Cures (book : σ → LoanBook) (id : ℕ) (t : Transition σ ι) : Prop :=
  ∃ loan loan' a, book t.pre.state id = some loan ∧ book t.post.state id = some loan' ∧
    loan.Amortizes a ∧ loan.status = .grace ∧ loan'.status = .active ∧
    0 < a.arrears t.pre.now loan.totalRepaidUsd ∧ a.arrears t.post.now loan'.totalRepaidUsd = 0

/-- A cornered loan stays so until it is brought up to date. -/
theorem Books.cornered_step (h : Books M config book) {s s' : Timed σ} {input : Option ι}
    {id deadline : ℕ} (hreach : M.Reachable s) (hstep : M.Step s input s')
    (hcornered : Cornered book id deadline s) :
    Cornered book id deadline s' ∨ Cures book id ⟨s, input, s'⟩ := by
  obtain ⟨history, hrun⟩ := hreach
  obtain ⟨loan, hloan, hcases⟩ := hcornered
  obtain ⟨loan', hloan', hmove⟩ := h.persists hrun hstep hloan
  have hconfig := h.accepted_of_run hrun
  have hsound := h.sound hrun hloan
  cases hopen : loan.isOpen with
  | false =>
      -- a closed loan stays closed
      left
      refine ⟨loan', hloan', ?_⟩
      rw [hmove.eq_of_closed hopen, hopen]
      intro hopen'
      cases hopen'
  | true =>
      obtain ⟨hgrace, hdeadline⟩ := hcases hopen
      by_cases hactive : loan'.status = .active
      · right
        obtain ⟨a, ha⟩ := hsound.wf.amortizes
        have ha' := ha.sameTerms hmove.sameTerms
        have hopen' : loan'.isOpen = true := Loan.isOpen_iff.mpr (.inl hactive)
        have hsound' : loan'.Sound config s.now := hsound.step hconfig hmove
        -- it left grace by a call, and the clock stood still
        have hnow : s'.now = s.now := by
          cases hstep with
          | call => rfl
          | tick =>
              obtain rfl := Option.some.inj (hloan.symm.trans hloan')
              rw [hgrace] at hactive
              cases hactive
        have hbehind := (ha.behind_iff hsound hopen).mp (hsound.behind (.inl hgrace))
        have hcurrent : ¬ 0 < a.arrears s.now loan'.totalRepaidUsd := by
          rw [← ha'.behind_iff hsound' hopen', not_lt]
          exact hmove.current hgrace hactive
        refine ⟨loan, loan', a, hloan, hloan', ha, hgrace, hactive, hbehind, ?_⟩
        rw [hnow]
        exact le_antisymm (not_lt.mp hcurrent) Amortization.arrears_nonneg
      · left
        refine ⟨loan', hloan', ?_⟩
        intro hopen'
        have hgrace' : loan'.status = .grace := (Loan.isOpen_iff.mp hopen').resolve_left hactive
        rcases hmove.grace_cases hgrace' with ⟨-, hkeeps⟩ | ⟨hwas, -⟩
        · exact ⟨hgrace', hkeeps ▸ hdeadline⟩
        · rw [hgrace] at hwas
          cases hwas

end RemitCollateral.LoanLedger

namespace RemitCollateral.Protocol

open Soroban
open LoanLedger (Loan Cornered Cures)

variable {T : Type} {d : Deployment} {tokens : Address → GuarantorVault.TokenClient T}
  {tok : GuarantorVault.StandardToken T}

/-- A transition whose call attests a repayment of a loan. -/
def Repays (id : ℕ) (t : Transition (System T) (Input T)) : Prop :=
  ∃ origin partner verifier amountUsd,
    t.call = some (.call origin (.ledger (.attestRepayment partner verifier id amountUsd)))

/-- Only a repayment takes a loan out of grace and leaves it open. -/
theorem repays_of_active {s s' : Timed (System T)} {input : Option (Input T)}
    (hreach : (machine d tokens tok).Reachable s) (hstep : (machine d tokens tok).Step s input s')
    {id : ℕ} {loan loan' : Loan} (hloan : s.state.loans id = some loan)
    (hloan' : s'.state.loans id = some loan') (hgrace : loan.status = .grace)
    (hactive : loan'.status = .active) : Repays id ⟨s, input, s'⟩ := by
  have hsame : s'.state.loans id ≠ s.state.loans id := by
    intro heq
    rw [hloan, hloan', Option.some.injEq] at heq
    rw [heq, hgrace] at hactive
    cases hactive
  cases hstep with
  | tick => exact absurd rfl hsame
  | @call clock state state' input acts =>
      cases input with
      | moveTokens token =>
          obtain ⟨-, rfl⟩ := acts
          exact absurd rfl hsame
      | call origin call =>
          have hsound := System.Sound.of_reachable hreach
          have hmoves := (exec_moves hsound acts.1 acts.2.1).1
          rcases hmoves.handles hsound hloan' with horiginates | ⟨before, hbefore, hhandles⟩
          · rw [horiginates.fresh] at hloan
            cases hloan
          · obtain rfl : before = loan := Option.some.inj (hbefore.symm.trans hloan)
            cases hhandles with
            | leaves | reassigns =>
                rw [hgrace] at hactive
                cases hactive
            | attests hattests =>
                obtain ⟨verifier, rfl, -⟩ := hattests.call_eq
                exact ⟨origin, _, verifier, _, rfl⟩
            | flags hflags =>
                rw [hflags.active] at hgrace
                cases hgrace
            | settles => cases hactive

/-- **Delinquency.** In every run of the wired system, whatever calls of anyone it is made of: if a
loan that has arrears is poked twice while the engine runs, the second time more than a grace period
after the first, then it is closed for good, in default or repaid, unless a repayment in between,
and nothing else, took it out of grace and cleared all the arrears of its moment. -/
theorem delinquent_loan_settles {newer between older : List (Transition (System T) (Input T))}
    {t t' : Transition (System T) (Input T)} {s : Timed (System T)}
    (hrun : (machine d tokens tok).Run (newer ++ t' :: (between ++ t :: older)) s) {id : ℕ}
    {loan : Loan} {a : Amortization} (hloan : t.pre.state.loans id = some loan)
    (ha : loan.Amortizes a) (hbehind : 0 < a.arrears t.pre.now loan.totalRepaidUsd)
    (hpoke : pokesLive id t = true) (hpoke' : pokesLive id t' = true)
    (hlater : t.pre.now + d.config.gracePeriodSecs < t'.pre.now) :
    (∃ loan', t'.post.state.loans id = some loan' ∧ s.state.loans id = some loan' ∧
      (loan'.status = .repaid ∨ loan'.status = .defaulted)) ∨
    ∃ u ∈ between, Repays id u ∧ Cures System.loans id u := by
  have hbooks := machine_books d tokens tok
  -- the run up to the second poke
  have hbefore : (machine d tokens tok).Run (between ++ t :: older) t'.pre := by
    have hsplit := hrun.split
    cases hsplit with
    | step run => exact run
  have hreach : (machine d tokens tok).Reachable t.pre :=
    (hbefore.step_of_mem (List.mem_append_right _ List.mem_cons_self)).1
  have hsound := (System.Sound.of_reachable hreach).ledger.loans id loan hloan
  have hcornered : Cornered System.loans id (t.pre.now + d.config.gracePeriodSecs) t.post :=
    corners_of_pokesLive hpoke hbefore hloan fun hopen => (ha.behind_iff hsound hopen).mpr hbehind
  rcases hbefore.since_or hcornered with hstill | ⟨u, hmem, hwas, hends⟩
  · obtain ⟨loan', hloan', hclosed⟩ := closes_of_pokesLive hpoke' hrun hstill hlater
    have hend := hrun.since (P := fun s => s.state.loans id = some loan' ∧ loan'.isOpen = false)
      hbooks.closed_step ⟨hloan', hclosed⟩
    exact .inl ⟨loan', hloan', hend.1, Loan.isOpen_eq_false_iff.mp hclosed⟩
  · obtain ⟨hreach', hstep⟩ := hbefore.step_of_mem (List.mem_append_left _ hmem)
    rcases hbooks.cornered_step hreach' hstep hwas with hkept | hcures
    · exact absurd hkept hends
    · have hcured := hcures
      obtain ⟨loan₁, loan₂, -, hloan₁, hloan₂, -, hgrace, hactive, -⟩ := hcured
      exact .inr ⟨u, hmem, repays_of_active hreach' hstep hloan₁ hloan₂ hgrace hactive, hcures⟩

/-- A loan of 120 in three daily installments is poked when its first 40 are overdue, repaid by 30,
and poked again after a grace period: it is in default. -/
theorem delinquent_loan_settles_shortPaid : ∃ history s loan, sampleMachine.Run history s ∧
    s.state.loans 1 = some loan ∧ (loan.status = .repaid ∨ loan.status = .defaulted) := by
  obtain ⟨history, s, hrun, hshape⟩ := exists_run_of_playLoan
    (P := fun history _ => (match history with
      | t' :: b₁ :: b₂ :: b₃ :: t :: _ => pokesLive 1 t' && pokesLive 1 t &&
          (t.pre.state.loans 1).any (fun loan => loan.isOpen = true ∧ loan.nextDue < t.pre.now) &&
          decide (t.pre.now + sample.config.gracePeriodSecs < t'.pre.now) &&
          [b₁, b₂, b₃].all fun u => (u.post.state.loans 1).all (fun loan => loan.status ≠ .active)
      | _ => false) = true)
    (show (playLoan [(100000, .engine (.poke 1)),
      (100001, .ledger (.attestRepayment ⟨5⟩ ⟨6⟩ 1 30)),
      (1309601, .engine (.poke 1))]).any _ = true by decide +kernel)
  split at hshape
  · rename_i t' b₁ b₂ b₃ t older
    simp only [Bool.and_eq_true, decide_eq_true_eq] at hshape
    obtain ⟨⟨⟨⟨hpoke', hpoke⟩, hloan⟩, hlater⟩, hnone⟩ := hshape
    obtain ⟨loan, hfound, hchecked⟩ := Option.any_eq_true _ _ |>.mp hloan
    obtain ⟨hopen, hlate⟩ := of_decide_eq_true hchecked
    have hsplit : sampleMachine.Run ([] ++ t' :: ([b₁, b₂, b₃] ++ t :: older)) s := hrun
    have hmem : t ∈ t' :: ([b₁, b₂, b₃] ++ t :: older) := by simp
    have hreach := (hrun.step_of_mem hmem).1
    have hsound := (System.Sound.of_reachable hreach).ledger.loans 1 loan hfound
    obtain ⟨a, ha⟩ := hsound.wf.amortizes
    rcases delinquent_loan_settles hsplit hfound ha ((ha.behind_iff hsound hopen).mp hlate) hpoke
      hpoke' hlater with ⟨loan', -, hloan', hclosed⟩ | ⟨u, hbetween, -, hcures⟩
    · exact ⟨_, s, loan', hrun, hloan', hclosed⟩
    · obtain ⟨-, loan', -, -, hloan', -, -, hactive, -⟩ := hcures
      have hcheck := List.all_eq_true.mp hnone u hbetween
      have hstatus : (u.post.state.loans 1).all (fun loan => loan.status ≠ .active) = true := hcheck
      have hloan'' : u.post.state.loans 1 = some loan' := hloan'
      rw [hloan'', Option.all_some, decide_eq_true_iff] at hstatus
      exact absurd hactive hstatus
  · cases hshape

end RemitCollateral.Protocol
