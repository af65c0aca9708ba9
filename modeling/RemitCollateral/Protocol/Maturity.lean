import RemitCollateral.LoanLedger.Terms
import RemitCollateral.Protocol.Exit

/-! # After maturity

Past the last due date of a loan, two pokes a grace period apart close it, whatever else happens
before, between and after them: repayments, other keepers, changes of partners and settings, pauses
that are over when the pokes are made. Its borrower can only repay it in full. -/

namespace RemitCollateral.LoanLedger

open Soroban

section Doomed

variable {σ ι : Type} {M : Machine σ ι} {config : Config} {book : σ → LoanBook}

/-- The loan is closed, or in grace until `deadline` at the latest. -/
def Cornered (book : σ → LoanBook) (id deadline : ℕ) (s : Timed σ) : Prop :=
  ∃ loan, book s.state id = some loan ∧
    (loan.isOpen = true → loan.status = .grace ∧ loan.graceExpiresAt ≤ deadline)

/-- The loan is closed, or past its last due date and in grace until `deadline` at the latest. -/
def Doomed (book : σ → LoanBook) (id deadline : ℕ) (s : Timed σ) : Prop :=
  ∃ loan, book s.state id = some loan ∧ (loan.isOpen = true →
    loan.status = .grace ∧ loan.graceExpiresAt ≤ deadline ∧
      loan.dueDate loan.installmentCount < s.now)

theorem Doomed.cornered {id deadline : ℕ} {s : Timed σ} (h : Doomed book id deadline s) :
    Cornered book id deadline s := by
  obtain ⟨loan, hloan, hcases⟩ := h
  refine ⟨loan, hloan, ?_⟩
  intro hopen
  obtain ⟨hgrace, hdeadline, -⟩ := hcases hopen
  exact ⟨hgrace, hdeadline⟩

/-- No step saves a doomed loan: short of full repayment, a payment after maturity leaves it in
grace, under the same deadline. -/
theorem Books.doomed_step (h : Books M config book) {s s' : Timed σ} {input : Option ι}
    {id deadline : ℕ} (hreach : M.Reachable s) (hstep : M.Step s input s')
    (hdoomed : Doomed book id deadline s) : Doomed book id deadline s' := by
  obtain ⟨history, hrun⟩ := hreach
  obtain ⟨loan, hloan, hcases⟩ := hdoomed
  obtain ⟨loan', hloan', hmove⟩ := h.persists hrun hstep hloan
  have hconfig := h.accepted_of_run hrun
  have hsound := h.sound hrun hloan
  have hsame := hmove.sameTerms
  refine ⟨loan', hloan', fun hopen' => ?_⟩
  cases hopen : loan.isOpen with
  | false =>
      rw [hmove.eq_of_closed hopen, hopen] at hopen'
      cases hopen'
  | true =>
      obtain ⟨hgrace, hdeadline, hmatured⟩ := hcases hopen
      have hactive := hmove.not_active hconfig hsound hgrace hmatured
      have hgrace' : loan'.status = .grace := (Loan.isOpen_iff.mp hopen').resolve_left hactive
      rcases hmove.grace_cases hgrace' with ⟨-, hkeeps⟩ | ⟨hwas, -⟩
      · refine ⟨hgrace', hkeeps ▸ hdeadline, ?_⟩
        rw [hsame.dueDate, hsame.installmentCount]
        exact lt_of_lt_of_le hmatured hstep.now_le
      · rw [hgrace] at hwas
        cases hwas

/-- A closed loan stays as it is. -/
theorem Books.closed_step (h : Books M config book) {s s' : Timed σ} {input : Option ι} {id : ℕ}
    {loan : Loan} (hreach : M.Reachable s) (hstep : M.Step s input s')
    (hloan : book s.state id = some loan ∧ loan.isOpen = false) :
    book s'.state id = some loan ∧ loan.isOpen = false := by
  obtain ⟨history, hrun⟩ := hreach
  obtain ⟨loan', hloan', hmove⟩ := h.persists hrun hstep hloan.1
  rw [hmove.eq_of_closed hloan.2] at hloan'
  exact ⟨hloan', hloan.2⟩

end Doomed

end RemitCollateral.LoanLedger

namespace RemitCollateral.Protocol

open Soroban
open LoanLedger (Loan Cornered Doomed)

variable {T : Type} {d : Deployment} {tokens : Address → GuarantorVault.TokenClient T}
  {tok : GuarantorVault.StandardToken T}

/-- A poke that goes through while the engine runs cranks its loan. -/
theorem poke_cranks {origin : Origin} {clock : Clock} {s s' : System T} {id : ℕ} {loan : Loan}
    (h : s.Settled d tokens tok clock) (hrunning : LiquidationEngine.paused s.engine = false)
    (hfound : s.loans id = some loan)
    (hok : exec d tokens origin clock s (.engine (.poke id)) = some s') :
    s'.loans id = some (cranked d.config clock.timestamp loan) := by
  have hcall := Operation.exec_call d tokens origin clock (.poke id) s
  rw [Operation.call, hok] at hcall
  obtain ⟨⟨value, s₁⟩, hrun, rfl⟩ := Option.map_eq_some_iff.mp hcall.symm
  obtain ⟨change, hplan⟩ := exists_plan h hrun
  have hchange : change = crank d.config clock.timestamp loan := by
    cases hplan with
    | flag crank _ found overdue _ =>
        rcases crank with ⟨hop, -⟩ | ⟨hop, -⟩
        · cases hop
        · cases hop
          obtain rfl := Option.some.inj (found.symm.trans hfound)
          exact (if_pos overdue).symm
    | settle crank _ found expired =>
        rcases crank with ⟨hop, -⟩ | ⟨hop, -⟩
        · cases hop
        · cases hop
          obtain rfl := Option.some.inj (found.symm.trans hfound)
          rw [Protocol.crank, if_neg fun hoverdue =>
            Loan.not_overdue_and_expired _ _ ⟨hoverdue, expired⟩, if_pos expired]
    | paused paused =>
        rw [hrunning] at paused
        cases paused
    | idle _ found overdue expired =>
        obtain rfl := Option.some.inj (found.symm.trans hfound)
        rw [crank, if_neg overdue, if_neg expired]
  rw [hchange] at hplan
  have hswept := (hplan.applies h hrun).1.swept h.1 hfound
  rw [hswept.loans, crankBook_of_some _ hfound, if_pos (Finset.mem_singleton_self id)]

/-- Whether a transition pokes a loan while the engine runs. -/
def pokesLive (id : ℕ) (t : Transition (System T) (Input T)) : Bool :=
  match t.call with
  | some (.call _ (.engine (.poke loanId))) =>
      loanId = id ∧ LiquidationEngine.paused t.pre.state.engine = false
  | _ => false

section Run

variable {newer older : List (Transition (System T) (Input T))}
  {t : Transition (System T) (Input T)} {s : Timed (System T)} {id : ℕ} {loan : Loan}

/-- What a poke in a run makes of its loan. -/
theorem cranks_of_pokesLive (h : pokesLive id t = true)
    (hrun : (machine d tokens tok).Run (newer ++ t :: older) s)
    (hloan : t.pre.state.loans id = some loan) :
    (machine d tokens tok).Reachable t.pre ∧ t.post.now = t.pre.now ∧
      t.post.state.loans id = some (cranked d.config t.pre.now loan) := by
  obtain ⟨hreach, hstep⟩ := hrun.step_of_mem (List.mem_append_right _ List.mem_cons_self)
  obtain ⟨pre, call, post⟩ := t
  unfold pokesLive at h
  split at h
  · rename_i hcall
    obtain ⟨rfl, hrunning⟩ := of_decide_eq_true h
    obtain rfl : call = _ := hcall
    cases hstep with
    | call acts =>
        exact ⟨hreach, rfl, poke_cranks (.of_reachable hreach) hrunning hloan acts.2.1⟩
  · cases h

/-- A poke of a loan that is behind leaves it in grace or closed. -/
theorem corners_of_pokesLive (h : pokesLive id t = true)
    (hrun : (machine d tokens tok).Run (newer ++ t :: older) s)
    (hloan : t.pre.state.loans id = some loan)
    (hbehind : loan.isOpen = true → loan.nextDue < t.pre.now) :
    Cornered System.loans id (t.pre.now + d.config.gracePeriodSecs) t.post := by
  obtain ⟨hreach, -, hcranked⟩ := cranks_of_pokesLive h hrun hloan
  refine ⟨_, hcranked, ?_⟩
  by_cases hoverdue : loan.Overdue t.pre.now
  · intro _
    rw [cranked, if_pos hoverdue]
    exact ⟨rfl, le_refl _⟩
  · by_cases hexpired : loan.GraceExpired t.pre.now
    · -- closed by this poke
      rw [cranked, if_neg hoverdue, if_pos hexpired]
      intro hopen'
      cases hopen'
    · rw [cranked, if_neg hoverdue, if_neg hexpired]
      intro hopen'
      have hgrace : loan.status = .grace :=
        (Loan.isOpen_iff.mp hopen').resolve_left fun hactive => hoverdue ⟨hactive, hbehind hopen'⟩
      exact ⟨hgrace, deadline_le hreach hloan hgrace⟩

/-- A poke after maturity dooms the loan. -/
theorem dooms_of_pokesLive (h : pokesLive id t = true)
    (hrun : (machine d tokens tok).Run (newer ++ t :: older) s)
    (hloan : t.pre.state.loans id = some loan)
    (hmatured : loan.dueDate loan.installmentCount < t.pre.now) :
    Doomed System.loans id (t.pre.now + d.config.gracePeriodSecs) t.post := by
  obtain ⟨hreach, hnow, hcranked⟩ := cranks_of_pokesLive h hrun hloan
  have hsound := (System.Sound.of_reachable hreach).ledger.loans id loan hloan
  obtain ⟨loan', hloan', hcases⟩ := corners_of_pokesLive h hrun hloan
    fun hopen => lt_of_le_of_lt (hsound.nextDue_le hopen) hmatured
  obtain rfl := Option.some.inj (hcranked.symm.trans hloan')
  refine ⟨_, hcranked, ?_⟩
  intro hopen'
  obtain ⟨hgrace, hdeadline⟩ := hcases hopen'
  have hsame : Loan.SameTerms loan (cranked d.config t.pre.now loan) := cranked_sameTerms _ _ _
  refine ⟨hgrace, hdeadline, ?_⟩
  rw [hsame.dueDate, hsame.installmentCount, hnow]
  exact hmatured

/-- A poke after the deadline closes the loan. -/
theorem closes_of_pokesLive (h : pokesLive id t = true)
    (hrun : (machine d tokens tok).Run (newer ++ t :: older) s)
    {deadline : ℕ} (hcornered : Cornered System.loans id deadline t.pre)
    (hlate : deadline < t.pre.now) :
    ∃ loan, t.post.state.loans id = some loan ∧ loan.isOpen = false := by
  obtain ⟨loan, hloan, hcases⟩ := hcornered
  obtain ⟨-, -, hcranked⟩ := cranks_of_pokesLive h hrun hloan
  refine ⟨_, hcranked, ?_⟩
  cases hopen : loan.isOpen with
  | false =>
      rw [cranked_of_closed hopen]
      exact hopen
  | true =>
      obtain ⟨hgrace, hdeadline⟩ := hcases hopen
      have hexpired : loan.GraceExpired t.pre.now := ⟨hgrace, lt_of_le_of_lt hdeadline hlate⟩
      rw [cranked, if_neg fun hoverdue => loan.not_overdue_and_expired _ ⟨hoverdue, hexpired⟩,
        if_pos hexpired]
      rfl

end Run

/-- **Maturity.** In every run of the wired system, whatever calls of anyone it is made of: if a
loan past its last due date is poked twice while the engine runs, the second time more than a grace
period after the first, then it is closed, and stays so to the end of the run: repaid in full or in
default. -/
theorem matured_loan_closes {newer between older : List (Transition (System T) (Input T))}
    {t t' : Transition (System T) (Input T)} {s : Timed (System T)}
    (hrun : (machine d tokens tok).Run (newer ++ t' :: (between ++ t :: older)) s) {id : ℕ}
    {loan : Loan} (hloan : t.pre.state.loans id = some loan)
    (hmatured : loan.dueDate loan.installmentCount < t.pre.now) (hpoke : pokesLive id t = true)
    (hpoke' : pokesLive id t' = true) (hlater : t.pre.now + d.config.gracePeriodSecs < t'.pre.now) :
    ∃ loan', t'.post.state.loans id = some loan' ∧ s.state.loans id = some loan' ∧
      (loan'.status = .repaid ∨ loan'.status = .defaulted) := by
  have hbooks := machine_books d tokens tok
  -- the run up to the second poke
  have hbefore : (machine d tokens tok).Run (between ++ t :: older) t'.pre := by
    have hsplit := hrun.split
    cases hsplit with
    | step run => exact run
  have hdoomed : Doomed System.loans id (t.pre.now + d.config.gracePeriodSecs) t'.pre :=
    hbefore.since hbooks.doomed_step (dooms_of_pokesLive hpoke hbefore hloan hmatured)
  obtain ⟨loan', hloan', hclosed⟩ := closes_of_pokesLive hpoke' hrun hdoomed.cornered hlater
  have hend := hrun.since (P := fun s => s.state.loans id = some loan' ∧ loan'.isOpen = false)
    hbooks.closed_step ⟨hloan', hclosed⟩
  exact ⟨loan', hloan', hend.1, Loan.isOpen_eq_false_iff.mp hclosed⟩

/-- A loan a day past its last due date is poked, partly repaid, and poked again after a grace
period: it is in default. -/
theorem matured_loan_closes_partlyRepaid : ∃ history s loan, sampleMachine.Run history s ∧
    s.state.loans 1 = some loan ∧ (loan.status = .repaid ∨ loan.status = .defaulted) := by
  obtain ⟨history, s, hrun, hshape⟩ := exists_run_of_playLoan
    (P := fun history _ => (match history with
      | t' :: _ :: _ :: _ :: t :: _ => pokesLive 1 t' && pokesLive 1 t &&
          (t.pre.state.loans 1).any (fun loan => loan.dueDate loan.installmentCount < t.pre.now) &&
          decide (t.pre.now + sample.config.gracePeriodSecs < t'.pre.now)
      | _ => false) = true)
    (show (playLoan [(345600, .engine (.poke 1)),
      (345601, .ledger (.attestRepayment ⟨5⟩ ⟨6⟩ 1 30)),
      (1555201, .engine (.poke 1))]).any _ = true by decide +kernel)
  split at hshape
  · rename_i t' b₁ b₂ b₃ t older
    simp only [Bool.and_eq_true, decide_eq_true_eq] at hshape
    obtain ⟨⟨⟨hpoke', hpoke⟩, hloan⟩, hlater⟩ := hshape
    obtain ⟨loan, hfound, hmatured⟩ := Option.any_eq_true _ _ |>.mp hloan
    have hsplit : sampleMachine.Run ([] ++ t' :: ([b₁, b₂, b₃] ++ t :: older)) s := hrun
    obtain ⟨loan', -, hloan', hclosed⟩ := matured_loan_closes hsplit hfound
      (of_decide_eq_true hmatured) hpoke hpoke' hlater
    exact ⟨_, s, loan', hrun, hloan', hclosed⟩
  · cases hshape

end RemitCollateral.Protocol
